import LiveNotebooks.Text.Utf8

/-!
# HTTP messages

Requests and responses as they pass between the server and the application.  Header names
are in lower case; a response has each name at most once.
-/

namespace LiveNotebooks
namespace Http

structure Request where
  method : String
  /-- The target as it stands in the request line. -/
  target : Bytes
  headers : List (String × Bytes)
  body : Bytes

abbrev Headers := List (String × String)

structure Response where
  status : Nat
  headers : Headers
  body : Bytes

/-- The value of a request header, the first one if there are several. -/
def Request.header? (r : Request) (name : String) : Option Bytes :=
  r.headers.lookup name

namespace Headers

/-- Gives a header a value, in place of the one it has. -/
def set (headers : Headers) (name value : String) : Headers :=
  (name, value) :: headers.filter fun h => h.1 ≠ name

end Headers

namespace Response

/-- A response without headers and body. -/
def bare (status : Nat) : Response := ⟨status, [], []⟩

def withHeader (r : Response) (name value : String) : Response :=
  { r with headers := r.headers.set name value }

def withHeaders (r : Response) (headers : List (String × String)) : Response :=
  headers.foldl (fun r h => r.withHeader h.1 h.2) r

end Response
end Http
end LiveNotebooks
