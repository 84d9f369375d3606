import LiveNotebooks.Http.Message
import LiveNotebooks.Http.Target
import LiveNotebooks.Json.Reader
import LiveNotebooks.Notebook.Codec
import LiveNotebooks.Store

/-!
# The notebook interface

Clients list the summaries, read a document and replace the contents of a document.  The
contents are refused unless they are a JSON object, whether or not the document exists.

**Results.**
* `Notebooks.read`, `Notebooks.list` answer from the store and do not change it.
* `Notebooks.replace` answers 200 exactly when it returns a new store.
-/

namespace LiveNotebooks
namespace Http
namespace Notebooks

/-- A response whose body is a JSON value with indented lines. -/
def json (status : Nat) (v : Json.Value) : Response where
  status := status
  headers := [("content-type", "application/json; charset=utf-8")]
  body := v.pretty

/-- A response whose body is a text. -/
def text (status : Nat) (s : String) : Response where
  status := status
  headers := [("content-type", "text/plain; charset=utf-8")]
  body := Utf8.encode s

/-- The response for a document that is not there. -/
def notFound (identifier : String) : Response :=
  json 404 (.object [("message", .text "Notebook not found"), ("identifier", .text identifier)])

/-- The response for contents that are refused. -/
def badRequest (identifier reason : String) : Response :=
  json 400 (.object [("identifier", .text identifier), ("error", .text reason)])

/-- The response for contents that have been stored. -/
def updated (identifier : String) (contents : Json.Value) : Response :=
  json 200
    (.object
      [("message", .text "Notebook updated"), ("identifier", .text identifier),
        ("data", contents)])

/-- The summaries of all documents. -/
def list (store : Store) : Response :=
  json 200 (.array (store.list.map Summary.toJson))

/-- The document with an identifier. -/
def read (store : Store) (identifier : String) : Response :=
  match store.find? identifier with
  | some n => json 200 n.toJson
  | none => notFound identifier

/-- The contents in a request body, or the reason for which they are refused. -/
def contents? (body : Bytes) : Except String Json.Value :=
  match Json.parse body with
  | .ok v => if v.isObject then .ok v else .error "notebook contents must be a JSON object"
  | .error e => .error e.message

def replacedLine (identifier : String) : LogLine :=
  .info ("contents of " ++ identifier ++ " replaced by client")

/-- What a request comes to: a response, and the write that it made. -/
structure Answer where
  response : Response
  write : Option (Store × Store.Event)
  log : List LogLine

/-- An answer that writes nothing. -/
def Answer.plain (response : Response) : Answer := ⟨response, none, []⟩

/-- Replaces the contents of a document. -/
def replace (store : Store) (identifier : String) (body : Bytes) (now : Instant) : Answer :=
  match contents? body with
  | .error reason => .plain (badRequest identifier reason)
  | .ok contents =>
      match store.setContents identifier contents now with
      | .error _ => .plain (notFound identifier)
      | .ok write => ⟨updated identifier contents, some write, [replacedLine identifier]⟩

/-- The number of bytes that a request body may have. -/
def maxBodyLength : Nat := 2097152

def bodyTooLong : Response :=
  text 413 "Failed to buffer the request body: length limit exceeded"

def badIdentifier : Response := text 400 "Invalid URL: Invalid UTF-8 in `identifier`"

end Notebooks
end Http
end LiveNotebooks
