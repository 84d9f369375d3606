import LiveNotebooks.Http.Date
import LiveNotebooks.Http.MediaType
import LiveNotebooks.Http.Message
import LiveNotebooks.Http.Range
import LiveNotebooks.Http.Target
import LiveNotebooks.System.Files

/-!
# Static files

A directory is served file by file.  A path that leads upwards, or that starts at the root
once it is decoded, is not found.  A directory answers with its `index.html`, and only
with a slash at the end of its path.  Conditions on the date of a file and a range of its
bytes are honoured.
-/

namespace LiveNotebooks
namespace Http
namespace StaticFiles

/-- The path of the file that a decoded path names below a directory. -/
def filePath? (directory : Path) (decoded : Path) : Option Path :=
  if Path.isAbsolute decoded || (Path.parts decoded).contains Path.dotDot then none
  else some (Path.joinAll directory (Path.parts decoded))

/-- The path of the file that a request path names below a directory. -/
def requested? (directory : Path) (path : Bytes) : Option Path :=
  let decoded := percentDecode (path.dropWhile (· = 0x2F))
  match Utf8.decode? decoded with
  | some _ => filePath? directory decoded
  | none => none

/-- The response when there is no such file. -/
def notFound : Response := .bare 404

/-- The response for a directory whose path has no slash at its end. -/
def redirect (target : Target) : Response :=
  let target := { target with path := target.path ++ [0x2F] }
  (Response.bare 307).withHeader "location" (Utf8.decodeLossy target.text)

/-- The response for a path that no file can have, because it holds a zero byte. -/
def impossible (r : Request) : Response := if r.method = "HEAD" then .bare 500 else notFound

/-- The response for a file that cannot be read. -/
def failure : FileError → Response
  | .system e =>
      if e = .notFound || e = .denied || e = .notDirectory then notFound else .bare 500
  | _ => notFound

def fileHeaders (path : Path) (changedAt : Int) : List (String × String) :=
  [("content-type", MediaType.ofPath path), ("accept-ranges", "bytes"),
    ("last-modified", HeaderDate.text changedAt)]

def dateHeader? (r : Request) (name : String) : Option Int :=
  (r.header? name).bind HeaderDate.parse?

/-- The response to a condition on the date of the file that rules out its contents. -/
def condition? (r : Request) (changedAt : Int) : Option Response :=
  if (dateHeader? r "if-unmodified-since").any (· < changedAt) then some (.bare 412)
  else if (dateHeader? r "if-modified-since").any (changedAt ≤ ·) then some (.bare 304)
  else none

def rangeHeader? (r : Request) : Option Bytes :=
  (r.header? "range").filter fun v => v.all fun b => (0x20 ≤ b && b < 0x7F) || b = 0x09

/-- The answer with a file or with the parts of it that are asked for. -/
def contentsResponse (r : Request) (path : Path) (content : Bytes) (changedAt : Int) :
    Response :=
  let size := content.length
  let answer (status : Nat) (body : Bytes) (headers : List (String × String)) : Response :=
    { status := status, headers := fileHeaders path changedAt ++ headers, body := body }
  let shown (body : Bytes) : Bytes := if r.method = "HEAD" then [] else body
  let total := Digits.decimal size
  match rangeHeader? r with
  | none => answer 200 (shown content) [("content-length", total)]
  | some value =>
      match ByteRange.parse? size value with
      | none => answer 416 [] [("content-range", "bytes */" ++ total)]
      | some [range] =>
          let part := (content.drop range.first).take (range.last - range.first + 1)
          answer 206 (shown part)
            [("content-range", "bytes " ++ Digits.decimal range.first ++ "-"
                ++ Digits.decimal range.last ++ "/" ++ total),
              ("content-length", Digits.decimal part.length)]
      | some _ =>
          answer 416 (Utf8.encode "Cannot serve multipart range requests")
            [("content-range", "bytes */" ++ total)]

/-- The answer with the file at a path.  A condition is looked at before the contents, so
it may rule out those of a directory. -/
def file (files : Files) (r : Request) (path : Path) : Response :=
  match files.stat path with
  | .error e => failure e
  | .ok _ =>
      match condition? r files.changedAt with
      | some response => response
      | none =>
          match files.read path with
          | .error e => failure e
          | .ok content => contentsResponse r path content files.changedAt

/-- Serves a request for `target` from a directory. -/
def serve (files : Files) (directory : Path) (r : Request) (target : Target) : Response :=
  if r.method ≠ "GET" && r.method ≠ "HEAD" then
    (Response.bare 405).withHeader "allow" "GET,HEAD"
  else
    match requested? directory target.path with
    | none => notFound
    | some path =>
        if path.contains 0 then impossible r
        else if files.isDirectory path then
          if target.path.getLast? = some 0x2F then
            file files r (Path.join path (Utf8.encode "index.html"))
          else redirect target
        else file files r path

end StaticFiles
end Http
end LiveNotebooks
