import LiveNotebooks.Http.Notebooks
import LiveNotebooks.Http.StaticFiles

/-!
# The site

**Routing.**  A target is compared as it is written, before any decoding: `/notebooks`,
`/notebook/` and one more part, `/health`, and everything at and below `/static` if there
are static files.  A target may also have no path at all, as one that only names a server.

**Policy.**  Every response carries the same headers against caching and for isolation,
and a fresh identifier of the request.  A request with the method `OPTIONS` is answered
without looking at anything else.
-/

namespace LiveNotebooks
namespace Http

/-- What requests are answered from. -/
structure Site where
  store : Store
  files : Files
  staticDirectory : Option Path

/-- What a target stands for. -/
inductive Route where
  | notebooks
  /-- A document by the part of the path that names it, not yet decoded. -/
  | notebook (part : Bytes)
  | health
  /-- A static file; the path below `/static`. -/
  | static (target : Target)
  /-- No path at all. -/
  | pathless
  /-- Any other path. -/
  | unknown

namespace Route

def notebooksPath : Bytes := Utf8.encode "/notebooks"

/-- The bytes in front of the part that names a document. -/
def notebookStart : Bytes := Utf8.encode "/notebook/"

def healthPath : Bytes := Utf8.encode "/health"

def staticPath : Bytes := Utf8.encode "/static"

/-- What follows `/static/` as a path of its own: with a slash in front, one that is there
or a new one. -/
def rooted (rest : Bytes) : Bytes := if rest.head? = some 0x2F then rest else 0x2F :: rest

def belowStatic? (target : Target) : Option Target :=
  if staticPath.isPrefixOf target.path then
    match target.path.drop staticPath.length with
    | [] => some { target with path := [0x2F] }
    | b :: rest => if b = 0x2F then some { target with path := rooted rest } else none
  else none

/-- The part of a path that names a document: not empty and without a slash. -/
def notebookPart? (path : Bytes) : Option Bytes :=
  let part := path.drop notebookStart.length
  if notebookStart.isPrefixOf path && part ≠ [] && !part.contains 0x2F then some part else none

def ofTarget (hasStatic : Bool) (target : Target) : Route :=
  if target.path.head? ≠ some 0x2F then .pathless
  else if target.path = notebooksPath then .notebooks
  else if target.path = healthPath then .health
  else
    match notebookPart? target.path with
    | some part => .notebook part
    | none =>
        match (if hasStatic then belowStatic? target else none) with
        | some below => .static below
        | none => .unknown

def methods? : Route → Option String
  | .notebooks | .health => some "GET,HEAD"
  | .notebook _ => some "GET,HEAD,POST"
  | .static _ | .pathless | .unknown => none

/-- Do the responses of a route state the length of the body? -/
def statesLength : Route → Bool
  | .notebooks | .health | .notebook _ | .pathless => true
  | .static _ | .unknown => false

end Route

/-- Runs a handler on the identifier that a part of a path stands for. -/
def withIdentifier (part : Bytes) (handler : String → Notebooks.Answer) : Notebooks.Answer :=
  match Utf8.decode? (percentDecode part) with
  | some identifier => handler identifier
  | none => .plain Notebooks.badIdentifier

/-- The response of a route to a method that it does not know. -/
def methodNotAllowed (methods : String) : Response :=
  (Response.bare 405).withHeader "allow" methods

/-- The answer of a route to a request that is not about its options. -/
def handle (site : Site) (r : Request) (now : Instant) (route : Route) : Notebooks.Answer :=
  let reads := r.method = "GET" || r.method = "HEAD"
  match route with
  | .notebooks =>
      .plain (if reads then Notebooks.list site.store else methodNotAllowed "GET,HEAD")
  | .health => .plain (if reads then Notebooks.text 200 "OK" else methodNotAllowed "GET,HEAD")
  | .notebook part =>
      if reads then
        withIdentifier part fun identifier => .plain (Notebooks.read site.store identifier)
      else if r.method = "POST" then
        withIdentifier part fun identifier =>
          if Notebooks.maxBodyLength < r.body.length then .plain Notebooks.bodyTooLong
          else Notebooks.replace site.store identifier r.body now
      else .plain (methodNotAllowed "GET,HEAD,POST")
  | .static target =>
      match site.staticDirectory with
      | some directory => .plain (StaticFiles.serve site.files directory r target)
      | none => .plain (.bare 404)
  | .pathless | .unknown => .plain (.bare 404)

/-- The answer to a question for the options of a route. -/
def preflight (route : Route) : Response :=
  let response : Response := { status := 204, headers := [], body := [] }
  let response := response.withHeaders
    [("access-control-allow-methods", "GET, POST, OPTIONS"),
      ("access-control-allow-headers", "*")]
  match route.methods? with
  | some methods => response.withHeader "allow" methods
  | none => response

/-- A body of which the length is stated is left out when only the headers are asked for. -/
def finishBody (r : Request) (route : Route) (response : Response) : Response :=
  if route.statesLength then
    let response := response.withHeader "content-length" (Digits.decimal response.body.length)
    if r.method = "HEAD" then { response with body := [] } else response
  else response

/-- The headers of every response. -/
def policy : List (String × String) :=
  [("cache-control", "no-cache, no-store, must-revalidate"), ("pragma", "no-cache"),
    ("expires", "0"), ("cross-origin-embedder-policy", "require-corp"),
    ("cross-origin-opener-policy", "same-origin"),
    ("cross-origin-resource-policy", "same-origin"), ("access-control-allow-origin", "*")]

/-- The response with the headers of the policy and the identifier of the request. -/
def applyPolicy (requestId : String) (response : Response) : Response :=
  (response.withHeaders policy).withHeader "x-request-id" requestId

/-- Answers a request. -/
def respond (site : Site) (requestId : String) (now : Instant) (r : Request) : Notebooks.Answer :=
  let route := Route.ofTarget site.staticDirectory.isSome (Target.parse r.target)
  let answer :=
    if r.method = "OPTIONS" then .plain (preflight route) else handle site r now route
  { answer with response := applyPolicy requestId (finishBody r route answer.response) }

end Http
end LiveNotebooks
