import LiveNotebooks.Http.Site
import LiveNotebooks.Proofs.Store.Calls

/-!
# Requests that write

Of all requests only one kind writes: a `POST` to the path of a document, with a JSON object
as its body.  The client can tell from the answer whether it has written.

**Results.**
* `respond_written`: a request writes just when it is a `POST` that is answered with 200,
  and then it replaces the contents of a document that is there by an object.
-/

namespace LiveNotebooks
namespace Http

open Store (Write)

/-- The write that a request with the method `POST` asks for on a route. -/
def Route.write? (body : Bytes) (moment : Instant) : Route → Option Write
  | .notebook part =>
      match Utf8.decode? (percentDecode part), Notebooks.contents? body with
      | some identifier, .ok contents => some (.setContents identifier contents moment)
      | _, _ => none
  | _ => none

/-- The write that a request with the method `POST` asks for. -/
def requestedWrite? (site : Site) (r : Request) (moment : Instant) : Option Write :=
  (Route.ofTarget site.staticDirectory.isSome (Target.parse r.target)).write? r.body moment

/-- Is the request a `POST` that is answered with 200? -/
def isWritten (site : Site) (requestId : String) (moment : Instant) (r : Request) : Bool :=
  r.method = "POST" && (respond site requestId moment r).response.status = 200

/-! ## The status of an answer -/

@[simp] theorem status_withHeader
    (r : Response)
    (name value : String) :
    (r.withHeader name value).status = r.status :=
  rfl

@[simp] theorem status_withHeaders
    (r : Response)
    (headers : Headers) :
    (r.withHeaders headers).status = r.status := by
  induction headers generalizing r with
  | nil => rfl
  | cons h rest ih => exact ih (r.withHeader h.1 h.2)

@[simp] theorem status_applyPolicy
    (requestId : String)
    (r : Response) :
    (applyPolicy requestId r).status = r.status := by
  simp [applyPolicy]

@[simp] theorem status_finishBody
    (r : Request)
    (route : Route)
    (response : Response) :
    (finishBody r route response).status = response.status := by
  unfold finishBody
  split
  · split <;> rfl
  · rfl

theorem status_serve
    {r : Request}
    (h : r.method = "POST")
    (files : Files)
    (directory : Path)
    (target : Target) :
    (StaticFiles.serve files directory r target).status = 405 := by
  simp [StaticFiles.serve, h, Response.bare]

/-! ## What writes -/

/-- An answer to a request that writes nothing, and is not 200 if the request is a `POST`. -/
structure Refused (r : Request) (answer : Notebooks.Answer) : Prop where
  write : answer.write = none
  status : r.method = "POST" → answer.response.status ≠ 200

/-- An answer to a request that has replaced the contents of a document. -/
structure Replaced (store : Store) (r : Request) (identifier : String) (contents : Json.Value)
    (moment : Instant) (answer : Notebooks.Answer) : Prop where
  method : r.method = "POST"
  status : answer.response.status = 200
  isObject : contents.isObject = true
  present : store.contains identifier = true
  write : answer.write
    = some ((Write.setContents identifier contents moment).apply store, ⟨.contentSet, identifier⟩)

section

variable {site : Site} {r : Request} {moment : Instant} {route : Route}

/-- Only objects are taken as contents. -/
theorem isObject_of_contents?
    {body : Bytes}
    {contents : Json.Value}
    (h : Notebooks.contents? body = .ok contents) :
    contents.isObject = true := by
  unfold Notebooks.contents? at h
  split at h
  · split at h
    · next hobject =>
        cases h
        exact hobject
    · cases h
  · cases h

theorem refused_plain
    {response : Response}
    (h : r.method = "POST" → response.status ≠ 200) :
    Refused r (.plain response) :=
  ⟨rfl, h⟩

/-- Contents replace those of a document that is there, if they are an object. -/
theorem replace_cases
    (hpost : r.method = "POST")
    (store : Store)
    (identifier : String)
    (moment : Instant) :
    Refused r (Notebooks.replace store identifier r.body moment)
      ∨ ∃ contents,
        Notebooks.contents? r.body = .ok contents
          ∧ Replaced store r identifier contents moment
            (Notebooks.replace store identifier r.body moment) := by
  unfold Notebooks.replace
  cases hcontents : Notebooks.contents? r.body with
  | error reason =>
      exact .inl (refused_plain (by simp [Notebooks.badRequest, Notebooks.json]))
  | ok contents =>
      cases hthere : store.contains identifier with
      | false =>
          simp only [Store.setContents_of_not_contains hthere]
          exact .inl (refused_plain (by simp [Notebooks.notFound, Notebooks.json]))
      | true =>
          have hobject := isObject_of_contents? hcontents
          simp only [Store.setContents_of_contains hthere]
          exact .inr ⟨contents, rfl, hpost, rfl, hobject, hthere, rfl⟩

theorem handle_notebook_of_not_post
    (hpost : r.method ≠ "POST")
    (part : Bytes) :
    Refused r (handle site r moment (.notebook part)) := by
  simp only [handle, hpost, if_false]
  split
  · unfold withIdentifier
    split <;> exact refused_plain fun h => absurd h hpost
  · exact refused_plain fun h => absurd h hpost

/-- A `POST` to a document is refused, or it replaces the contents that its body says. -/
theorem handle_notebook
    (hpost : r.method = "POST")
    (part : Bytes) :
    Refused r (handle site r moment (.notebook part))
      ∨ ∃ identifier contents,
        (Route.notebook part).write? r.body moment = some (.setContents identifier contents moment)
          ∧ Replaced site.store r identifier contents moment
            (handle site r moment (.notebook part)) := by
  simp only [handle, hpost, if_true, withIdentifier]
  cases hdecode : Utf8.decode? (percentDecode part) with
  | none => exact .inl (refused_plain (by simp [Notebooks.badIdentifier, Notebooks.text]))
  | some identifier =>
      by_cases hlong : Notebooks.maxBodyLength < r.body.length
      · simp only [hlong, if_true]
        exact .inl (refused_plain (by simp [Notebooks.bodyTooLong, Notebooks.text]))
      · simp only [hlong, if_false]
        rcases replace_cases hpost site.store identifier moment with
          hrefused | ⟨contents, hcontents, hreplaced⟩
        · exact .inl hrefused
        · refine .inr ⟨identifier, contents, ?_, hreplaced⟩
          simp [Route.write?, hdecode, hcontents]

/-- A request changes nothing but the contents of the document that it writes. -/
theorem handle_cases
    (site : Site)
    (r : Request)
    (moment : Instant)
    (route : Route) :
    Refused r (handle site r moment route)
      ∨ ∃ identifier contents,
        route.write? r.body moment = some (.setContents identifier contents moment)
          ∧ Replaced site.store r identifier contents moment (handle site r moment route) := by
  cases route with
  | notebook part =>
      by_cases hpost : r.method = "POST"
      · exact handle_notebook hpost part
      · exact .inl (handle_notebook_of_not_post hpost part)
  | notebooks =>
      refine .inl (refused_plain fun hpost => ?_)
      simp [hpost, methodNotAllowed, Response.bare]
  | health =>
      refine .inl (refused_plain fun hpost => ?_)
      simp [hpost, methodNotAllowed, Response.bare]
  | static target =>
      left
      simp only [handle]
      cases site.staticDirectory with
      | none => exact refused_plain fun _ => by simp [Response.bare]
      | some directory =>
          refine refused_plain fun hpost => ?_
          simp [status_serve hpost]
  | pathless => exact .inl (refused_plain fun _ => by simp [Response.bare])
  | unknown => exact .inl (refused_plain fun _ => by simp [Response.bare])

/-- A request writes just when it is a `POST` that is answered with 200.  Then it was asked to
replace the contents of a document, which is there, by an object. -/
theorem respond_written
    (site : Site)
    (requestId : String)
    (moment : Instant)
    (r : Request) :
    (isWritten site requestId moment r = false ∧ (respond site requestId moment r).write = none)
      ∨ ∃ identifier contents,
        requestedWrite? site r moment = some (.setContents identifier contents moment)
          ∧ isWritten site requestId moment r = true
          ∧ Replaced site.store r identifier contents moment (respond site requestId moment r) := by
  by_cases hoptions : r.method = "OPTIONS"
  · left
    simp [isWritten, respond, hoptions, Notebooks.Answer.plain]
  · rcases handle_cases site r moment
        (Route.ofTarget site.staticDirectory.isSome (Target.parse r.target)) with
      hrefused | ⟨identifier, contents, hasked, hreplaced⟩
    · left
      have hwrite := hrefused.write
      have hstatus := hrefused.status
      constructor
      · simpa [isWritten, respond, hoptions] using hstatus
      · simpa [respond, hoptions] using hwrite
    · right
      refine ⟨identifier, contents, hasked, ?_, ?_⟩
      · simp [isWritten, respond, hreplaced.method, hreplaced.status]
      · refine ⟨hreplaced.method, ?_, hreplaced.isObject, hreplaced.present, ?_⟩
        · simpa [respond, hoptions] using hreplaced.status
        · simpa [respond, hoptions] using hreplaced.write

end

end Http
end LiveNotebooks
