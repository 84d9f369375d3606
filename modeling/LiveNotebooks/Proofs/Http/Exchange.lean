import LiveNotebooks.Proofs.Http.Writes

/-!
# Requests one after another

The site answers requests one after another.  A `POST` that is answered with 200 replaces the
contents of a document; all other requests leave the documents as they are and announce
nothing.  So whoever reads a document reads what was sent last.

**Algorithm.**  `accepted` goes through the requests with the documents at their time, and
keeps those that were sent to one document and answered with 200.

**Results.**
* `isWritten_iff`: which requests are answered with 200 and write.
* `Archive.serve_cases`: what becomes of the documents by one request.
* `Archive.entry_serveAll`: what has become of a document behind some requests.
* `requests_read_writes`: what requests change, and what they are answered.
-/

namespace LiveNotebooks
namespace Http

open Store (Write)

/-- A request as it is answered. -/
structure Arrival where
  request : Request
  /-- The static files at that time. -/
  files : Files
  requestId : String
  moment : Instant

namespace Arrival

variable (staticDirectory : Option Path) (store : Store) (q : Arrival)

/-- What the request is answered from. -/
def site : Site := ⟨store, q.files, staticDirectory⟩

def answer : Notebooks.Answer :=
  respond (q.site staticDirectory store) q.requestId q.moment q.request

def route : Route :=
  Route.ofTarget staticDirectory.isSome (Target.parse q.request.target)

/-- The document whose path the request names. -/
def addressee? : Option String :=
  match q.route staticDirectory with
  | .notebook part => Utf8.decode? (percentDecode part)
  | _ => none

/-- Is the request a `POST` to a document that is answered with 200? -/
def isAccepted (identifier : String) : Bool :=
  isWritten (q.site staticDirectory store) q.requestId q.moment q.request
    && q.addressee? staticDirectory = some identifier

end Arrival

/-! ## Which requests write -/

section

variable {site : Site} {r : Request} {requestId identifier : String} {moment : Instant}
  {part : Bytes}

/-- A request writes only what its body says, to the document that its path names. -/
theorem requestedWrite?_eq_some
    {contents : Json.Value}
    (h : requestedWrite? site r moment = some (.setContents identifier contents moment)) :
    ∃ part, Route.ofTarget site.staticDirectory.isSome (Target.parse r.target) = .notebook part
      ∧ Utf8.decode? (percentDecode part) = some identifier
      ∧ Notebooks.contents? r.body = .ok contents := by
  unfold requestedWrite? Route.write? at h
  split at h
  · next part hroute =>
      split at h
      · next hdecode hcontents =>
          cases h
          exact ⟨part, hroute, hdecode, hcontents⟩
      · cases h
  · cases h

theorem handle_post
    (hpost : r.method = "POST")
    (hdecode : Utf8.decode? (percentDecode part) = some identifier) :
    handle site r moment (.notebook part)
      = if Notebooks.maxBodyLength < r.body.length then .plain Notebooks.bodyTooLong
        else Notebooks.replace site.store identifier r.body moment := by
  simp [handle, hpost, withIdentifier, hdecode]

theorem handle_get
    (hget : r.method = "GET")
    (hdecode : Utf8.decode? (percentDecode part) = some identifier) :
    handle site r moment (.notebook part) = .plain (Notebooks.read site.store identifier) := by
  simp [handle, hget, withIdentifier, hdecode]

@[simp] theorem body_withHeaders
    (response : Response)
    (headers : Headers) :
    (response.withHeaders headers).body = response.body := by
  induction headers generalizing response with
  | nil => rfl
  | cons h rest ih => exact ih (response.withHeader h.1 h.2)

theorem body_finishBody
    (hhead : r.method ≠ "HEAD")
    (route : Route)
    (response : Response) :
    (finishBody r route response).body = response.body := by
  unfold finishBody
  split
  · rfl
  · rfl

end

namespace Arrival

variable {staticDirectory : Option Path} {store : Store} {q : Arrival} {identifier : String}

theorem addressee?_eq_some_iff :
    q.addressee? staticDirectory = some identifier
      ↔ ∃ part, q.route staticDirectory = .notebook part
        ∧ Utf8.decode? (percentDecode part) = some identifier := by
  unfold addressee?
  cases q.route staticDirectory <;> simp

theorem status_answer
    (hoptions : q.request.method ≠ "OPTIONS") :
    (q.answer staticDirectory store).response.status
      = (handle (q.site staticDirectory store) q.request q.moment
        (q.route staticDirectory)).response.status := by
  simp [answer, respond, hoptions, route, site]

/-- The body of an answer goes as the route has made it, if there is to be one. -/
theorem body_answer
    (hoptions : q.request.method ≠ "OPTIONS")
    (hhead : q.request.method ≠ "HEAD") :
    (q.answer staticDirectory store).response.body
      = (handle (q.site staticDirectory store) q.request q.moment
        (q.route staticDirectory)).response.body := by
  have hpolicy : ∀ response : Response,
      (applyPolicy q.requestId response).body = response.body :=
    fun response => body_withHeaders response policy
  simp only [answer, respond, hoptions, if_false, hpolicy, body_finishBody hhead]
  rfl

/-- What a request to a document is answered, if it is a `POST`. -/
theorem status_post
    (hpost : q.request.method = "POST")
    (haddressee : q.addressee? staticDirectory = some identifier) :
    (q.answer staticDirectory store).response.status
      = (if Notebooks.maxBodyLength < q.request.body.length then
          Notebooks.Answer.plain Notebooks.bodyTooLong
        else Notebooks.replace store identifier q.request.body q.moment).response.status := by
  obtain ⟨part, hroute, hdecode⟩ := addressee?_eq_some_iff.1 haddressee
  rw [status_answer (by simp [hpost]), hroute, handle_post hpost hdecode]
  rfl

/-- A request is answered with 200 and writes just if it is a `POST` with an object that is
not too long, to a document that is there. -/
theorem isWritten_iff :
    isWritten (q.site staticDirectory store) q.requestId q.moment q.request = true
      ↔ q.request.method = "POST" ∧ ∃ identifier contents,
        q.addressee? staticDirectory = some identifier
          ∧ q.request.body.length ≤ Notebooks.maxBodyLength
          ∧ Notebooks.contents? q.request.body = .ok contents
          ∧ store.contains identifier = true := by
  constructor
  · intro h
    rcases respond_written (q.site staticDirectory store) q.requestId q.moment q.request with
      ⟨hnot, _⟩ | ⟨identifier, contents, hasked, _, hreplaced⟩
    · rw [h] at hnot
      cases hnot
    · obtain ⟨part, hroute, hdecode, hcontents⟩ := requestedWrite?_eq_some hasked
      have haddressee : q.addressee? staticDirectory = some identifier :=
        addressee?_eq_some_iff.2 ⟨part, hroute, hdecode⟩
      refine ⟨hreplaced.method, identifier, contents, haddressee, ?_, hcontents, hreplaced.present⟩
      rcases Nat.lt_or_ge Notebooks.maxBodyLength q.request.body.length with hlong | hshort
      · have hstatus : (q.answer staticDirectory store).response.status = 200 := hreplaced.status
        rw [status_post hreplaced.method haddressee, if_pos hlong] at hstatus
        cases hstatus
      · exact hshort
  · rintro ⟨hpost, identifier, contents, haddressee, hshort, hcontents, hthere⟩
    have hstatus : (q.answer staticDirectory store).response.status = 200 := by
      rw [status_post hpost haddressee, if_neg (Nat.not_lt.2 hshort)]
      simp only [Notebooks.replace, hcontents, Store.setContents_of_contains hthere]
      rfl
    simp only [answer] at hstatus
    simp [isWritten, hpost, hstatus]

/-- What a request to read a document is answered. -/
theorem answer_read
    (store : Store)
    (hget : q.request.method = "GET")
    (haddressee : q.addressee? staticDirectory = some identifier) :
    match store.find? identifier with
    | some n => (q.answer staticDirectory store).response.status = 200
        ∧ (q.answer staticDirectory store).response.body = n.toJson.pretty
    | none => (q.answer staticDirectory store).response.status = 404
        ∧ (q.answer staticDirectory store).response.body
          = (Json.Value.object
            [("message", .text "Notebook not found"),
              ("identifier", .text identifier)]).pretty := by
  obtain ⟨part, hroute, hdecode⟩ := addressee?_eq_some_iff.1 haddressee
  rw [status_answer (by simp [hget]), body_answer (by simp [hget]) (by simp [hget]), hroute,
    handle_get hget hdecode]
  simp only [Notebooks.Answer.plain, Notebooks.read, site]
  cases store.find? identifier <;>
    simp only [Notebooks.notFound, Notebooks.json, and_self]

/-- What a request to list the documents is answered. -/
theorem answer_list
    (store : Store)
    (hget : q.request.method = "GET")
    (hroute : q.route staticDirectory = .notebooks) :
    (q.answer staticDirectory store).response.status = 200
      ∧ (q.answer staticDirectory store).response.body
        = (Json.Value.array (store.notebooks.map fun n => n.summary.toJson)).pretty := by
  rw [status_answer (by simp [hget]), body_answer (by simp [hget]) (by simp [hget]), hroute]
  simp [handle, hget, Notebooks.Answer.plain, Notebooks.list, Notebooks.json, Store.list, site,
    Function.comp_def]

end Arrival
end Http

/-! ## Requests one after another -/

namespace Archive

open Http Store

/-- The archive behind a request. -/
def serve (staticDirectory : Option Path) (a : Archive) (q : Arrival) : Archive :=
  match (q.answer staticDirectory a.store).write with
  | some write => a.adopt write
  | none => a

/-- The archive behind some requests. -/
def serveAll (staticDirectory : Option Path) (a : Archive) (arrivals : List Arrival) : Archive :=
  arrivals.foldl (serve staticDirectory) a

/-- Of some requests those that were a `POST` to a document and were answered with 200. -/
def accepted (staticDirectory : Option Path) (identifier : String) :
    Archive → List Arrival → List Arrival
  | _, [] => []
  | a, q :: rest =>
      if q.isAccepted staticDirectory a.store identifier then
        q :: accepted staticDirectory identifier (a.serve staticDirectory q) rest
      else accepted staticDirectory identifier (a.serve staticDirectory q) rest

/-- A document with what a request has sent for it. -/
def received (q : Arrival) (contents : Json.Value) (n : Notebook) : Notebook :=
  { n with contents := contents, updatedAt := q.moment }

/-- The entry of a document behind some requests, of which these were accepted for it. -/
structure Entry (before after : Option Notebook) (accepted : List Arrival) : Prop where
  untouched : accepted = [] → after = before
  last : ∀ q, accepted.getLast? = some q → ∃ contents,
    Notebooks.contents? q.request.body = .ok contents ∧ after = before.map (received q contents)

section

variable {staticDirectory : Option Path} {a : Archive} {q : Arrival} {arrivals : List Arrival}

/-- A request that is not accepted changes nothing and announces nothing. -/
theorem serve_cases
    (staticDirectory : Option Path)
    (a : Archive)
    (q : Arrival) :
    (isWritten (q.site staticDirectory a.store) q.requestId q.moment q.request = false
        ∧ a.serve staticDirectory q = a)
      ∨ ∃ identifier contents,
        q.isAccepted staticDirectory a.store identifier = true
          ∧ q.addressee? staticDirectory = some identifier
          ∧ Notebooks.contents? q.request.body = .ok contents
          ∧ a.serve staticDirectory q
            = a.adopt ((Write.setContents identifier contents q.moment).apply a.store,
              ⟨.contentSet, identifier⟩) := by
  rcases respond_written (q.site staticDirectory a.store) q.requestId q.moment q.request with
    ⟨hnot, hwrite⟩ | ⟨identifier, contents, hasked, hwritten, hreplaced⟩
  · refine .inl ⟨hnot, ?_⟩
    simp only [serve, Arrival.answer, hwrite]
  · obtain ⟨part, hroute, hdecode, hcontents⟩ := requestedWrite?_eq_some hasked
    have haddressee : q.addressee? staticDirectory = some identifier :=
      Arrival.addressee?_eq_some_iff.2 ⟨part, hroute, hdecode⟩
    refine .inr ⟨identifier, contents, ?_, haddressee, hcontents, ?_⟩
    · simp [Arrival.isAccepted, hwritten, haddressee]
    · simp only [serve, Arrival.answer, hreplaced.write]
      rfl

/-- What becomes of a document by one request. -/
theorem entry_serve
    (staticDirectory : Option Path)
    (a : Archive)
    (q : Arrival)
    (identifier : String) :
    (q.isAccepted staticDirectory a.store identifier = false
        ∧ (a.serve staticDirectory q).store.find? identifier = a.store.find? identifier)
      ∨ ∃ contents, q.isAccepted staticDirectory a.store identifier = true
        ∧ Notebooks.contents? q.request.body = .ok contents
        ∧ (a.serve staticDirectory q).store.find? identifier
          = (a.store.find? identifier).map (received q contents) := by
  rcases serve_cases staticDirectory a q with
    ⟨hnot, hserve⟩ | ⟨target, contents, hwritten, haddressee, hcontents, hserve⟩
  · left
    rw [hserve]
    simp [Arrival.isAccepted, hnot]
  · have hstore : (a.serve staticDirectory q).store
        = (Write.setContents target contents q.moment).apply a.store := by
      rw [hserve]
      rfl
    rw [hstore, find?_apply]
    by_cases hid : target = identifier
    · subst hid
      exact .inr ⟨contents, hwritten, hcontents, if_pos rfl⟩
    · left
      constructor
      · simp [Arrival.isAccepted, haddressee, hid]
      · exact if_neg hid

/-- What has become of a document behind some requests.  What is sent later takes the place of
what was sent before. -/
theorem entry_serveAll
    (staticDirectory : Option Path)
    (a : Archive)
    (arrivals : List Arrival)
    (identifier : String) :
    Entry (a.store.find? identifier) ((a.serveAll staticDirectory arrivals).store.find? identifier)
      (accepted staticDirectory identifier a arrivals) := by
  induction arrivals generalizing a with
  | nil => exact ⟨fun _ => rfl, fun q hq => by cases hq⟩
  | cons q rest ih =>
      obtain ⟨huntouched, hlast⟩ := ih (a.serve staticDirectory q)
      rcases entry_serve staticDirectory a q identifier with
        ⟨hnot, hfound⟩ | ⟨contents, haccepted, hcontents, hfound⟩
      · rw [hfound] at huntouched hlast
        simp only [accepted, hnot]
        exact ⟨huntouched, hlast⟩
      · simp only [accepted, haccepted, if_true]
        refine ⟨fun hnone => absurd hnone (List.cons_ne_nil q _), fun p hp => ?_⟩
        cases hrest : accepted staticDirectory identifier (a.serve staticDirectory q) rest with
        | nil =>
            rw [hrest] at hp
            obtain rfl : q = p := Option.some.inj hp
            exact ⟨contents, hcontents, (huntouched hrest).trans hfound⟩
        | cons first others =>
            rw [hrest, List.getLast?_cons_cons] at hp
            rw [hrest] at hlast
            obtain ⟨later, hlater, hafter⟩ := hlast p hp
            have hsame : ((a.serve staticDirectory q).store.find? identifier).map
                (received p later) = (a.store.find? identifier).map (received p later) := by
              rw [hfound, Option.map_map]
              rfl
            exact ⟨later, hlater, hafter.trans hsame⟩

/-- Titles and authors stay, and no document comes or goes. -/
theorem Entry.owner_eq
    {before after : Option Notebook}
    {accepted : List Arrival}
    (h : Entry before after accepted) :
    after.map (fun n => (n.identifier, n.title, n.author))
      = before.map (fun n => (n.identifier, n.title, n.author)) := by
  cases hlast : accepted.getLast? with
  | none => rw [h.untouched (List.getLast?_eq_none_iff.1 hlast)]
  | some q =>
      obtain ⟨contents, _, rfl⟩ := h.last q hlast
      rw [Option.map_map]
      rfl

/-- A request is accepted just if it is a `POST` with an object that is not too long, to a
document that is there. -/
theorem isAccepted_iff
    {identifier : String} :
    q.isAccepted staticDirectory a.store identifier = true
      ↔ q.request.method = "POST" ∧ q.addressee? staticDirectory = some identifier
        ∧ q.request.body.length ≤ Notebooks.maxBodyLength
        ∧ (∃ contents, Notebooks.contents? q.request.body = .ok contents)
        ∧ a.store.contains identifier = true := by
  rw [Arrival.isAccepted, Bool.and_eq_true, Arrival.isWritten_iff, decide_eq_true_iff]
  constructor
  · rintro ⟨⟨hpost, target, contents, htarget, hshort, hcontents, hthere⟩, haddressee⟩
    rw [haddressee] at htarget
    cases htarget
    exact ⟨hpost, haddressee, hshort, ⟨contents, hcontents⟩, hthere⟩
  · rintro ⟨hpost, haddressee, hshort, ⟨contents, hcontents⟩, hthere⟩
    exact ⟨⟨hpost, identifier, contents, haddressee, hshort, hcontents, hthere⟩, haddressee⟩

/-- **Requests change contents only, and reads see them.**  Behind any requests the entry of a
document is the first one with the contents and the moment of the last `POST` that was sent
to it and answered with 200, if there was one.  No document has come or gone, and titles and
authors are as before.  A `GET` of a document is answered with what is there, or with 404 and
the identifier; a `GET` of the list with the summaries in the order of the identifiers.  A
request is accepted just if it is a `POST` to a document that is there, with an object that
is not too long, and any other request leaves documents and bus as they are. -/
theorem requests_read_writes
    (staticDirectory : Option Path)
    (a : Archive)
    (arrivals : List Arrival) :
    let now := a.serveAll staticDirectory arrivals
    (∀ identifier,
      Entry (a.store.find? identifier) (now.store.find? identifier)
        (accepted staticDirectory identifier a arrivals))
      ∧ (∀ identifier,
        (now.store.find? identifier).map (fun n => (n.identifier, n.title, n.author))
          = (a.store.find? identifier).map fun n => (n.identifier, n.title, n.author))
      ∧ (∀ (q : Arrival) (identifier : String), q.request.method = "GET" →
        q.addressee? staticDirectory = some identifier →
          match now.store.find? identifier with
          | some n => (q.answer staticDirectory now.store).response.status = 200
              ∧ (q.answer staticDirectory now.store).response.body = n.toJson.pretty
          | none => (q.answer staticDirectory now.store).response.status = 404
              ∧ (q.answer staticDirectory now.store).response.body
                = (Json.Value.object [("message", .text "Notebook not found"),
                  ("identifier", .text identifier)]).pretty)
      ∧ (∀ q : Arrival, q.request.method = "GET" → q.route staticDirectory = .notebooks →
        (q.answer staticDirectory now.store).response.status = 200
          ∧ (q.answer staticDirectory now.store).response.body
            = (Json.Value.array (now.store.notebooks.map fun n => n.summary.toJson)).pretty)
      ∧ (now.store.notebooks.Pairwise fun n m => n.identifier < m.identifier)
      ∧ (∀ (q : Arrival) (identifier : String),
        q.isAccepted staticDirectory now.store identifier = true
        ↔ q.request.method = "POST" ∧ q.addressee? staticDirectory = some identifier
          ∧ q.request.body.length ≤ Notebooks.maxBodyLength
          ∧ (∃ contents, Notebooks.contents? q.request.body = .ok contents)
          ∧ now.store.contains identifier = true)
      ∧ (∀ q : Arrival, (∀ identifier, q.isAccepted staticDirectory now.store identifier = false) →
        now.serve staticDirectory q = now) := by
  intro now
  have hentries := entry_serveAll staticDirectory a arrivals
  refine ⟨hentries, fun identifier => (hentries identifier).owner_eq, ?_, ?_,
    now.store.ascending, fun q identifier => isAccepted_iff, ?_⟩
  · intro q identifier hget haddressee
    exact Arrival.answer_read now.store hget haddressee
  · intro q hget hroute
    exact Arrival.answer_list now.store hget hroute
  · intro q hnot
    rcases serve_cases staticDirectory now q with ⟨_, hserve⟩ | ⟨identifier, _, haccepted, _⟩
    · exact hserve
    · rw [hnot identifier] at haccepted
      cases haccepted

end

end Archive
end LiveNotebooks
