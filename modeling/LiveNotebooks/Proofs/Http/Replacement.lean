import LiveNotebooks.Proofs.Http.Exchange
import LiveNotebooks.Proofs.Json.Reading
import LiveNotebooks.Proofs.Json.Shape
import LiveNotebooks.Proofs.Store.Bus

/-!
# Requests to replace contents

What a client asks for is told by what the body of its request literally means.  Nothing but an
object is taken, then the document must be there, and then the object is stored and sent back
as it is.  Whatever fails is told with the identifier and changes nothing.

The body is read by a reader that puts the values of embedded texts in place.  So an object
with the key for an embedded text as its first one is not taken as what it is.

**Results.**
* `faithful_iff`: when requests are treated as they are meant.
* `not_faithful_embedding`: an object that is refused.
-/

namespace LiveNotebooks
namespace Archive

open Http Store

/-! ## Answers -/

/-- A request is told why it failed, and nothing has been written or announced. -/
structure Fails (staticDirectory : Option Path) (a : Archive) (q : Arrival) (status : Nat)
    (body : Json.Value) : Prop where
  status : (q.answer staticDirectory a.store).response.status = status
  body : (q.answer staticDirectory a.store).response.body = body.pretty
  write : (q.answer staticDirectory a.store).write = none
  archive : a.serve staticDirectory q = a

/-- A request has replaced the contents of a document, which is published once, and gets them
back.  All other documents stay, and so does the rest of this one. -/
structure Replaces (staticDirectory : Option Path) (a : Archive) (q : Arrival)
    (identifier : String) (n : Notebook) (contents : Json.Value) : Prop where
  status : (q.answer staticDirectory a.store).response.status = 200
  body : (q.answer staticDirectory a.store).response.body
    = (Json.Value.object [("message", .text "Notebook updated"), ("identifier", .text identifier),
      ("data", contents)]).pretty
  write : (q.answer staticDirectory a.store).write
    = some ((a.serve staticDirectory q).store, ⟨.contentSet, identifier⟩)
  bus : Option.Rel (fun before after => before.Publishes [⟨.contentSet, identifier⟩] after)
    a.bus (a.serve staticDirectory q).bus
  entry : (a.serve staticDirectory q).store.find? identifier = some (received q contents n)
  others : ∀ other, other ≠ identifier →
    (a.serve staticDirectory q).store.find? other = a.store.find? other

/-- A request to replace the contents of a document is treated as it is meant. -/
structure Faithful (staticDirectory : Option Path) (a : Archive) (q : Arrival)
    (identifier : String) : Prop where
  refused : (∀ v, Json.Means none q.request.body v → v.isObject = false) →
    ∃ reason, Fails staticDirectory a q 400
      (.object [("identifier", .text identifier), ("error", .text reason)])
  absent : ∀ v, Json.Means none q.request.body v → v.isObject = true →
    a.store.find? identifier = none →
      Fails staticDirectory a q 404
        (.object [("message", .text "Notebook not found"), ("identifier", .text identifier)])
  present : ∀ v n, Json.Means none q.request.body v → v.isObject = true →
    a.store.find? identifier = some n → Replaces staticDirectory a q identifier n v

section

variable {staticDirectory : Option Path} {a : Archive} {q : Arrival} {identifier reason : String}
  {contents : Json.Value} {n : Notebook}

/-- The answer to a body that is not too long. -/
theorem answer_post
    (store : Store)
    (hpost : q.request.method = "POST")
    (haddressee : q.addressee? staticDirectory = some identifier)
    (hshort : q.request.body.length ≤ Notebooks.maxBodyLength) :
    let replaced := Notebooks.replace store identifier q.request.body q.moment
    (q.answer staticDirectory store).response.status = replaced.response.status
      ∧ (q.answer staticDirectory store).response.body = replaced.response.body
      ∧ (q.answer staticDirectory store).write = replaced.write := by
  obtain ⟨part, hroute, hdecode⟩ := Arrival.addressee?_eq_some_iff.1 haddressee
  have hhandled : handle (q.site staticDirectory store) q.request q.moment (.notebook part)
      = Notebooks.replace store identifier q.request.body q.moment :=
    (handle_post hpost hdecode).trans (if_neg (Nat.not_lt.2 hshort))
  have hwrite : (q.answer staticDirectory store).write
      = (handle (q.site staticDirectory store) q.request q.moment
        (q.route staticDirectory)).write := by
    simp [Arrival.answer, respond, hpost, Arrival.route, Arrival.site]
  rw [Arrival.status_answer (by simp [hpost]),
    Arrival.body_answer (by simp [hpost]) (by simp [hpost]), hwrite, hroute, hhandled]
  exact ⟨rfl, rfl, rfl⟩

theorem serve_of_write_eq_none
    (h : (q.answer staticDirectory a.store).write = none) :
    a.serve staticDirectory q = a := by
  rw [serve, h]

theorem serve_of_write_eq_some
    {write : Store × Store.Event}
    (h : (q.answer staticDirectory a.store).write = some write) :
    a.serve staticDirectory q = a.adopt write := by
  rw [serve, h]

variable (hpost : q.request.method = "POST")
  (haddressee : q.addressee? staticDirectory = some identifier)
  (hshort : q.request.body.length ≤ Notebooks.maxBodyLength)

include hpost haddressee hshort

theorem fails_of_refused
    (a : Archive)
    (hrefused : Notebooks.contents? q.request.body = .error reason) :
    Fails staticDirectory a q 400
      (.object [("identifier", .text identifier), ("error", .text reason)]) := by
  obtain ⟨hstatus, hbody, hwrite⟩ := answer_post a.store hpost haddressee hshort
  simp only [Notebooks.replace, hrefused] at hstatus hbody hwrite
  exact ⟨hstatus, hbody, hwrite, serve_of_write_eq_none hwrite⟩

theorem fails_of_absent
    (hcontents : Notebooks.contents? q.request.body = .ok contents)
    (habsent : a.store.contains identifier = false) :
    Fails staticDirectory a q 404
      (.object [("message", .text "Notebook not found"), ("identifier", .text identifier)]) := by
  obtain ⟨hstatus, hbody, hwrite⟩ := answer_post a.store hpost haddressee hshort
  simp only [Notebooks.replace, hcontents, setContents_of_not_contains habsent]
    at hstatus hbody hwrite
  exact ⟨hstatus, hbody, hwrite, serve_of_write_eq_none hwrite⟩

/-- Contents that are read from the body replace those of a document that is there. -/
theorem replaces_of_present
    (hcontents : Notebooks.contents? q.request.body = .ok contents)
    (hn : a.store.find? identifier = some n) :
    Replaces staticDirectory a q identifier n contents := by
  have hthere : a.store.contains identifier = true := by
    rw [← find?_isSome, hn]
    rfl
  obtain ⟨hstatus, hbody, hwrite⟩ := answer_post a.store hpost haddressee hshort
  simp only [Notebooks.replace, hcontents, setContents_of_contains hthere]
    at hstatus hbody hwrite
  have hserve := serve_of_write_eq_some hwrite
  have hfound : ∀ other, (a.serve staticDirectory q).store.find? other
      = if identifier = other then (a.store.find? other).map (received q contents)
        else a.store.find? other := by
    intro other
    rw [hserve]
    exact find?_apply a.store (.setContents identifier contents q.moment) other
  refine ⟨hstatus, hbody, ?_, ?_, ?_, fun other hother => ?_⟩
  · rw [hwrite, hserve]
    rfl
  · rw [hserve]
    exact Bus.rel_map_send a.bus ⟨.contentSet, identifier⟩
  · rw [hfound, if_pos rfl, hn]
    rfl
  · rw [hfound, if_neg (Ne.symm hother)]

end

/-! ## What is meant -/

section

variable {staticDirectory : Option Path} {a : Archive} {q : Arrival} {identifier : String}

/-- Contents are an object that is read from the body. -/
theorem contents?_eq_ok_iff
    {body : Bytes}
    {contents : Json.Value} :
    Notebooks.contents? body = .ok contents
      ↔ Json.Means (some Json.IsRead) body contents ∧ contents.isObject = true := by
  rw [← Json.parse_eq_ok_iff, Notebooks.contents?]
  constructor
  · intro h
    split at h
    · next v hparse =>
        split at h
        · next hobject =>
            obtain rfl := Except.ok.inj h
            exact ⟨hparse, hobject⟩
        · cases h
    · cases h
  · rintro ⟨hparse, hobject⟩
    simp only [hparse, hobject, if_true]

/-- **When requests are treated as they are meant.**  A `POST` to a document with a body that is
not too long is treated as its body is meant, just if whatever object the body literally means
is also read from it as an object, and as this one if the document is there.  That is so
whenever the object is free from embedded texts. -/
theorem faithful_iff
    (a : Archive)
    (hpost : q.request.method = "POST")
    (haddressee : q.addressee? staticDirectory = some identifier)
    (hshort : q.request.body.length ≤ Notebooks.maxBodyLength) :
    (Faithful staticDirectory a q identifier
        ↔ ∀ v, Json.Means none q.request.body v → v.isObject = true →
          ∃ w, Json.Means (some Json.IsRead) q.request.body w ∧ w.isObject = true
            ∧ (a.store.contains identifier = true → w = v))
      ∧ ((∀ v, Json.Means none q.request.body v → v.isObject = true →
          Json.Means (some fun _ _ => False) q.request.body v) →
        Faithful staticDirectory a q identifier) := by
  have hfaithful : (∀ v, Json.Means none q.request.body v → v.isObject = true →
      ∃ w, Json.Means (some Json.IsRead) q.request.body w ∧ w.isObject = true
        ∧ (a.store.contains identifier = true → w = v)) →
      Faithful staticDirectory a q identifier := by
    intro hagrees
    refine ⟨fun hnone => ?_, fun v hv hobject habsent => ?_, fun v n hv hobject hn => ?_⟩
    · cases hcontents : Notebooks.contents? q.request.body with
      | error reason => exact ⟨reason, fails_of_refused hpost haddressee hshort a hcontents⟩
      | ok w =>
          obtain ⟨hw, hobject⟩ := contents?_eq_ok_iff.1 hcontents
          obtain ⟨v, hv, hliteral⟩ := Json.exists_literal hw
          have hnot := hnone v hv
          rw [hliteral hobject] at hnot
          cases hnot
    · obtain ⟨w, hw, hwobject, _⟩ := hagrees v hv hobject
      exact fails_of_absent hpost haddressee hshort (contents?_eq_ok_iff.2 ⟨hw, hwobject⟩)
        (contains_eq_false_iff.2 habsent)
    · obtain ⟨w, hw, hwobject, hsame⟩ := hagrees v hv hobject
      have hthere : a.store.contains identifier = true := by
        rw [← find?_isSome, hn]
        rfl
      obtain rfl := hsame hthere
      exact replaces_of_present hpost haddressee hshort (contents?_eq_ok_iff.2 ⟨hw, hwobject⟩) hn
  refine ⟨⟨fun h v hv hobject => ?_, hfaithful⟩, fun hplain => hfaithful fun v hv hobject => ?_⟩
  · cases hcontents : Notebooks.contents? q.request.body with
    | error reason =>
        have hstatus := (fails_of_refused hpost haddressee hshort a hcontents).status
        cases hn : a.store.find? identifier with
        | none =>
            rw [(h.absent v hv hobject hn).status] at hstatus
            cases hstatus
        | some n =>
            rw [(h.present v n hv hobject hn).status] at hstatus
            cases hstatus
    | ok w =>
        obtain ⟨hw, hwobject⟩ := contents?_eq_ok_iff.1 hcontents
        refine ⟨w, hw, hwobject, fun hthere => ?_⟩
        rw [← find?_isSome, Option.isSome_iff_exists] at hthere
        obtain ⟨n, hn⟩ := hthere
        have hread := (replaces_of_present hpost haddressee hshort hcontents hn).entry
        rw [(h.present v n hv hobject hn).entry] at hread
        exact (congrArg Notebook.contents (Option.some.inj hread)).symm
  · exact ⟨v, Json.means_of_plain _ (hplain v hv hobject), hobject, fun _ => rfl⟩

end

/-! ## An object that is not taken as it is meant -/

def single : Archive :=
  ⟨(Store.empty.put ⟨"a", "a", "ann", .object [], ⟨1, 0⟩⟩).1, none⟩

/-- A request that sends a value for this document. -/
def sending (v : Json.Value) : Arrival :=
  ⟨⟨"POST", Utf8.encode "/notebook/a", [], v.compact⟩, ⟨[], [], 0⟩, "1", ⟨2, 0⟩⟩

theorem addressee?_sending
    (v : Json.Value) :
    (sending v).addressee? none = some "a" := by
  have hempty : (sending (.object [])).addressee? none = some "a" := by decide +kernel
  exact hempty

/-- An object whose first key is the one for an embedded text. -/
def embedding : Json.Value := .object [(Json.embeddingKey, .text "[]")]

/-- The body is literally an object with one member, whatever is read from it. -/
theorem means_embedding :
    Json.Means none (sending embedding).request.body embedding := by
  have hwritten : (sending embedding).request.body
      = 0x7B :: 0x22 :: (Json.quotedTail Json.embeddingKey
        ++ 0x3A :: 0x22 :: (Json.quotedTail "[]" ++ [0x7D])) := by
    simp [sending, embedding, Json.Value.compact, Json.render_eq, Json.valueBytes,
      Json.memberBytes, Json.Layout.lineBytes, Json.Layout.gap]
  have hone : embedding = .object (Json.collapse [(Json.embeddingKey, .text "[]")]) := rfl
  have hread : ∀ (s : String) (rest : Bytes),
      Json.readText ((Json.quotedTail s ++ rest).length + 1) (Json.quotedTail s ++ rest)
        = .ok (s, rest) :=
    fun s rest => Json.readText_quotedTail (by rw [List.length_append]; omega) rest
  have hmember : Json.memberForm (Json.valueForm none 126)
      (0x22 :: (Json.quotedTail Json.embeddingKey
        ++ 0x3A :: 0x22 :: (Json.quotedTail "[]" ++ [0x7D])))
      (Json.embeddingKey, .text "[]") [0x7D] :=
    ⟨_, _, ⟨_, rfl, hread _ _⟩, rfl, .text rfl (hread _ _)⟩
  rw [hwritten, hone]
  exact ⟨[], .object rfl rfl (.more (.inl ⟨rfl, rfl⟩) hmember (.none rfl)) (by simp), rfl⟩

/-- The same archive with a bus that is listened to. -/
def announced : Archive := ⟨single.store, some Bus.new.subscribe.1⟩

/-- An object with one member. -/
def switch : Json.Value := .object [("on", .boolean true)]

theorem means_switch :
    Json.Means (some fun _ _ => False) (sending switch).request.body switch := by
  have hregular : switch.IsRegular :=
    .object (by decide) (by decide) (List.forall_mem_singleton.2 (.boolean true))
  have hints : switch.HoldsIntegers := .object (List.forall_mem_singleton.2 (.boolean true))
  exact Json.means_render hregular hints (by decide) .compact

/-- A client switches a document on, and a listener hears of it. -/
theorem faithful_iff_switch :
    (sending switch).request.method = "POST"
      ∧ (sending switch).addressee? none = some "a"
      ∧ (sending switch).request.body.length ≤ Notebooks.maxBodyLength
      ∧ Faithful none announced (sending switch) "a"
      ∧ ((announced.serve none (sending switch)).store.find? "a").map Notebook.contents
        = some switch
      ∧ ∃ bus, (announced.serve none (sending switch)).bus = some bus
        ∧ (bus.drain 0).1 = [.event ⟨.contentSet, "a"⟩] := by
  have hshort : (sending switch).request.body.length ≤ Notebooks.maxBodyLength := by
    decide +kernel
  have haddressee := addressee?_sending switch
  have hfaithful : Faithful none announced (sending switch) "a" :=
    (faithful_iff announced rfl haddressee hshort).2 fun v hv _ => by
      rw [Json.means_unique hv (Json.means_of_plain none means_switch)]
      exact means_switch
  have hpresent := hfaithful.present switch _ (Json.means_of_plain none means_switch) rfl rfl
  refine ⟨rfl, haddressee, hshort, hfaithful, ?_, ?_⟩
  · rw [hpresent.entry]
    rfl
  · have hbus := hpresent.bus
    generalize (announced.serve none (sending switch)).bus = later at hbus ⊢
    cases hbus with
    | some hpublishes =>
        exact ⟨_, rfl, hpublishes.heard [] 0 ⟨rfl, rfl⟩ rfl (by decide)⟩

/-- The list in the embedded text is read, and refused. -/
theorem not_faithful_embedding :
    (sending embedding).request.method = "POST"
      ∧ (sending embedding).addressee? none = some "a"
      ∧ (sending embedding).request.body.length ≤ Notebooks.maxBodyLength
      ∧ single.store.contains "a" = true
      ∧ Json.Means none (sending embedding).request.body embedding
      ∧ embedding.isObject = true
      ∧ ((sending embedding).answer none single.store).response.status = 400
      ∧ ¬ Faithful none single (sending embedding) "a" := by
  have hshort : (sending embedding).request.body.length ≤ Notebooks.maxBodyLength := by
    decide +kernel
  have hrefused : Notebooks.contents? (sending embedding).request.body
      = .error "notebook contents must be a JSON object" := by
    rfl
  have hfails := fails_of_refused rfl (addressee?_sending embedding) hshort single hrefused
  refine ⟨rfl, addressee?_sending _, hshort, rfl, means_embedding, rfl, hfails.status, fun h => ?_⟩
  have hstatus := (h.present embedding _ means_embedding rfl rfl).status
  rw [hfails.status] at hstatus
  cases hstatus

end Archive
end LiveNotebooks
