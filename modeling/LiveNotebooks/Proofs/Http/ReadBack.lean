import LiveNotebooks.Proofs.Http.Replacement
import LiveNotebooks.Proofs.Notebook.WireFormat

/-!
# Contents that are sent and read

A client sends contents for a document and reads the document behind that.  The object that it
has sent comes back inside the document, one level deeper than it was sent, and with the values
of embedded texts in place.

**Results.**
* `shows_posted_iff`: when what a client reads is what it has sent.
* `not_shows_deepest`: an object that is accepted, and that makes the document unreadable.
-/

namespace LiveNotebooks
namespace Archive

open Http Store

/-- A request that sends contents for a document, which is there, and is answered with 200; and
one that reads the document. -/
structure SendsAndReads (staticDirectory : Option Path) (a : Archive) (n : Notebook)
    (post get : Arrival) : Prop where
  present : a.store.find? n.identifier = some n
  writes : post.request.method = "POST"
  target : post.addressee? staticDirectory = some n.identifier
  accepted : (post.answer staticDirectory a.store).response.status = 200
  reads : get.request.method = "GET"
  source : get.addressee? staticDirectory = some n.identifier

/-- A text is read as a document with the identifier, the title and the author of another one, and
with the given contents. -/
def Shows (text : Bytes) (n : Notebook) (contents : Json.Value) : Prop :=
  ∃ m, Notebook.parse text = .ok m
    ∧ m.identifier = n.identifier
    ∧ m.title = n.title
    ∧ m.author = n.author
    ∧ m.contents = contents

section

variable {staticDirectory : Option Path} {a : Archive} {n : Notebook} {post get : Arrival}

/-- The document that is read has the contents that were read from what was sent. -/
theorem SendsAndReads.exists_contents
    (h : SendsAndReads staticDirectory a n post get) :
    ∃ contents, Notebooks.contents? post.request.body = .ok contents
      ∧ (get.answer staticDirectory (a.serve staticDirectory post).store).response.status = 200
      ∧ (get.answer staticDirectory (a.serve staticDirectory post).store).response.body
        = (received post contents n).toJson.pretty := by
  have haccepted : post.isAccepted staticDirectory a.store n.identifier = true := by
    simp only [Arrival.isAccepted, isWritten, Bool.and_eq_true, decide_eq_true_eq]
    exact ⟨⟨h.writes, h.accepted⟩, h.target⟩
  obtain ⟨_, _, hshort, ⟨contents, hcontents⟩, _⟩ := isAccepted_iff.1 haccepted
  have hentry := (replaces_of_present h.writes h.target hshort hcontents h.present).entry
  have hread := Arrival.answer_read (a.serve staticDirectory post).store h.reads h.source
  rw [hentry] at hread
  exact ⟨contents, hcontents, hread⟩

/-- **When what a client reads is what it has sent.**  A client sends contents for a document that
is there, at a moment of which is known, and is answered with 200; then it reads the document.
This is answered with 200 as well, and what the client has sent is literally an object.  If all
numbers in it are integers, the answer is read as a document with this object as its contents,
under the identifier, the title and the author that were stored, just if the object is free from
embedded texts and opens fewer levels than a text may.  If it opens more, the answer is refused. -/
theorem shows_posted_iff
    (hknown : post.moment.IsKnown)
    (h : SendsAndReads staticDirectory a n post get) :
    let answer := (get.answer staticDirectory (a.serve staticDirectory post).store).response
    answer.status = 200
      ∧ ∃ v, Json.Means none post.request.body v
        ∧ v.isObject = true
        ∧ (v.HoldsIntegers →
          (Shows answer.body n v ↔ v.IsRegular ∧ v.levels < Json.maxLevels)
            ∧ (v.IsRegular → Json.maxLevels ≤ v.levels →
              ∃ e, Notebook.parse answer.body = .error e ∧ e.cause = .tooDeep)) := by
  intro answer
  obtain ⟨contents, hcontents, hstatus, hbody⟩ := h.exists_contents
  obtain ⟨hmeans, hobject⟩ := contents?_eq_ok_iff.1 hcontents
  obtain ⟨v, hv, hliteral⟩ := Json.exists_isLiteral hmeans
  refine ⟨hstatus, v, hv, hliteral.isObject hobject, fun hints => ?_⟩
  refine ⟨⟨fun ⟨m, hread, _, _, _, hsame⟩ => ?_, fun ⟨hregular, hfits⟩ => ?_⟩,
    fun hregular hdeep => ?_⟩
  · have hregular : v.IsRegular := hsame ▸ (Notebook.isSound_of_parse hread).1
    obtain rfl := hliteral.eq hregular
    rw [hbody] at hread
    exact ⟨hregular,
      Notebook.levels_lt_of_parse_toJson (n := received post v n) hregular hints hread⟩
  · obtain rfl := hliteral.eq hregular
    rw [hbody]
    exact ⟨received post v n,
      Notebook.parse_toJson (n := received post v n) hregular hints hknown hfits .indented,
      rfl, rfl, rfl, rfl⟩
  · obtain rfl := hliteral.eq hregular
    rw [hbody]
    exact Notebook.parse_toJson_tooDeep (n := received post v n) hregular hints hdeep .indented

end

/-! ## An object that is sent for a document -/

/-- An object within the bounds of a request is accepted. -/
theorem sendsAndReads_single
    {v : Json.Value}
    (hobject : v.isObject = true)
    (hregular : v.IsRegular)
    (hints : v.HoldsIntegers)
    (hfits : v.levels ≤ Json.maxLevels)
    (hshort : v.compact.length ≤ Notebooks.maxBodyLength) :
    SendsAndReads none single (Hub.converted (.object [])) (sending v) Hub.getA
      ∧ Json.Means none (sending v).request.body v
      ∧ Notebooks.contents? (sending v).request.body = .ok v := by
  have hcontents := (Hub.contents?_compact hobject hregular hints).1 hfits
  have hreplaced := replaces_of_present (a := single) (q := sending v)
    (n := Hub.converted (.object [])) rfl (addressee?_sending v) hshort hcontents rfl
  have hreads := Hub.sendsBack_converted (.object [])
  exact ⟨⟨rfl, rfl, addressee?_sending v, hreplaced.status, hreads.reads, hreads.source⟩,
    Json.means_of_plain none (Json.means_render hregular hints hfits .compact), hcontents⟩

theorem shows_posted_small :
    (sending Hub.small).moment.IsKnown
      ∧ SendsAndReads none single (Hub.converted (.object [])) (sending Hub.small) Hub.getA
      ∧ Json.Means none (sending Hub.small).request.body Hub.small
      ∧ Shows (Hub.getA.answer none (single.serve none (sending Hub.small)).store).response.body
        (Hub.converted (.object [])) Hub.small := by
  have hknown : (sending Hub.small).moment.IsKnown := show (Instant.mk 2 0).IsKnown by decide
  obtain ⟨hsends, hmeans, _⟩ := sendsAndReads_single (v := Hub.small) rfl Hub.isRegular_small
    Hub.holdsIntegers_small (by decide) (by decide +kernel)
  obtain ⟨_, v, hv, _, hshows⟩ := shows_posted_iff hknown hsends
  obtain rfl := Json.means_unique hv hmeans
  exact ⟨hknown, hsends, hmeans,
    (hshows Hub.holdsIntegers_small).1.2 ⟨Hub.isRegular_small, by decide⟩⟩

/-- An object that opens as many levels as a text may. -/
def deepest : Json.Value := .object [("a", Hub.nested 125)]

/-- It is accepted, but the document that holds it opens one level more. -/
theorem not_shows_deepest :
    (sending deepest).moment.IsKnown
      ∧ SendsAndReads none single (Hub.converted (.object [])) (sending deepest) Hub.getA
      ∧ Json.Means none (sending deepest).request.body deepest
      ∧ deepest.HoldsIntegers
      ∧ ¬ Shows (Hub.getA.answer none (single.serve none (sending deepest)).store).response.body
        (Hub.converted (.object [])) deepest := by
  obtain ⟨_, hregular, hints⟩ := Hub.shape_nested 125
  have hregular : deepest.IsRegular :=
    .object (by simp) (by simp [Json.embeddingKey]) (List.forall_mem_singleton.2 hregular)
  have hints : deepest.HoldsIntegers := .object (List.forall_mem_singleton.2 hints)
  obtain ⟨hsends, hmeans, hread⟩ := sendsAndReads_single (v := deepest) rfl hregular hints
    (by decide +kernel) (by decide +kernel)
  obtain ⟨contents, hcontents, _, hbody⟩ := hsends.exists_contents
  obtain rfl := Except.ok.inj (hcontents.symm.trans hread)
  refine ⟨show (Instant.mk 2 0).IsKnown by decide, hsends, hmeans, hints, ?_⟩
  rintro ⟨m, hshown, _⟩
  rw [hbody] at hshown
  have hfits := Notebook.levels_lt_of_parse_toJson
    (n := received (sending deepest) deepest (Hub.converted (.object []))) hregular hints hshown
  exact absurd hfits (by decide +kernel)

end Archive
end LiveNotebooks
