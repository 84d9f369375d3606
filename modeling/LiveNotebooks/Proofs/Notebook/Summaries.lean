import LiveNotebooks.Proofs.Http.Exchange
import LiveNotebooks.Proofs.Json.LeftOut
import LiveNotebooks.Proofs.Notebook.WireFormat

/-!
# Summaries of documents

A summary has the fields of a document except for the contents.  It is read from every object that
a document is read from, and from what any document is written as, whatever its contents; and it is
written as the document is, without the contents.

**Results.**
* `leavesOut_contents`: what the schema of summaries has in common with that of documents.
* `parse_summary`: a summary is read from what a document is written as.
* `summary_agrees`: summaries agree with the documents.
-/

namespace LiveNotebooks

open Json

namespace NotebookFields

/-! ## Fields -/

def withoutContents (record : NotebookFields) : NotebookFields :=
  { record with contents := none }

section

variable {β : Type} {fuel levels : Nat} {text rest : Bytes} {name : String}
  {isGiven : NotebookFields → Bool} {reader : PartReader β}
  {set : NotebookFields → β → NotebookFields}

theorem store_eq_ok_iff
    {record record' : NotebookFields} :
    store reader set record fuel levels text = .ok (record', rest)
      ↔ ∃ a, reader fuel levels text = .ok (a, rest) ∧ set record a = record' := by
  rw [store, map_eq_ok_iff]
  constructor
  · rintro ⟨⟨a, after⟩, hread, hsame⟩
    obtain ⟨rfl, rfl⟩ := Prod.mk.inj hsame
    exact ⟨a, hread, rfl⟩
  · rintro ⟨a, hread, rfl⟩
    exact ⟨(a, rest), hread, rfl⟩

theorem isKept_store
    (hgiven : ∀ record, isGiven (withoutContents record) = isGiven record)
    (hset : ∀ record a, set (withoutContents record) a = withoutContents (set record a)) :
    Json.Field.IsKept withoutContents ⟨name, isGiven, store reader set⟩ := by
  refine ⟨hgiven, fun record fuel levels text record' rest hread => ?_⟩
  obtain ⟨a, ha, rfl⟩ := store_eq_ok_iff.1 hread
  exact store_eq_ok_iff.2 ⟨a, ha, hset record a⟩

/-- A string is not empty in the text, whatever it denotes. -/
theorem advances_denoting
    {wanted : String}
    {denote : String → Except String β}
    (hreader : reader = readDenoting wanted denote) :
    Json.Field.Advances ⟨name, isGiven, store reader set⟩ := by
  intro record fuel levels text record' rest hfuel hread
  obtain ⟨a, ha, _⟩ := store_eq_ok_iff.1 hread
  rw [hreader, readDenoting] at ha
  split at ha
  · cases ha
  · next s after htext =>
      have hlength := shortens_textForm _ _ _ ((readStringValue_eq_ok_iff hfuel).1 htext)
      split at ha
      · cases ha
        exact Nat.le_of_lt hlength
      · cases ha

end

theorem advances_contents :
    contentsField.Advances := by
  intro record fuel levels text record' rest hfuel hread
  simp only [contentsField] at hread
  obtain ⟨v, hv, _⟩ := store_eq_ok_iff.1 hread
  have hform := (readsAs_readValue fuel levels text hfuel v rest).1 hv
  exact Nat.le_of_lt ((isPart_valueForm _ levels).shortens _ _ _ hform)

theorem isForgotten_contents :
    contentsField.IsForgotten withoutContents := by
  intro record fuel levels text record' rest hfuel hread
  simp only [contentsField] at hread
  obtain ⟨v, hv, rfl⟩ := store_eq_ok_iff.1 hread
  exact ⟨rfl, skipValue_of_readValue hv hfuel⟩

/-- **A summary has all fields of a document but its contents.** -/
theorem leavesOut_contents :
    Schema.LeavesOut Summary.schema Notebook.schema "contents" withoutContents where
  fields := rfl
  blank := rfl
  advances := by
    intro field hfield
    have htext : readText = readDenoting "a string" .ok := rfl
    rcases eq_of_mem_fields hfield with rfl | rfl | rfl | rfl | rfl
    · exact advances_denoting htext
    · exact advances_denoting htext
    · exact advances_denoting htext
    · exact advances_contents
    · exact advances_denoting rfl
  kept := by
    intro field hfield
    have hcases : field = identifierField ∨ field = titleField ∨ field = authorField
        ∨ field = updatedAtField := by
      simpa [Summary.schema] using hfield
    rcases hcases with rfl | rfl | rfl | rfl
    all_goals exact isKept_store (fun _ => rfl) fun _ _ => rfl
  forgotten := by
    intro field hfield hname
    rcases eq_of_mem_fields hfield with rfl | rfl | rfl | rfl | rfl
    case inr.inr.inr.inl => exact isForgotten_contents
    all_goals exact absurd hname (by decide)

end NotebookFields

open NotebookFields

namespace Notebook

section

variable {n : Notebook} {layout : Layout}

/-! ## Reading -/

/-- The summary is read from an object that the document is read from. -/
theorem summary_of_parse
    {text tail : Bytes}
    (hobject : skipBlanks text = 0x7B :: tail)
    (hparse : Notebook.parse text = .ok n) :
    Summary.parse text = .ok n.summary := by
  obtain ⟨record, hfinish, hnarrow⟩ := leavesOut_contents.parse hobject hparse
  obtain rfl := eq_of_notebook? hfinish
  exact hnarrow n.summary rfl

/-- The summary is read from what the document is written as, whatever its contents are. -/
theorem parse_summary
    (hknown : n.updatedAt.IsKnown)
    (layout : Layout) :
    Summary.parse (n.toJson.render layout) = .ok n.summary :=
  Schema.parse_render_around (fills_head rfl rfl rfl n layout)
    leavesOut_contents.find?_self (fills_moment rfl rfl hknown layout) rfl rfl

/-! ## Writing -/

/-- The summary stands for the same object as the document, without the contents. -/
theorem toJson_summary
    (n : Notebook) :
    n.summary.toJson = n.toJson.without "contents" := by
  simp [Summary.toJson, Notebook.toJson, summary, Value.without]

/-- The summary is written as the document is, without the member that holds the contents. -/
theorem exists_render_summary
    (n : Notebook)
    (layout : Layout) :
    ∃ front back,
      n.toJson.render layout
          = front ++ (memberBytes layout [("contents", n.contents)] 1 ++ back)
        ∧ n.summary.toJson.render layout = front ++ back := by
  rw [toJson_summary]
  exact exists_render_without [("name", .text n.title), ("author", .text n.author)]
    [("updated_at", .text n.updatedAt.zuluText)] (by simp) layout

end

/-! ## Lists of documents -/

/-- The documents of a store are listed as they are read one by one, without their contents. -/
structure ListedAsRead (staticDirectory : Option Path) (store : Store) : Prop where
  rows : ∀ q : Http.Arrival, q.request.method = "GET" → q.route staticDirectory = .notebooks →
    (q.answer staticDirectory store).response.status = 200
      ∧ (q.answer staticDirectory store).response.body
        = (Value.array (store.notebooks.map fun n => n.toJson.without "contents")).pretty
  documents : ∀ q : Http.Arrival, ∀ n ∈ store.notebooks, q.request.method = "GET" →
    q.addressee? staticDirectory = some n.identifier →
      (q.answer staticDirectory store).response.status = 200
        ∧ (q.answer staticDirectory store).response.body = n.toJson.pretty
  others : ∀ (q : Http.Arrival) (identifier : String), q.request.method = "GET" →
    q.addressee? staticDirectory = some identifier →
      (q.answer staticDirectory store).response.status = 200 →
        ∃ n ∈ store.notebooks, n.identifier = identifier

/-- The list of documents is read as their summaries. -/
theorem listedAsRead
    (staticDirectory : Option Path)
    (store : Store) :
    ListedAsRead staticDirectory store where
  rows q hget hroute := by
    simp only [← toJson_summary]
    exact Http.Arrival.answer_list store hget hroute
  documents q n hn hget haddressee := by
    have hread := Http.Arrival.answer_read store hget haddressee
    rwa [Store.mem_iff_find?.1 hn] at hread
  others q identifier hget haddressee hstatus := by
    have hread := Http.Arrival.answer_read store hget haddressee
    cases hn : store.find? identifier with
    | some n => exact ⟨n, List.mem_of_find?_eq_some hn, Store.identifier_of_find? hn⟩
    | none =>
        rw [hn, hstatus] at hread
        exact absurd hread.1 (by decide)

/-- **Summaries agree with documents.**  From an object that a document is read from, whatever the
order of its members, whatever stands between them and however its contents are written, the
summary of this document is read.  It is read as well from what the document is written as, in
either layout, even if the document is not.  It is written as the document is, with the member
that holds the contents cut out.  So the list of the documents of any store has a row for each
document that can be read, which is this document without its contents. -/
theorem summary_agrees
    {text tail : Bytes}
    {n : Notebook}
    (hobject : skipBlanks text = 0x7B :: tail)
    (hparse : Notebook.parse text = .ok n)
    (staticDirectory : Option Path)
    (store : Store) :
    Summary.parse text = .ok n.summary
      ∧ (∀ layout, Summary.parse (n.toJson.render layout) = .ok n.summary)
      ∧ n.summary.toJson = n.toJson.without "contents"
      ∧ (∀ layout, ∃ front back,
        n.toJson.render layout
            = front ++ (memberBytes layout [("contents", n.contents)] 1 ++ back)
          ∧ n.summary.toJson.render layout = front ++ back)
      ∧ ListedAsRead staticDirectory store := by
  have hknown := (isSound_of_parse hparse).2
  exact ⟨summary_of_parse hobject hparse, parse_summary hknown, toJson_summary n,
    exists_render_summary n, listedAsRead staticDirectory store⟩

/-! ## A document with its members in another order -/

/-- The members of a small document, and one more, with the contents in front of all others. -/
def mingled : Members :=
  [("contents", Hub.small), ("tags", .array [.number (.double ⟨1⟩), .text "\t"]),
    ("updated_at", .text (Instant.mk 1 0).zuluText), ("author", .text "ann"), ("name", .text "a"),
    ("identifier", .text "a")]

/-- They are read as the document. -/
theorem parse_mingled
    (layout : Layout) :
    Notebook.parse ((Value.object mingled).render layout) = .ok (Hub.converted Hub.small) := by
  have hlength : ∀ {key : String} {v : Value}, (key, v) ∈ mingled →
      (quotedTail key).length ≤ ((Value.object mingled).render layout).length + 1
        ∧ (valueBytes layout v 1).length < ((Value.object mingled).render layout).length + 1 := by
    intro key v hm
    have hle := length_member_le_render layout hm
    omega
  have htext : ∀ {key s : String}, (key, .text s) ∈ mingled →
      (quotedTail s).length ≤ ((Value.object mingled).render layout).length + 1 := by
    intro key s hm
    have hle := (hlength hm).2
    rw [valueBytes, List.length_cons] at hle
    omega
  obtain ⟨hcontentsKey, hcontents⟩ :=
    hlength (show ("contents", Hub.small) ∈ mingled by simp [mingled])
  have hmoment : ("updated_at", .text (Instant.mk 1 0).zuluText) ∈ mingled := by simp [mingled]
  have hauthor : ("author", .text "ann") ∈ mingled := by simp [mingled]
  have htitle : ("name", .text "a") ∈ mingled := by simp [mingled]
  have hidentifier : ("identifier", .text "a") ∈ mingled := by simp [mingled]
  have hfront : Notebook.schema.Fills layout 1
      (((Value.object mingled).render layout).length + 1) 126 {} [("contents", Hub.small)]
      { contents := some Hub.small } :=
    .cons contentsField rfl rfl hcontentsKey
      (reads_contents Hub.isRegular_small Hub.holdsIntegers_small (by decide) hcontents) (.nil _)
  exact Schema.parse_render_around hfront rfl
    (.cons updatedAtField rfl rfl (hlength hmoment).1
      (reads_updatedAt (Instant.parse_zuluText (show (Instant.mk 1 0).IsKnown by decide))
        (htext hmoment))
      (.cons authorField rfl rfl (hlength hauthor).1
        (reads_text (fun r s => { r with author := some s }) rfl (htext hauthor))
        (.cons titleField rfl rfl (hlength htitle).1
          (reads_text (fun r s => { r with title := some s }) rfl (htext htitle))
          (.cons identifierField rfl rfl (hlength hidentifier).1
            (reads_text (fun r s => { r with identifier := some s }) rfl (htext hidentifier))
            (.nil _)))))
    rfl rfl

/-- The members stand in another order, and one of them belongs to no field. -/
theorem summary_agrees_mingled :
    ∃ tail,
      skipBlanks ((Value.object mingled).render .indented) = 0x7B :: tail
        ∧ Notebook.parse ((Value.object mingled).render .indented)
          = .ok (Hub.converted Hub.small)
        ∧ Summary.parse ((Value.object mingled).render .indented)
          = .ok (Hub.converted Hub.small).summary := by
  have hparse := parse_mingled .indented
  obtain ⟨tail, htext⟩ : ∃ tail, (Value.object mingled).render .indented = 0x7B :: tail := by
    rw [render_eq, mingled, valueBytes_object]
    exact ⟨_, rfl⟩
  have hobject : skipBlanks ((Value.object mingled).render .indented) = 0x7B :: tail := by
    rw [htext]
    rfl
  exact ⟨tail, hobject, hparse, (summary_agrees hobject hparse none Store.empty).1⟩

end Notebook

end LiveNotebooks
