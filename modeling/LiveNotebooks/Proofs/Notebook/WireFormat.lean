import LiveNotebooks.Notebook.Codec
import LiveNotebooks.Proofs.Json.Records
import LiveNotebooks.Proofs.Service.WriteBack
import LiveNotebooks.Proofs.Time.Instants

/-!
# Documents on the wire

A document is written as an object of five members, in one of the two layouts.  It is read from an
object with these members in any order and among others, or from a list of the values.  Its
contents have a place inside the text of the document, so they may open one level less than a text
of their own; only an embedded text, whose levels are counted anew, can bring in deeper ones.

**Results.**
* `isSound_of_parse`: what is known of every document that is read from some text.
* `isReadBack_iff`: which of these documents are read from their own texts again.
* `not_isReadBack_embedding`: a document that is not.
-/

namespace LiveNotebooks

open Json

namespace NotebookFields

section

variable {layout : Layout} {fuel levels : Nat}

/-- A field that holds a string is read as it is written. -/
theorem reads_text
    {field : Json.Field NotebookFields}
    {record : NotebookFields}
    (set : NotebookFields → String → NotebookFields)
    (hread : field.read = store readText set)
    {s : String}
    (hfuel : (quotedTail s).length ≤ fuel) :
    field.Reads layout 1 fuel levels record (.text s) (set record s) := by
  intro rest _
  rw [hread]
  simp only [store, readText, readString, readDenoting, readStringValue_written _ hfuel]
  rfl

/-- The contents are read as they are written, if they open no more levels than they may. -/
theorem reads_contents
    {record : NotebookFields}
    {v : Value}
    (hregular : v.IsRegular)
    (hints : v.HoldsIntegers)
    (hfits : v.levels ≤ levels)
    (hfuel : (valueBytes layout v 1).length < fuel) :
    contentsField.Reads layout 1 fuel levels record v { record with contents := some v } := by
  intro rest hrest
  simp only [contentsField, store, (comes_readAny hregular hints hfuel hrest).ok hfits]
  rfl

/-- An instant is read if its text is one of it. -/
theorem reads_updatedAt
    {record : NotebookFields}
    {t : Instant}
    (htime : Instant.parse t.zuluText = .ok t)
    (hfuel : (quotedTail t.zuluText).length ≤ fuel) :
    updatedAtField.Reads layout 1 fuel levels record (.text t.zuluText)
      { record with updatedAt := some t } := by
  intro rest _
  simp only [updatedAtField, store, readInstant, readDenoting, readStringValue_written _ hfuel,
    htime]
  rfl

end

/-! ## What is read -/

/-- What holds of the fields that have been read. -/
structure IsSound (record : NotebookFields) : Prop where
  contents : ∀ v ∈ record.contents, v.IsRegular
  updatedAt : ∀ t ∈ record.updatedAt, t.IsKnown

/-- A field keeps what it may rely on of the value that it stores. -/
theorem keeps_store
    {β : Type}
    {P : NotebookFields → Prop}
    {name : String}
    {isGiven : NotebookFields → Bool}
    {reader : PartReader β}
    {set : NotebookFields → β → NotebookFields}
    (hset : ∀ record fuel levels text a rest, P record →
      reader fuel levels text = .ok (a, rest) → P (set record a)) :
    Json.Field.Keeps P ⟨name, isGiven, store reader set⟩ := by
  intro record fuel levels text record' rest hrecord h
  simp only [store] at h
  cases hreader : reader fuel levels text with
  | error fault =>
      rw [hreader] at h
      cases h
  | ok r =>
      rw [hreader] at h
      cases h
      exact hset record fuel levels text r.1 r.2 hrecord hreader

/-- Every instant that is read is known. -/
theorem isKnown_of_readInstant
    {fuel levels : Nat}
    {text rest : Bytes}
    {t : Instant}
    (h : readInstant fuel levels text = .ok (t, rest)) :
    t.IsKnown := by
  rw [readInstant, readDenoting] at h
  split at h
  · cases h
  · next s _ _ =>
      cases hparse : Instant.parse s with
      | error fault =>
          rw [hparse] at h
          cases h
      | ok t =>
          rw [hparse] at h
          cases h
          exact Instant.isKnown_of_parse hparse

theorem eq_of_mem_fields
    {field : Json.Field NotebookFields}
    (h : field ∈ Notebook.schema.fields) :
    field = identifierField ∨ field = titleField ∨ field = authorField ∨ field = contentsField
      ∨ field = updatedAtField := by
  simpa [Notebook.schema] using h

/-- Each field of a notebook keeps the others sound. -/
theorem keeps_isSound :
    ∀ field ∈ Notebook.schema.fields, field.Keeps IsSound := by
  intro field hfield
  rcases eq_of_mem_fields hfield with rfl | rfl | rfl | rfl | rfl
  · exact keeps_store fun _ _ _ _ _ _ h _ => ⟨h.contents, h.updatedAt⟩
  · exact keeps_store fun _ _ _ _ _ _ h _ => ⟨h.contents, h.updatedAt⟩
  · exact keeps_store fun _ _ _ _ _ _ h _ => ⟨h.contents, h.updatedAt⟩
  · refine keeps_store fun _ fuel levels text _ _ h hread => ⟨fun v hv => ?_, h.updatedAt⟩
    cases hv
    exact givesRegular_readValue fuel levels text _ _ hread
  · refine keeps_store fun _ _ _ _ _ _ h hread => ⟨h.contents, fun t ht => ?_⟩
    cases ht
    exact isKnown_of_readInstant hread

theorem eq_of_notebook?
    {record : NotebookFields}
    {n : Notebook}
    (h : notebook? record = .ok n) :
    record = ⟨some n.identifier, some n.title, some n.author, some n.contents,
      some n.updatedAt⟩ := by
  obtain ⟨identifier, title, author, contents, updatedAt⟩ := record
  cases identifier <;> cases title <;> cases author <;> cases contents <;> cases updatedAt <;>
    cases h
  rfl

end NotebookFields

open NotebookFields

namespace Notebook

/-- The fields in front of the contents. -/
def heading (n : Notebook) : NotebookFields where
  identifier := some n.identifier
  title := some n.title
  author := some n.author

/-- The members of the object that stands for a document. -/
def members (n : Notebook) : Members :=
  [("identifier", .text n.identifier), ("name", .text n.title), ("author", .text n.author),
    ("contents", n.contents), ("updated_at", .text n.updatedAt.zuluText)]

section

variable {n : Notebook} {layout : Layout}

theorem length_le_render
    (layout : Layout)
    {key : String}
    {v : Value}
    (hm : (key, v) ∈ n.members) :
    (quotedTail key).length + (valueBytes layout v 1).length
      ≤ (n.toJson.render layout).length := by
  have hlength := length_member_le_render layout hm
  exact hlength

theorem length_text_le_render
    (layout : Layout)
    {key s : String}
    (hm : (key, .text s) ∈ n.members) :
    (quotedTail key).length ≤ (n.toJson.render layout).length + 1
      ∧ (quotedTail s).length ≤ (n.toJson.render layout).length + 1 := by
  have hlength := length_le_render layout hm
  simp only [valueBytes, List.length_cons] at hlength
  omega

/-- The members in front of the contents are read. -/
theorem fills_head
    {α : Type}
    {schema : Schema NotebookFields α}
    (hidentifier : schema.fields.find? (fun f => f.name == "identifier") = some identifierField)
    (htitle : schema.fields.find? (fun f => f.name == "name") = some titleField)
    (hauthor : schema.fields.find? (fun f => f.name == "author") = some authorField)
    (n : Notebook)
    (layout : Layout) :
    schema.Fills layout 1 ((n.toJson.render layout).length + 1) 126 {}
      [("identifier", .text n.identifier), ("name", .text n.title), ("author", .text n.author)]
      n.heading := by
  obtain ⟨hidentifierKey, hidentifierText⟩ := length_text_le_render layout
    (show ("identifier", .text n.identifier) ∈ n.members by simp [members])
  obtain ⟨htitleKey, htitleText⟩ := length_text_le_render layout
    (show ("name", .text n.title) ∈ n.members by simp [members])
  obtain ⟨hauthorKey, hauthorText⟩ := length_text_le_render layout
    (show ("author", .text n.author) ∈ n.members by simp [members])
  exact
    .cons identifierField hidentifier rfl hidentifierKey
      (reads_text (fun r s => { r with identifier := some s }) rfl hidentifierText)
      (.cons titleField htitle rfl htitleKey
        (reads_text (fun r s => { r with title := some s }) rfl htitleText)
        (.cons authorField hauthor rfl hauthorKey
          (reads_text (fun r s => { r with author := some s }) rfl hauthorText) (.nil _)))

/-- The member behind the contents is read if the moment is one that a text denotes. -/
theorem fills_moment
    {α : Type}
    {schema : Schema NotebookFields α}
    (hfield : schema.fields.find? (fun f => f.name == "updated_at") = some updatedAtField)
    {record : NotebookFields}
    (hnew : record.updatedAt = none)
    (hknown : n.updatedAt.IsKnown)
    (layout : Layout) :
    schema.Fills layout 1 ((n.toJson.render layout).length + 1) 126 record
      [("updated_at", .text n.updatedAt.zuluText)]
      { record with updatedAt := some n.updatedAt } := by
  obtain ⟨hkey, htext⟩ := length_text_le_render layout
    (show ("updated_at", .text n.updatedAt.zuluText) ∈ n.members by simp [members])
  exact .cons updatedAtField hfield (congrArg Option.isSome hnew) hkey
    (reads_updatedAt (Instant.parse_zuluText hknown) htext) (.nil _)

/-- All members are read if the contents are, and the moment is one that a text denotes. -/
theorem fills_members
    {v : Value}
    (hcontents : contentsField.Reads layout 1 ((n.toJson.render layout).length + 1) 126 n.heading
      n.contents { n.heading with contents := some v })
    (hknown : n.updatedAt.IsKnown) :
    Notebook.schema.Fills layout 1 ((n.toJson.render layout).length + 1) 126 {} n.members
      { n.heading with contents := some v, updatedAt := some n.updatedAt } := by
  have hkey := length_le_render layout
    (show ("contents", n.contents) ∈ n.members by simp [members])
  exact (fills_head rfl rfl rfl n layout).append
    (.cons contentsField rfl rfl (show (quotedTail "contents").length ≤ _ by omega) hcontents
      (fills_moment rfl rfl hknown layout))

/-- A document whose contents are not too deep inside of it is read as it is written. -/
theorem parse_toJson
    (hregular : n.contents.IsRegular)
    (hints : n.contents.HoldsIntegers)
    (hknown : n.updatedAt.IsKnown)
    (hfits : n.contents.levels < maxLevels)
    (layout : Layout) :
    Notebook.parse (n.toJson.render layout) = .ok n := by
  have hlength := length_le_render layout
    (show ("contents", n.contents) ∈ n.members by simp [members])
  have hcontents : contentsField.Reads layout 1 ((n.toJson.render layout).length + 1) 126 n.heading
      n.contents { n.heading with contents := some n.contents } :=
    reads_contents hregular hints (Nat.le_of_lt_succ hfits) (by omega)
  exact Schema.parse_render (fills_members hcontents hknown) rfl

/-- Any other document is refused. -/
theorem parse_toJson_tooDeep
    (hregular : n.contents.IsRegular)
    (hints : n.contents.HoldsIntegers)
    (hdeep : maxLevels ≤ n.contents.levels)
    (layout : Layout) :
    ∃ e, Notebook.parse (n.toJson.render layout) = .error e ∧ e.cause = .tooDeep := by
  have hrefused : ∀ fuel rest, (valueBytes layout n.contents 1).length < fuel → EndsNumber rest →
      ∃ unread, contentsField.read n.heading fuel 126
          (layout.gap ++ (valueBytes layout n.contents 1 ++ rest)) = .error ⟨.tooDeep, unread⟩ := by
    intro fuel rest hfuel hrest
    obtain ⟨unread, hfault⟩ := (comes_readAny hregular hints hfuel hrest).tooDeep
      (Nat.not_le.2 hdeep)
    exact ⟨unread, by simp only [contentsField, store, hfault]; rfl⟩
  have hfield : Notebook.schema.fields.find? (fun f => f.name == contentsField.name)
      = some contentsField := rfl
  exact Schema.parse_render_tooDeep (fills_head rfl rfl rfl n layout) rfl hfield rfl hrefused

theorem levels_lt_of_parse_toJson
    {m : Notebook}
    (hregular : n.contents.IsRegular)
    (hints : n.contents.HoldsIntegers)
    (h : Notebook.parse (n.toJson.render layout) = .ok m) :
    n.contents.levels < maxLevels := by
  refine Nat.lt_of_not_le fun hdeep => ?_
  obtain ⟨e, herror, _⟩ := parse_toJson_tooDeep hregular hints hdeep layout
  cases h.symm.trans herror

end

/-! ## Documents that are read -/

/-- The contents of a document that is read are regular, and its moment is known. -/
theorem isSound_of_parse
    {text : Bytes}
    {n : Notebook}
    (h : Notebook.parse text = .ok n) :
    n.contents.IsRegular ∧ n.updatedAt.IsKnown := by
  obtain ⟨record, hsound, hfinish⟩ :=
    Schema.keeps_parse keeps_isSound ⟨by simp [Notebook.schema], by simp [Notebook.schema]⟩ h
  have hfields := eq_of_notebook? hfinish
  rw [hfields] at hsound
  exact ⟨hsound.contents _ rfl, hsound.updatedAt _ rfl⟩

/-- A text of a document is read as a document with the same identifier, title, author, contents
and moment, which is written as this text again. -/
def IsReadBack (n : Notebook) (layout : Layout) : Prop :=
  ∃ m, Notebook.parse (n.toJson.render layout) = .ok m
    ∧ m.identifier = n.identifier
    ∧ m.title = n.title
    ∧ m.author = n.author
    ∧ m.contents = n.contents
    ∧ m.updatedAt = n.updatedAt
    ∧ m.toJson.render layout = n.toJson.render layout

/-- **Which documents are read back.**  A document is read from some text, whatever the order of
its members and whatever stands between them, or from a list, and all numbers in its contents are
integers.  What it is written as, in either layout, is read as this document and written the same
way again just if the contents open fewer levels than a text may, since they have a place inside
the document.  Deeper ones, which an embedded text can bring in, are refused. -/
theorem isReadBack_iff
    {text : Bytes}
    {n : Notebook}
    (hparse : Notebook.parse text = .ok n)
    (hints : n.contents.HoldsIntegers)
    (layout : Layout) :
    (n.IsReadBack layout ↔ n.contents.levels < maxLevels)
      ∧ (maxLevels ≤ n.contents.levels →
        ∃ e, Notebook.parse (n.toJson.render layout) = .error e ∧ e.cause = .tooDeep) := by
  obtain ⟨hregular, hknown⟩ := isSound_of_parse hparse
  refine ⟨⟨fun ⟨m, hread, _⟩ => levels_lt_of_parse_toJson hregular hints hread, fun hfits => ?_⟩,
    fun hdeep => parse_toJson_tooDeep hregular hints hdeep layout⟩
  exact ⟨n, parse_toJson hregular hints hknown hfits layout, rfl, rfl, rfl, rfl, rfl, rfl⟩

theorem isReadBack_small :
    Notebook.parse (Hub.converted Hub.small).toJson.pretty = .ok (Hub.converted Hub.small)
      ∧ Hub.small.HoldsIntegers
      ∧ (Hub.converted Hub.small).IsReadBack .compact := by
  have hparse := parse_toJson (n := Hub.converted Hub.small) Hub.isRegular_small
    Hub.holdsIntegers_small (show (Instant.mk 1 0).IsKnown by decide) (by decide) .indented
  exact ⟨hparse, Hub.holdsIntegers_small,
    (isReadBack_iff hparse Hub.holdsIntegers_small .compact).1.2 (by decide)⟩

/-! ## Contents that are too deep -/

/-- An object that embeds the text of nested lists, with one level more than the given number. -/
def embedding (n : Nat) : Value :=
  .object [("a", .object [(embeddingKey, .text (Hub.nestedText n))])]

/-- The contents are read with the value of the embedded text in them. -/
theorem reads_embedding
    (record : NotebookFields)
    (levels : Nat)
    {n fuel : Nat}
    (hn : n < maxLevels)
    (hfuel : (valueBytes .compact (embedding n) 1).length < fuel) :
    contentsField.Reads .compact 1 fuel (levels + 2) record (embedding n)
      { record with contents := some (.object [("a", Hub.nested n)]) } := by
  intro rest _
  obtain ⟨hlevels, hregular, hints⟩ := Hub.shape_nested n
  obtain ⟨hbytes, hplain⟩ := Hub.bytes_nestedText n
  obtain ⟨fuel, rfl⟩ := Nat.exists_eq_add_one_of_ne_zero (Nat.ne_zero_of_lt hfuel)
  have hread := readValue_embedded hregular hints (by rw [hlevels]; exact hn)
    (show "a" ≠ embeddingKey by simp [embeddingKey]) hbytes hplain levels 1
    (Nat.le_of_lt_succ hfuel) rest
  simp only [contentsField, store, readAny, Layout.gap, List.nil_append, embedding, hread]
  rfl

/-- A document whose contents embed nested lists is read with these lists as its contents. -/
theorem parse_embedding
    {n : Nat}
    (hn : n < maxLevels) :
    Notebook.parse (Hub.converted (embedding n)).toJson.compact
      = .ok (Hub.converted (.object [("a", Hub.nested n)])) := by
  have hlength := length_le_render .compact
    (show ("contents", embedding n) ∈ (Hub.converted (embedding n)).members by
      simp [members, Hub.converted])
  have hcontents := reads_embedding (Hub.converted (embedding n)).heading 124 hn
    (Nat.lt_succ_of_le (Nat.le_trans (Nat.le_add_left _ _) hlength))
  exact Schema.parse_render
    (fills_members hcontents (show (Instant.mk 1 0).IsKnown by decide)) rfl

/-- A document that is read from a text, but not from its own ones. -/
theorem not_isReadBack_embedding :
    Notebook.parse (Hub.converted (embedding 126)).toJson.compact = .ok (Hub.converted Hub.deep)
      ∧ Hub.deep.HoldsIntegers
      ∧ ¬ (Hub.converted Hub.deep).IsReadBack .compact
      ∧ ¬ (Hub.converted Hub.deep).IsReadBack .indented := by
  have hparse := parse_embedding (n := 126) (by decide)
  have hints : Hub.deep.HoldsIntegers :=
    .object (List.forall_mem_singleton.2 (Hub.shape_nested 126).2.2)
  have hregular := (isSound_of_parse hparse).1
  have hrefused (layout : Layout) : ¬ (Hub.converted Hub.deep).IsReadBack layout := by
    rintro ⟨m, hread, _⟩
    exact absurd (levels_lt_of_parse_toJson hregular hints hread) (by decide +kernel)
  exact ⟨hparse, hints, hrefused .compact, hrefused .indented⟩

end Notebook

end LiveNotebooks
