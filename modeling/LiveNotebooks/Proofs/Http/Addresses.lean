import LiveNotebooks.Proofs.Http.Exchange
import LiveNotebooks.Proofs.System.Names
import LiveNotebooks.Proofs.Text.Decoding

/-!
# Addresses of documents

A document is addressed by its identifier in the path of a target, where every byte but letters,
digits and three marks is written as a percent sign with two digits.  Whatever the identifier is,
this is one part of a path and no more: no slash, question mark or number sign of the identifier
is left.

**Results.**
* `spells_iff`: what the part of a path stands for.
* `route_address`: an address leads to its document.
* `Archive.documents_addressed`: every document has an address, and a target that leads to a
  document leads to the one that its part of the path spells.
-/

namespace LiveNotebooks
namespace Http

/-! ## Spelling -/

/-- A percent sign and two hexadecimal digits, in front of a text. -/
def Escapes (text : Bytes) (b : UInt8) (rest : Bytes) : Prop :=
  ∃ c d high low, text = percent :: c :: d :: rest ∧ Digits.hexValue? c = some high
    ∧ Digits.hexValue? d = some low ∧ b = (high * 16 + low).toUInt8

/-- What a part of a path stands for, byte by byte: an escape for the byte with its digits, and
any other byte for itself. -/
inductive Spells : Bytes → Bytes → Prop
  | nil : Spells [] []
  | escape
      {text rest bytes : Bytes}
      {b : UInt8}
      (hescape : Escapes text b rest)
      (hrest : Spells rest bytes) :
      Spells text (b :: bytes)
  | plain
      {b : UInt8}
      {rest bytes : Bytes}
      (hplain : ∀ c rest', ¬ Escapes (b :: rest) c rest')
      (hrest : Spells rest bytes) :
      Spells (b :: rest) (b :: bytes)

theorem percentDecode_of_escapes
    {text rest : Bytes}
    {b : UInt8}
    (h : Escapes text b rest) :
    percentDecode text = b :: percentDecode rest := by
  obtain ⟨c, d, high, low, rfl, hhigh, hlow, rfl⟩ := h
  simp only [percentDecode, hhigh, hlow, if_true]

/-- What does not start with an escaped byte begins with a byte that stands for itself. -/
theorem percentDecode_of_plain
    {b : UInt8}
    {rest : Bytes}
    (h : ∀ c rest', ¬ Escapes (b :: rest) c rest') :
    percentDecode (b :: rest) = b :: percentDecode rest := by
  by_cases hb : b = percent
  · subst hb
    match rest with
    | [] => rfl
    | [_] => rfl
    | c :: d :: rest =>
        rw [percentDecode]
        split
        · next high low hhigh hlow => exact absurd ⟨c, d, high, low, rfl, hhigh, hlow, rfl⟩ (h _ _)
        · rfl
  · exact percentDecode_cons_of_ne hb rest

/-- **What a part of a path stands for.** -/
theorem spells_iff
    {text bytes : Bytes} :
    Spells text bytes ↔ percentDecode text = bytes := by
  constructor
  · intro h
    induction h with
    | nil => rfl
    | escape hescape _ ih => rw [percentDecode_of_escapes hescape, ih]
    | plain hplain _ ih => rw [percentDecode_of_plain hplain, ih]
  · rintro rfl
    induction hlength : text.length using Nat.strongRecOn generalizing text with
    | ind length ih =>
        cases text with
        | nil => exact .nil
        | cons b rest =>
            by_cases hescape : ∃ c rest', Escapes (b :: rest) c rest'
            · obtain ⟨c, rest', hescape⟩ := hescape
              rw [percentDecode_of_escapes hescape]
              obtain ⟨_, _, _, _, htext, _⟩ := id hescape
              have hshort : rest'.length < length := by
                rw [← hlength, htext]
                simp only [List.length_cons]
                omega
              exact .escape hescape (ih _ hshort rfl)
            · rw [not_exists] at hescape
              have hplain : ∀ c rest', ¬ Escapes (b :: rest) c rest' :=
                fun c rest' h => hescape c ⟨rest', h⟩
              rw [percentDecode_of_plain hplain]
              exact .plain hplain (ih rest.length (by simp [← hlength]) rfl)

/-! ## Addresses -/

/-- The target that addresses the document with an identifier. -/
def address (identifier : String) : Bytes :=
  Route.notebookStart ++ percentEncode (Utf8.encode identifier)

/-- The bytes that stand in an encoded text. -/
theorem isUnreserved_of_mem_percentEncode
    {text : Bytes}
    {b : UInt8}
    (h : b ∈ percentEncode text) :
    isUnreserved b = true ∨ b = percent := by
  have hdigit : ∀ n < 16, isUnreserved (hexDigit n) = true := by decide
  obtain ⟨c, _, hb⟩ := List.mem_flatMap.1 h
  unfold percentEncodeByte at hb
  split at hb
  · next hc => exact .inl (List.mem_singleton.1 hb ▸ hc)
  · have hc := c.toNat_lt
    simp only [List.mem_cons, List.not_mem_nil, or_false] at hb
    rcases hb with rfl | rfl | rfl
    · exact .inr rfl
    · exact .inl (hdigit _ (by omega))
    · exact .inl (hdigit _ (Nat.mod_lt _ (by decide)))

theorem not_mem_percentEncode
    {b : UInt8}
    (hreserved : isUnreserved b = false)
    (hpercent : b ≠ percent)
    (text : Bytes) :
    b ∉ percentEncode text := by
  intro h
  rcases isUnreserved_of_mem_percentEncode h with hb | hb
  · rw [hreserved] at hb
    cases hb
  · exact hpercent hb

theorem percentEncode_ne_nil
    {text : Bytes}
    (h : text ≠ []) :
    percentEncode text ≠ [] := by
  intro hnil
  have hdecode := percentDecode_percentEncode text
  rw [hnil] at hdecode
  exact h hdecode.symm

theorem takeWhile_ne_eq_self
    {b : UInt8}
    {text : Bytes}
    (h : b ∉ text) :
    text.takeWhile (· ≠ b) = text := by
  induction text with
  | nil => rfl
  | cons c rest ih =>
      obtain ⟨hne, hrest⟩ := not_or.1 (mt List.mem_cons.2 h)
      rw [List.takeWhile_cons_of_pos (by simpa using Ne.symm hne), ih hrest]

/-- An address is a path without a query. -/
theorem parse_address
    (identifier : String) :
    Target.parse (address identifier) = ⟨[], address identifier, none⟩ := by
  have hnone : ∀ b : UInt8, b ∉ Route.notebookStart → isUnreserved b = false → b ≠ percent →
      b ∉ address identifier := by
    intro b hstart hreserved hpercent hmem
    rcases List.mem_append.1 hmem with hmem | hmem
    · exact hstart hmem
    · exact not_mem_percentEncode hreserved hpercent _ hmem
  have hfragment := hnone 0x23 (by decide) rfl (by decide)
  have hquery := hnone 0x3F (by decide) rfl (by decide)
  have hslash : (address identifier).head? = some 0x2F := rfl
  simp only [Target.parse, Target.splitQuery, takeWhile_ne_eq_self hfragment,
    takeWhile_ne_eq_self hquery, hslash, if_true, List.contains_eq_mem, hquery, decide_false,
    Bool.false_eq_true, if_false]

/-- The part behind the start of the paths of documents is not empty and has no slash. -/
theorem notebookPart?_eq_some_iff
    {path part : Bytes} :
    Route.notebookPart? path = some part
      ↔ path = Route.notebookStart ++ part ∧ part ≠ [] ∧ 0x2F ∉ part := by
  unfold Route.notebookPart?
  simp only [Option.ite_none_right_eq_some, Option.some.injEq, Bool.and_eq_true, decide_eq_true_eq,
    Bool.not_eq_true', List.contains_eq_mem, decide_eq_false_iff_not, List.isPrefixOf_iff_prefix]
  constructor
  · rintro ⟨⟨⟨⟨part', rfl⟩, hne⟩, hslash⟩, rfl⟩
    rw [List.drop_left] at hne hslash ⊢
    exact ⟨rfl, hne, hslash⟩
  · rintro ⟨rfl, hne, hslash⟩
    rw [List.drop_left]
    exact ⟨⟨⟨List.prefix_append _ _, hne⟩, hslash⟩, rfl⟩

theorem take_notebookStart
    (part : Bytes) :
    (Route.notebookStart ++ part).take 10 = Route.notebookStart :=
  List.take_left' (by decide)

/-- Which targets lead to a document: those whose path is one part behind the start of all such
paths. -/
theorem ofTarget_eq_notebook_iff
    {hasStatic : Bool}
    {target : Target}
    {part : Bytes} :
    Route.ofTarget hasStatic target = .notebook part
      ↔ target.path = Route.notebookStart ++ part ∧ part ≠ [] ∧ 0x2F ∉ part := by
  rw [← notebookPart?_eq_some_iff]
  constructor
  · intro h
    unfold Route.ofTarget at h
    split at h
    · cases h
    · split at h
      · cases h
      · split at h
        · cases h
        · split at h
          · next hpart =>
              cases h
              exact hpart
          · split at h <;> cases h
  · intro h
    obtain ⟨hpath, hne, hslash⟩ := notebookPart?_eq_some_iff.1 h
    have hhead : target.path.head? = some 0x2F := by
      rw [hpath]
      rfl
    have hnotebooks : target.path ≠ Route.notebooksPath := by
      rw [hpath]
      exact mt (congrArg (List.take 10)) (by rw [take_notebookStart]; decide)
    have hhealth : target.path ≠ Route.healthPath := by
      rw [hpath]
      exact mt (congrArg (List.take 10)) (by rw [take_notebookStart]; decide)
    simp only [Route.ofTarget, hhead, hnotebooks, hhealth, h, ne_eq, not_true, if_false]

/-- An address leads to its document. -/
theorem route_address
    {identifier : String}
    (hne : identifier ≠ "")
    (hasStatic : Bool) :
    Route.ofTarget hasStatic (Target.parse (address identifier))
      = .notebook (percentEncode (Utf8.encode identifier)) := by
  have hbytes : Utf8.encode identifier ≠ [] := by
    intro hnil
    have hempty : Utf8.encode identifier = Utf8.encode "" := hnil
    exact hne (Utf8.encode_injective hempty)
  rw [ofTarget_eq_notebook_iff, parse_address]
  exact ⟨rfl, percentEncode_ne_nil hbytes, not_mem_percentEncode rfl (by decide) _⟩

/-- What names a file is not empty. -/
theorem ne_empty_of_name
    {path : Path}
    {identifier : String}
    (h : Path.name path = some identifier) :
    identifier ≠ "" := by
  obtain ⟨part, hpart, rfl⟩ := Option.map_eq_some_iff.1 h
  exact Utf8.decodeLossy_ne_empty (Path.part_of_fileName hpart).1

/-! ## What a document's address leads to -/

/-- A request is handled as one for a document: it is answered with the document, or replaces
its contents. -/
structure Concerns (staticDirectory : Option Path) (store : Store) (q : Arrival)
    (identifier : String) : Prop where
  read : q.request.method = "GET" ∨ q.request.method = "HEAD" →
    handle (q.site staticDirectory store) q.request q.moment (q.route staticDirectory)
      = .plain (Notebooks.read store identifier)
  replace : q.request.method = "POST" →
    handle (q.site staticDirectory store) q.request q.moment (q.route staticDirectory)
      = if Notebooks.maxBodyLength < q.request.body.length then .plain Notebooks.bodyTooLong
        else Notebooks.replace store identifier q.request.body q.moment

namespace Arrival

variable {staticDirectory : Option Path} {store : Store} {q : Arrival} {identifier : String}

/-- What addresses a document. -/
theorem addressee?_eq_some_iff_spells :
    q.addressee? staticDirectory = some identifier
      ↔ ∃ part, (Target.parse q.request.target).path = Route.notebookStart ++ part
        ∧ part ≠ []
        ∧ 0x2F ∉ part
        ∧ Spells part (Utf8.encode identifier) := by
  rw [addressee?_eq_some_iff]
  refine exists_congr fun part => ?_
  rw [route, ofTarget_eq_notebook_iff, Utf8.decode?_eq_some_iff, spells_iff, and_assoc, and_assoc]

theorem addressee?_address
    (hne : identifier ≠ "")
    (htarget : q.request.target = address identifier) :
    q.addressee? staticDirectory = some identifier := by
  refine addressee?_eq_some_iff.2 ⟨percentEncode (Utf8.encode identifier), ?_, ?_⟩
  · rw [route, htarget, route_address hne]
  · rw [percentDecode_percentEncode, Utf8.decode?_eq_some_iff]

/-- A request with an addressee concerns the document with this identifier. -/
theorem concerns_of_addressee?
    (store : Store)
    (h : q.addressee? staticDirectory = some identifier) :
    Concerns staticDirectory store q identifier := by
  obtain ⟨part, hroute, hdecode⟩ := addressee?_eq_some_iff.1 h
  refine ⟨?_, fun hpost => ?_⟩
  · rintro (hget | hhead)
    · rw [hroute]
      exact handle_get hget hdecode
    · simp [hroute, handle, hhead, withIdentifier, hdecode, site]
  · rw [hroute]
    exact handle_post hpost hdecode

/-- The answer to a request for a document is told by what is stored under its identifier. -/
theorem response_answer_congr
    {store' : Store}
    (h : q.addressee? staticDirectory = some identifier)
    (hsame : store'.find? identifier = store.find? identifier) :
    (q.answer staticDirectory store').response = (q.answer staticDirectory store).response := by
  have hread : Notebooks.read store' identifier = Notebooks.read store identifier := by
    simp only [Notebooks.read, hsame]
  have hcontains : store'.contains identifier = store.contains identifier := by
    rw [← Store.find?_isSome, ← Store.find?_isSome, hsame]
  have hreplace : ∀ body now, (Notebooks.replace store' identifier body now).response
      = (Notebooks.replace store identifier body now).response := by
    intro body now
    simp only [Notebooks.replace, Store.setContents, hcontains]
    split
    · rfl
    · cases store.contains identifier <;> rfl
  obtain ⟨part, hroute, hdecode⟩ := addressee?_eq_some_iff.1 h
  have hhandle :
      (handle (q.site staticDirectory store') q.request q.moment (.notebook part)).response
        = (handle (q.site staticDirectory store) q.request q.moment (.notebook part)).response := by
    simp only [handle, withIdentifier, hdecode, site, hread]
    split
    · rfl
    · split
      · split
        · rfl
        · exact hreplace _ _
      · rfl
  have hroute : Route.ofTarget staticDirectory.isSome (Target.parse q.request.target)
      = .notebook part := hroute
  simp only [answer, respond, site, hroute]
  split
  · rfl
  · exact congrArg (fun r => applyPolicy q.requestId (finishBody q.request _ r)) hhandle

/-- Other requests than these and the one for the list are not about documents. -/
theorem answer_eq_of_addressee?_eq_none
    (store store' : Store)
    (h : q.addressee? staticDirectory = none)
    (hlist : q.route staticDirectory ≠ .notebooks) :
    q.answer staticDirectory store' = q.answer staticDirectory store := by
  have hhandle : handle (q.site staticDirectory store') q.request q.moment (q.route staticDirectory)
      = handle (q.site staticDirectory store) q.request q.moment (q.route staticDirectory) := by
    unfold addressee? at h
    cases hroute : q.route staticDirectory with
    | notebooks => exact absurd hroute hlist
    | notebook part =>
        simp only [hroute] at h
        simp only [handle, withIdentifier, h]
    | health | static | pathless | unknown => rfl
  have hanswer := congrArg
    (fun answer => if q.request.method = "OPTIONS" then .plain (preflight (q.route staticDirectory))
      else answer) hhandle
  exact congrArg (fun answer : Notebooks.Answer => { answer with
    response := applyPolicy q.requestId
      (finishBody q.request (q.route staticDirectory) answer.response) }) hanswer

/-- The document that a target leads to does not depend on the site. -/
theorem addressee?_congr
    {q' : Arrival}
    (htarget : q'.request.target = q.request.target)
    (staticDirectory' : Option Path) :
    q'.addressee? staticDirectory' = q.addressee? staticDirectory := by
  refine Option.ext fun identifier => ?_
  rw [addressee?_eq_some_iff_spells, addressee?_eq_some_iff_spells, htarget]

end Arrival
end Http

namespace Archive

open Http

/-- A request for a document leaves all others as they are. -/
theorem find?_serve_of_ne
    {staticDirectory : Option Path}
    {a : Archive}
    {q : Arrival}
    {identifier other : String}
    (h : q.addressee? staticDirectory = some identifier)
    (hne : other ≠ identifier) :
    (a.serve staticDirectory q).store.find? other = a.store.find? other := by
  rcases entry_serve staticDirectory a q other with ⟨_, hstays⟩ | ⟨_, haccepted, _⟩
  · exact hstays
  · obtain ⟨_, hother, _⟩ := isAccepted_iff.1 haccepted
    rw [h] at hother
    exact absurd (Option.some.inj hother).symm hne

/-- **Every document has an address, and an address leads to one document.**  A target that is
`/notebook/` and the encoded name of a file leads to the document with this name.  A target leads to
a document just if its path is `/notebook/` and one more part that spells the identifier byte by
byte; so it leads to one document at most, whatever the site and the rest of the request.  The
handlers run with this identifier: they read and replace what is stored under it, they answer from
nothing else, and they leave all other documents as they are.  What leads to no document and not
to the list is answered without looking at documents. -/
theorem documents_addressed
    (staticDirectory : Option Path)
    (a : Archive) :
    (∀ (path : Path) (identifier : String) (q : Arrival),
      Path.name path = some identifier → q.request.target = address identifier →
        q.addressee? staticDirectory = some identifier)
      ∧ (∀ (q : Arrival) (identifier : String),
        q.addressee? staticDirectory = some identifier
          ↔ ∃ part, (Target.parse q.request.target).path = Route.notebookStart ++ part
            ∧ part ≠ []
            ∧ 0x2F ∉ part
            ∧ Spells part (Utf8.encode identifier))
      ∧ (∀ (q : Arrival) (identifier : String),
        q.addressee? staticDirectory = some identifier →
          Concerns staticDirectory a.store q identifier
            ∧ (∀ store : Store, store.find? identifier = a.store.find? identifier →
              (q.answer staticDirectory store).response
                = (q.answer staticDirectory a.store).response)
            ∧ ∀ other, other ≠ identifier →
              (a.serve staticDirectory q).store.find? other = a.store.find? other)
      ∧ (∀ q : Arrival, q.addressee? staticDirectory = none →
        q.route staticDirectory ≠ .notebooks →
          ∀ store, q.answer staticDirectory store = q.answer staticDirectory a.store)
      ∧ ∀ (q q' : Arrival) (staticDirectory' : Option Path),
        q'.request.target = q.request.target →
          q'.addressee? staticDirectory' = q.addressee? staticDirectory := by
  refine ⟨?_, fun q identifier => Arrival.addressee?_eq_some_iff_spells, ?_, ?_, ?_⟩
  · intro path identifier q hname htarget
    exact Arrival.addressee?_address (ne_empty_of_name hname) htarget
  · intro q identifier h
    exact ⟨Arrival.concerns_of_addressee? a.store h,
      fun store hsame => Arrival.response_answer_congr h hsame,
      fun other hne => find?_serve_of_ne h hne⟩
  · intro q h hlist store
    exact Arrival.answer_eq_of_addressee?_eq_none a.store store h hlist
  · intro q q' staticDirectory' htarget
    exact Arrival.addressee?_congr htarget staticDirectory'

end Archive
end LiveNotebooks
