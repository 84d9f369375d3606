import LiveNotebooks.Proofs.Json.Shape

/-!
# Values are read as they are written

A reader that may open enough levels gives back the value whose text it reads, in either
layout; one that may not stops with the fault `tooDeep`.

**Induction.**  `readLevels` recurses on the levels, and so does the proof: the parts of a list
or an object are read with one level less.  The loops over items and members are inductions
on what is left of them.

**Result.**  `parse_render`: which written values are read again from their texts.
-/

namespace LiveNotebooks
namespace Json

/-! ## Blanks and marks -/

section

variable {layout : Layout} {level : Nat} {b : UInt8} {gap tail rest : Bytes}

theorem skipBlanks_append
    (hgap : ∀ b ∈ gap, isBlankByte b = true)
    (text : Bytes) :
    skipBlanks (gap ++ text) = skipBlanks text :=
  List.dropWhile_append_of_pos hgap

theorem skipBlanks_cons
    (hb : isBlankByte b = false)
    (rest : Bytes) :
    skipBlanks (b :: rest) = b :: rest := by
  simp [skipBlanks, hb]

/-- A new line and its indentation are blanks. -/
theorem isBlankByte_of_mem_lineBytes :
    ∀ b ∈ layout.lineBytes level, isBlankByte b = true := by
  cases layout with
  | compact => simp [Layout.lineBytes]
  | indented =>
      intro b hb
      rcases List.mem_cons.1 hb with rfl | hb
      · rfl
      · rw [List.eq_of_mem_replicate hb]
        rfl

theorem isBlankByte_of_mem_gap :
    ∀ b ∈ layout.gap, isBlankByte b = true := by
  cases layout <;> simp [Layout.gap, isBlankByte]

theorem skipBlanks_line
    (hb : isBlankByte b = false) :
    skipBlanks (layout.lineBytes level ++ b :: tail) = b :: tail := by
  rw [skipBlanks_append isBlankByte_of_mem_lineBytes, skipBlanks_cons hb]

theorem nextItem_first
    (hb : isBlankByte b = false)
    (hne : b ≠ 0x5D) :
    nextItem true (layout.lineBytes level ++ b :: tail) = .ok (true, b :: tail) := by
  simp [nextItem, skipBlanks_line hb, hne]

theorem nextItem_later
    (hb : isBlankByte b = false)
    (hne : b ≠ 0x5D) :
    nextItem false (0x2C :: (layout.lineBytes level ++ b :: tail)) = .ok (true, b :: tail) := by
  have hcomma : isBlankByte 0x2C = false := rfl
  simp [nextItem, skipBlanks_cons hcomma, skipBlanks_line hb, hne]

theorem nextItem_end
    (first : Bool) :
    nextItem first (layout.lineBytes level ++ 0x5D :: rest) = .ok (false, 0x5D :: rest) := by
  have hbracket : isBlankByte 0x5D = false := rfl
  simp [nextItem, skipBlanks_line hbracket]

theorem nextKey_first :
    nextKey true (layout.lineBytes level ++ 0x22 :: tail) = .ok (true, tail) := by
  have hquote : isBlankByte 0x22 = false := rfl
  simp [nextKey, skipBlanks_line hquote]

theorem nextKey_later :
    nextKey false (0x2C :: (layout.lineBytes level ++ 0x22 :: tail)) = .ok (true, tail) := by
  have hcomma : isBlankByte 0x2C = false := rfl
  have hquote : isBlankByte 0x22 = false := rfl
  simp [nextKey, skipBlanks_cons hcomma, skipBlanks_line hquote]

theorem nextKey_end
    (first : Bool) :
    nextKey first (layout.lineBytes level ++ 0x7D :: rest) = .ok (false, 0x7D :: rest) := by
  have hbrace : isBlankByte 0x7D = false := rfl
  simp [nextKey, skipBlanks_line hbrace]

/-- A digit is no blank and ends no list. -/
theorem isBlankByte_of_digit
    (hb : (Digits.value? b).isSome = true) :
    isBlankByte b = false ∧ b ≠ 0x5D := by
  have hdigit : 0x30 ≤ b ∧ b ≤ 0x39 := by
    unfold Digits.value? at hb
    split at hb
    · next h => simpa using h
    · cases hb
  obtain ⟨hlow, hhigh⟩ := hdigit
  rw [UInt8.le_iff_toNat_le] at hlow hhigh
  simp only [UInt8.reduceToNat] at hlow hhigh
  simp only [isBlankByte, ← UInt8.toNat_inj, UInt8.reduceToNat, Bool.or_eq_false_iff,
    decide_eq_false_iff_not, ne_eq]
  omega

/-- The text of a value begins with a byte that neither is a blank nor closes a list. -/
theorem exists_valueBytes
    {v : Value}
    (hv : v.HoldsIntegers)
    (layout : Layout)
    (level : Nat) :
    ∃ b tail, valueBytes layout v level = b :: tail ∧ isBlankByte b = false ∧ b ≠ 0x5D := by
  cases hv with
  | null => exact ⟨_, _, rfl, rfl, by decide⟩
  | boolean b => cases b <;> exact ⟨_, _, rfl, rfl, by decide⟩
  | @number n hn =>
      obtain ⟨b, tail, hbytes, hb⟩ := exists_signed n
      refine ⟨b, tail, hbytes, ?_⟩
      rcases hb with rfl | hb
      · exact ⟨rfl, by decide⟩
      · exact isBlankByte_of_digit hb
  | text s => exact ⟨_, _, rfl, rfl, by decide⟩
  | @array items hitems => cases items <;> exact ⟨_, _, rfl, rfl, by decide⟩
  | @object members hmembers => cases members <;> exact ⟨_, _, rfl, rfl, by decide⟩

/-- No numeral goes on behind an item. -/
theorem endsNumber_items
    (layout : Layout)
    (vs : List Value)
    (level outer : Nat)
    (rest : Bytes) :
    EndsNumber (itemBytes layout vs level ++ (layout.lineBytes outer ++ 0x5D :: rest)) := by
  cases vs with
  | nil => cases layout <;> exact ⟨rfl, rfl, by simp [itemBytes, Layout.lineBytes]⟩
  | cons v vs => exact ⟨rfl, rfl, by simp [itemBytes]⟩

theorem endsNumber_members
    (layout : Layout)
    (ms : Members)
    (level outer : Nat)
    (rest : Bytes) :
    EndsNumber (memberBytes layout ms level ++ (layout.lineBytes outer ++ 0x7D :: rest)) := by
  cases ms with
  | nil => cases layout <;> exact ⟨rfl, rfl, by simp [memberBytes, Layout.lineBytes]⟩
  | cons m ms => exact ⟨rfl, rfl, by simp [memberBytes]⟩

end

/-! ## What a reading comes to -/

/-- The reading gives the value and what is behind it if this fits, and is too deep if not. -/
structure Comes (reading : Reading Value) (fits : Prop) (v : Value) (rest : Bytes) : Prop where
  ok : fits → reading = .ok (v, rest)
  tooDeep : ¬ fits → ∃ unread, reading = .error ⟨.tooDeep, unread⟩

namespace Comes

variable {reading : Reading Value} {fits fits' : Prop} {v w : Value} {middle rest : Bytes}

theorem congr
    (h : Comes reading fits v rest)
    (hfits : fits ↔ fits') :
    Comes reading fits' v rest :=
  ⟨fun h' => h.ok (hfits.2 h'), fun h' => h.tooDeep fun hf => h' (hfits.1 hf)⟩

/-- Two readings one after another. -/
theorem andThen
    {next : Value → Bytes → Reading Value} :
    Comes reading fits v middle → Comes (next v middle) fits' w rest →
      Comes
        (match reading with
          | .error fault => .error fault
          | .ok (v, middle) => next v middle)
        (fits ∧ fits') w rest := by
  intro h hnext
  by_cases hfits : fits
  · rw [h.ok hfits]
    exact hnext.congr (by simp [hfits])
  · obtain ⟨unread, hdeep⟩ := h.tooDeep hfits
    rw [hdeep]
    exact ⟨fun hboth => absurd hboth.1 hfits, fun _ => ⟨unread, rfl⟩⟩

end Comes

/-! ## Items and members -/

section

variable {layout : Layout} {level n : Nat} {reader : Bytes → Reading Value}

/-- The reader reads the value at this level, blanks in front of it allowed. -/
def ReadsAt (layout : Layout) (level n : Nat) (reader : Bytes → Reading Value) (v : Value) :
    Prop :=
  ∀ gap rest : Bytes, (∀ b ∈ gap, isBlankByte b = true) → EndsNumber rest →
    Comes (reader (gap ++ (valueBytes layout v level ++ rest))) (v.levels ≤ n) v rest

/-- The items of a written list are read back one by one, as long as their levels allow it. -/
theorem comes_readItems
    {vs : List Value}
    {rounds : Nat}
    (hrounds : vs.length < rounds)
    (hread : ∀ v ∈ vs, ReadsAt layout level n reader v)
    (hints : ∀ v ∈ vs, v.HoldsIntegers)
    (acc : List Value)
    (outer : Nat)
    (rest : Bytes) :
    Comes
      (readItems reader rounds false acc
        (itemBytes layout vs level ++ (layout.lineBytes outer ++ 0x5D :: rest)))
      (∀ v ∈ vs, v.levels ≤ n) (.array (acc.reverse ++ vs)) rest := by
  obtain ⟨rounds, rfl⟩ := Nat.exists_eq_add_one_of_ne_zero (Nat.ne_zero_of_lt hrounds)
  induction vs generalizing rounds acc with
  | nil =>
      refine ⟨fun _ => ?_, by simp⟩
      simp only [itemBytes, List.nil_append, readItems, nextItem_end, List.append_nil]
      rfl
  | cons v vs ih =>
      obtain ⟨rounds, rfl⟩ := Nat.exists_eq_add_one_of_ne_zero
        (Nat.ne_zero_of_lt (Nat.lt_of_succ_lt_succ hrounds))
      have hv := hread v List.mem_cons_self [] _ (by simp)
        (endsNumber_items layout vs level outer rest)
      have hvs := ih (fun w hw => hread w (List.mem_cons_of_mem v hw))
        (fun w hw => hints w (List.mem_cons_of_mem v hw)) (v :: acc) rounds
        (Nat.lt_of_succ_lt_succ hrounds)
      obtain ⟨b, tail, hbytes, hblank, hbracket⟩ :=
        exists_valueBytes (hints v List.mem_cons_self) layout level
      rw [hbytes] at hv
      simp only [itemBytes, hbytes, List.cons_append, List.append_assoc, List.nil_append] at hv ⊢
      rw [readItems, nextItem_later hblank hbracket, List.forall_mem_cons]
      rw [List.reverse_cons, List.append_assoc, List.singleton_append] at hvs
      exact hv.andThen hvs

/-- A key that is not there yet is put in front. -/
theorem addMember_of_nodup
    {acc ms : Members}
    {key : String}
    {v : Value}
    (h : ((acc.reverse ++ (key, v) :: ms).map Prod.fst).Nodup) :
    addMember acc key v = (key, v) :: acc := by
  have hnew : key ∉ acc.map Prod.fst := by
    rw [List.map_append, List.nodup_append] at h
    intro hmem
    refine h.2.2 key ?_ key List.mem_cons_self rfl
    simpa using hmem
  have hany : acc.any (fun m => m.1 == key) = false := by
    rw [List.any_eq_false]
    rintro m hm hkey
    exact hnew (List.mem_map.2 ⟨m, hm, by simpa using hkey⟩)
  simp [addMember, hany]

/-- The members of a written object are read back one by one, as long as their levels allow it. -/
theorem comes_readMembers
    {ms : Members}
    {rounds keyFuel : Nat}
    (acc : Members)
    (hrounds : ms.length < rounds)
    (hkeys : ∀ m ∈ ms, (quotedTail m.1).length ≤ keyFuel)
    (hread : ∀ m ∈ ms, ReadsAt layout level n reader m.2)
    (hnodup : ((acc.reverse ++ ms).map Prod.fst).Nodup)
    (outer : Nat)
    (rest : Bytes) :
    Comes
      (readMembers reader keyFuel rounds acc
        (memberBytes layout ms level ++ (layout.lineBytes outer ++ 0x7D :: rest)))
      (∀ m ∈ ms, m.2.levels ≤ n) (.object (acc.reverse ++ ms)) rest := by
  obtain ⟨rounds, rfl⟩ := Nat.exists_eq_add_one_of_ne_zero (Nat.ne_zero_of_lt hrounds)
  induction ms generalizing rounds acc with
  | nil =>
      refine ⟨fun _ => ?_, by simp⟩
      simp only [memberBytes, List.nil_append, readMembers, nextKey_end, List.append_nil]
      rfl
  | cons m ms ih =>
      obtain ⟨key, v⟩ := m
      obtain ⟨rounds, rfl⟩ := Nat.exists_eq_add_one_of_ne_zero
        (Nat.ne_zero_of_lt (Nat.lt_of_succ_lt_succ hrounds))
      have hv := hread (key, v) List.mem_cons_self layout.gap _ isBlankByte_of_mem_gap
        (endsNumber_members layout ms level outer rest)
      have hadd := addMember_of_nodup hnodup
      have hsame : ((key, v) :: acc).reverse ++ ms = acc.reverse ++ (key, v) :: ms := by simp
      have hms := ih ((key, v) :: acc) (fun m hm => hkeys m (List.mem_cons_of_mem _ hm))
        (fun m hm => hread m (List.mem_cons_of_mem _ hm)) (by rwa [hsame]) rounds
        (Nat.lt_of_succ_lt_succ hrounds)
      rw [hsame] at hms
      simp only [memberBytes, List.cons_append, List.append_assoc]
      rw [readMembers, nextKey_later]
      simp only [readText_quotedTail (hkeys (key, v) List.mem_cons_self)]
      rw [List.forall_mem_cons]
      rw [← hadd] at hms
      exact hv.andThen hms

end

/-! ## Values -/

section

variable {layout : Layout} {level fuel n : Nat} {v : Value} {gap rest : Bytes}

theorem readValueWith_append
    (hgap : ∀ b ∈ gap, isBlankByte b = true)
    (readers : Option PartReaders)
    (text : Bytes) :
    readValueWith fuel readers (gap ++ text) = readValueWith fuel readers text := by
  simp only [readValueWith, skipBlanks_append hgap]

/-- What opens no level is read by every reader. -/
theorem readValueWith_flat
    (hv : v.HoldsIntegers)
    (hflat : v.levels = 0)
    (hfuel : (valueBytes layout v level).length ≤ fuel)
    (hrest : EndsNumber rest)
    (readers : Option PartReaders) :
    readValueWith fuel readers (valueBytes layout v level ++ rest) = .ok (v, rest) := by
  cases hv with
  | null => rfl
  | boolean b => cases b <;> rfl
  | @number n hn =>
      obtain ⟨b, tail, hbytes, hb⟩ := exists_signed n
      have hread := readNumber_signed hn hrest
      have hblank : isBlankByte b = false := by
        rcases hb with rfl | hb
        · rfl
        · exact (isBlankByte_of_digit hb).1
      have hword : b ≠ 0x6E ∧ b ≠ 0x74 ∧ b ≠ 0x66 := by
        refine ⟨?_, ?_, ?_⟩ <;> rintro rfl <;> rcases hb with hb | hb <;> cases hb
      have hnumber : (b = 0x2D || (Digits.value? b).isSome) = true := by simpa using hb
      rw [valueBytes, Number.render, hbytes, List.cons_append] at *
      rw [readValueWith, skipBlanks_cons hblank]
      simp only [if_neg hword.1, if_neg hword.2.1, if_neg hword.2.2, hnumber, if_true, hread]
      rfl
  | text s =>
      have hread := readText_quotedTail (Nat.le_of_succ_le hfuel) rest
      change (readText fuel (quotedTail s ++ rest)).map _ = _
      rw [hread]
      rfl
  | array hitems => cases hflat
  | object hmembers => cases hflat

theorem readValueWith_list
    (r : PartReaders)
    (text : Bytes) :
    readValueWith fuel (some r) (0x5B :: text) = readItems r.part fuel true [] text :=
  rfl

theorem readValueWith_object
    (r : PartReaders)
    (text : Bytes) :
    readValueWith fuel (some r) (0x7B :: text) = readObject r fuel text :=
  rfl

theorem readLevels_object
    (embedded : Bytes → Except Error Value)
    (fuel levels : Nat)
    (text : Bytes) :
    readLevels embedded fuel (levels + 1) (0x7B :: text)
      = readObject ⟨readLevels embedded fuel levels, embedded⟩ fuel text :=
  rfl

/-- The items of a list are read one level deeper. -/
theorem comes_array
    {items : List Value}
    {r : PartReaders}
    (hfuel : (valueBytes layout (.array items) level).length ≤ fuel)
    (hints : ∀ v ∈ items, v.HoldsIntegers)
    (hread : ∀ v ∈ items, (valueBytes layout v (level + 1)).length ≤ fuel →
      ReadsAt layout (level + 1) n r.part v)
    (rest : Bytes) :
    Comes (readValueWith fuel (some r) (valueBytes layout (.array items) level ++ rest))
      ((Value.array items).levels ≤ n + 1) (.array items) rest := by
  rw [levels_array_le_iff]
  obtain ⟨fuel, rfl⟩ : ∃ k, fuel = k + 1 := by
    refine Nat.exists_eq_add_one_of_ne_zero ?_
    cases items <;> simp only [valueBytes, List.length_cons] at hfuel <;> omega
  cases items with
  | nil => exact ⟨fun _ => rfl, by simp⟩
  | cons v vs =>
      simp only [valueBytes, List.length_cons, List.length_append] at hfuel
      have hvs := length_le_itemBytes layout (level + 1) vs
      have hitems := comes_readItems (show vs.length < fuel by omega)
        (fun w hw => hread w (List.mem_cons_of_mem v hw)
          (Nat.le_trans (length_valueBytes_le_itemBytes layout (level + 1) hw) (by omega)))
        (fun w hw => hints w (List.mem_cons_of_mem v hw)) [v] level rest
      have hv := hread v List.mem_cons_self (by omega) [] _ (by simp)
        (endsNumber_items layout vs (level + 1) level rest)
      obtain ⟨b, tail, hbytes, hblank, hbracket⟩ :=
        exists_valueBytes (hints v List.mem_cons_self) layout (level + 1)
      rw [hbytes] at hv
      simp only [valueBytes, hbytes, List.cons_append, List.append_assoc, List.nil_append,
        readValueWith_list] at hv ⊢
      rw [readItems, nextItem_first hblank hbracket, List.forall_mem_cons]
      exact hv.andThen hitems

/-- The members of an object are read one level deeper. -/
theorem comes_object
    {members : Members}
    {r : PartReaders}
    (hfuel : (valueBytes layout (.object members) level).length ≤ fuel)
    (hkeys : (members.map Prod.fst).Nodup)
    (hfirst : (members.map Prod.fst).head? ≠ some embeddingKey)
    (hread : ∀ m ∈ members, (valueBytes layout m.2 (level + 1)).length ≤ fuel →
      ReadsAt layout (level + 1) n r.part m.2)
    (rest : Bytes) :
    Comes (readValueWith fuel (some r) (valueBytes layout (.object members) level ++ rest))
      ((Value.object members).levels ≤ n + 1) (.object members) rest := by
  rw [levels_object_le_iff]
  cases members with
  | nil => exact ⟨fun _ => rfl, by simp⟩
  | cons m ms =>
      obtain ⟨key, v⟩ := m
      simp only [valueBytes, List.length_cons, List.length_append] at hfuel
      have hms := length_le_memberBytes layout (level + 1) ms
      have hlater : ∀ m ∈ ms, (quotedTail m.1).length + (valueBytes layout m.2 (level + 1)).length
          ≤ fuel := by
        intro m hm
        have hlength := length_member_le_memberBytes layout (level + 1) hm
        omega
      have hmembers := comes_readMembers [(key, v)] (show ms.length < fuel by omega)
        (fun m hm => Nat.le_trans (Nat.le_add_right _ _) (hlater m hm))
        (fun m hm => hread m (List.mem_cons_of_mem _ hm)
          (Nat.le_trans (Nat.le_add_left _ _) (hlater m hm))) hkeys level rest
      have hv := hread (key, v) List.mem_cons_self (by simp only; omega) layout.gap _
        isBlankByte_of_mem_gap (endsNumber_members layout ms (level + 1) level rest)
      have hother : key ≠ embeddingKey := fun h => hfirst (congrArg some h)
      simp only [valueBytes, List.cons_append, List.append_assoc, List.nil_append,
        readValueWith_object]
      rw [readObject, nextKey_first, List.forall_mem_cons]
      simp only [readText_quotedTail (show (quotedTail key).length ≤ fuel by omega), if_neg hother]
      exact hv.andThen hmembers

/-- A value is read by a reader that may open its levels. -/
theorem readsAt_readLevels
    (embedded : Bytes → Except Error Value)
    (hregular : v.IsRegular)
    (hints : v.HoldsIntegers)
    (hfuel : (valueBytes layout v level).length ≤ fuel) :
    ReadsAt layout level n (readLevels embedded fuel n) v := by
  induction n generalizing v level with
  | zero =>
      intro gap rest hgap hrest
      rw [readLevels, readValueWith_append hgap, Nat.le_zero]
      refine ⟨fun hflat => readValueWith_flat hints hflat hfuel hrest none, fun hdeep => ?_⟩
      cases hregular with
      | @array items hitems => cases items <;> exact ⟨_, rfl⟩
      | @object members hkeys hfirst hmembers => cases members <;> exact ⟨_, rfl⟩
      | _ => exact absurd rfl hdeep
  | succ n ih =>
      intro gap rest hgap hrest
      rw [readLevels, readValueWith_append hgap]
      by_cases hflat : v.levels = 0
      · refine ⟨fun _ => readValueWith_flat hints hflat hfuel hrest _, fun hdeep => ?_⟩
        exact absurd (hflat ▸ Nat.zero_le _) hdeep
      · cases hregular with
        | array hitems =>
            cases hints with
            | array hints =>
                exact comes_array hfuel hints (fun v hv => ih (hitems v hv) (hints v hv)) rest
        | object hkeys hfirst hmembers =>
            cases hints with
            | object hints =>
                exact comes_object hfuel hkeys hfirst
                  (fun m hm => ih (hmembers m hm) (hints m hm)) rest
        | _ => exact absurd rfl hflat

end

/-! ## Whole texts -/

section

variable {v : Value}

/-- A whole text that holds a written value, and nothing else. -/
theorem readWhole_render
    {fuel : Nat}
    (hregular : v.IsRegular)
    (hints : v.HoldsIntegers)
    (layout : Layout)
    (hfuel : (v.render layout).length < fuel) :
    (v.levels ≤ maxLevels → readWhole (readValue fuel maxLevels) (v.render layout) = .ok v)
      ∧ (maxLevels < v.levels →
        ∃ e, readWhole (readValue fuel maxLevels) (v.render layout) = .error e
          ∧ e.cause = .tooDeep) := by
  obtain ⟨fuel, rfl⟩ := Nat.exists_eq_add_one_of_ne_zero (Nat.ne_zero_of_lt hfuel)
  have hend : EndsNumber [] := ⟨rfl, rfl, by simp⟩
  rw [render_eq] at hfuel ⊢
  have hreads : ReadsAt layout 0 maxLevels (readValue (fuel + 1) maxLevels) v :=
    readsAt_readLevels _ hregular hints (Nat.le_of_lt hfuel)
  have hread := hreads [] [] (by simp) hend
  rw [List.nil_append, List.append_nil] at hread
  constructor
  · intro hfits
    simp only [readWhole, hread.ok hfits]
    rfl
  · intro hdeep
    obtain ⟨unread, hfault⟩ := hread.tooDeep (Nat.not_le.2 hdeep)
    simp only [readWhole, hfault]
    exact ⟨_, rfl, rfl⟩

/-- Which values are read again from their texts: those that open no more levels than a text
may, and no others. -/
theorem parse_render
    (hregular : v.IsRegular)
    (hints : v.HoldsIntegers)
    (layout : Layout) :
    (v.levels ≤ maxLevels → parse (v.render layout) = .ok v)
      ∧ (maxLevels < v.levels → ∃ e, parse (v.render layout) = .error e ∧ e.cause = .tooDeep) :=
  readWhole_render hregular hints layout (Nat.lt_succ_self _)

/-! ## Embedded texts -/

/-- An object that stands for the value of the text embedded in it. -/
theorem readObject_embedded
    (readers : PartReaders)
    {fuel : Nat}
    {s : String}
    (hkey : (quotedTail embeddingKey).length ≤ fuel)
    (hfuel : (quotedTail s).length ≤ fuel)
    (hwhole : readers.embedded (Utf8.encode s) = .ok v)
    (rest : Bytes) :
    readObject readers fuel
        (0x22 :: (quotedTail embeddingKey ++ 0x3A :: 0x22 :: (quotedTail s ++ 0x7D :: rest)))
      = .ok (v, rest) := by
  have hfirst : nextKey true (0x22 :: (quotedTail embeddingKey
      ++ 0x3A :: 0x22 :: (quotedTail s ++ 0x7D :: rest)))
      = .ok (true, quotedTail embeddingKey ++ 0x3A :: 0x22 :: (quotedTail s ++ 0x7D :: rest)) :=
    rfl
  have htext : (readColon (0x3A :: 0x22 :: (quotedTail s ++ 0x7D :: rest))).bind
      (readStringValue "raw value" fuel) = readText fuel (quotedTail s ++ 0x7D :: rest) :=
    rfl
  simp only [readObject, hfirst, readText_quotedTail hkey, if_true, readEmbedded, htext,
    readText_quotedTail hfuel, hwhole]
  rfl

/-- An object with one member. -/
theorem readObject_member
    (readers : PartReaders)
    {fuel : Nat}
    {key : String}
    {text rest : Bytes}
    (hfuel : (quotedTail key).length ≤ fuel)
    (hkey : key ≠ embeddingKey)
    (hpart : readers.part text = .ok (v, 0x7D :: rest)) :
    readObject readers fuel (0x22 :: (quotedTail key ++ 0x3A :: text))
      = .ok (.object [(key, v)], rest) := by
  obtain ⟨fuel, rfl⟩ : ∃ k, fuel = k + 1 := by
    refine Nat.exists_eq_add_one_of_ne_zero ?_
    simp only [quotedTail, List.length_append, List.length_singleton] at hfuel
    omega
  have hfirst : nextKey true (0x22 :: (quotedTail key ++ 0x3A :: text))
      = .ok (true, quotedTail key ++ 0x3A :: text) := rfl
  have hvalue : readMemberValue readers.part (0x3A :: text) = readers.part text := rfl
  simp only [readObject, hfirst, readText_quotedTail hfuel, if_neg hkey, hvalue, hpart]
  rfl

/-- A value in an embedded text may open as many levels as a whole text, although the object
that stands for it has a place inside another one. -/
theorem readValue_embedded
    {key s : String}
    (hregular : v.IsRegular)
    (hints : v.HoldsIntegers)
    (hfits : v.levels ≤ maxLevels)
    (hkey : key ≠ embeddingKey)
    (hbytes : Utf8.encode s = v.compact)
    (hplain : quotedTail s = v.compact ++ [0x22])
    (levels level : Nat)
    {fuel : Nat}
    (hfuel : (valueBytes .compact (.object [(key, .object [(embeddingKey, .text s)])]) level).length
      ≤ fuel)
    (rest : Bytes) :
    readValue (fuel + 1) (levels + 2)
        (valueBytes .compact (.object [(key, .object [(embeddingKey, .text s)])]) level ++ rest)
      = .ok (.object [(key, v)], rest) := by
  have hwritten : valueBytes .compact (.object [(key, .object [(embeddingKey, .text s)])]) level
      = 0x7B :: 0x22 :: (quotedTail key ++ 0x3A :: 0x7B :: 0x22 :: (quotedTail embeddingKey
        ++ 0x3A :: 0x22 :: (quotedTail s ++ 0x7D :: [0x7D]))) := by
    simp [valueBytes, memberBytes, Layout.lineBytes, Layout.gap]
  rw [hwritten] at hfuel
  simp only [List.length_cons, List.length_append, List.length_nil] at hfuel
  have hquoted := congrArg List.length hplain
  rw [List.length_append, List.length_singleton] at hquoted
  have hwhole : readWhole (readValue fuel maxLevels) (Utf8.encode s) = .ok v := by
    rw [hbytes]
    exact (readWhole_render hregular hints .compact (by unfold Value.compact at hquoted; omega)).1
      hfits
  have hinner : readLevels (readWhole (readValue fuel maxLevels)) (fuel + 1) (levels + 1)
      (0x7B :: 0x22 :: (quotedTail embeddingKey
        ++ 0x3A :: 0x22 :: (quotedTail s ++ 0x7D :: 0x7D :: rest)))
      = .ok (v, 0x7D :: rest) :=
    (readLevels_object _ _ levels _).trans
      (readObject_embedded _ (by omega) (by omega) hwhole (0x7D :: rest))
  rw [hwritten]
  simp only [List.cons_append, List.append_assoc, List.nil_append]
  exact (readLevels_object _ _ (levels + 1) _).trans (readObject_member _ (by omega) hkey hinner)

/-- So a text can mean an object that no text of its own could hold. -/
theorem parse_embedded
    {key s : String}
    (hregular : v.IsRegular)
    (hints : v.HoldsIntegers)
    (hfits : v.levels ≤ maxLevels)
    (hkey : key ≠ embeddingKey)
    (hbytes : Utf8.encode s = v.compact)
    (hplain : quotedTail s = v.compact ++ [0x22]) :
    parse (Value.object [(key, .object [(embeddingKey, .text s)])]).compact
      = .ok (.object [(key, v)]) := by
  have hread := readValue_embedded hregular hints hfits hkey hbytes hplain 125 0 (Nat.le_refl _) []
  rw [List.append_nil, ← render_eq] at hread
  simp only [parse, parseWith, readWhole, Value.compact, maxLevels, hread]
  rfl

end

end Json
end LiveNotebooks
