import LiveNotebooks.Proofs.Json.Reading
import LiveNotebooks.Proofs.Json.Records

/-!
# Records are read from objects

An object can be written in many ways: with blanks, with escapes, and with its members in any
order.  However this is done, a record is read from it member by member, each by its field.

**Results.**
* `Schema.readMembers_succ_eq_ok_iff`: what one member does to the record under construction.
* `Schema.parse_eq_ok_iff_of_object`: what is read from an object.
* `Schema.parse_object`: a record is read from an object, if its fields take the members in turn.
* `isObjectOf_render`: a written object is one with these members.
-/

namespace LiveNotebooks
namespace Json

variable {ρ α : Type}

/-- The text is an object with these members in this order, each of them taken literally. -/
def IsObjectOf (text : Bytes) (written : Members) : Prop :=
  ∃ tail rest, skipBlanks text = 0x7B :: tail
    ∧ Parts (memberForm (valueForm none (maxLevels - 1))) 0x7D true tail written rest
    ∧ skipBlanks rest = []

/-! ## Members -/

namespace Schema

/-- What the value of a key does to the record under construction, and what is left behind it:
its field reads it, or it is passed over. -/
inductive TakesMember (schema : Schema ρ α) (fuel levels : Nat) (key : String) :
    ρ → Bytes → ρ → Bytes → Prop
  | field
      {record record' : ρ}
      {text rest : Bytes}
      {field : Field ρ}
      (hfield : schema.fields.find? (fun f => f.name == key) = some field)
      (hnew : field.isGiven record = false)
      (hread : field.read record fuel levels text = .ok (record', rest)) :
      TakesMember schema fuel levels key record text record' rest
  | other
      {record : ρ}
      {text rest : Bytes}
      (hnone : schema.fields.find? (fun f => f.name == key) = none)
      (hskip : skipValue fuel text = .ok rest) :
      TakesMember schema fuel levels key record text record rest

section

variable {schema : Schema ρ α} {fuel levels rounds : Nat} {first : Bool} {record record' : ρ}
  {text rest : Bytes}

/-- A round of the loop over the members. -/
theorem readMembers_succ_eq_ok_iff :
    schema.readMembers fuel levels (rounds + 1) first record text = .ok (.ok record', rest)
      ↔ nextKey first text = .ok (false, rest) ∧ record' = record
        ∨ ∃ tail key mid after middle behind,
          nextKey first text = .ok (true, tail)
            ∧ readText fuel tail = .ok (key, mid)
            ∧ readColon mid = .ok after
            ∧ schema.TakesMember fuel levels key record after middle behind
            ∧ schema.readMembers fuel levels rounds false middle behind
              = .ok (.ok record', rest) := by
  rw [readMembers]
  constructor
  · intro h
    split at h
    · cases h
    · next hnext =>
        cases h
        exact .inl ⟨hnext, rfl⟩
    · next tail hnext =>
        refine .inr ?_
        split at h
        · cases h
        · next key mid hkey =>
            split at h
            · next field hfield =>
                split at h
                · cases h
                · next hnew =>
                    split at h
                    · cases h
                    · next after hcolon =>
                        split at h
                        · cases h
                        · next middle behind hread =>
                            exact ⟨tail, key, mid, after, middle, behind, hnext, hkey, hcolon,
                              .field hfield (by simpa using hnew) hread, h⟩
            · next hnone =>
                cases hcolon : readColon mid with
                | error fault =>
                    rw [hcolon] at h
                    cases h
                | ok after =>
                    rw [hcolon] at h
                    split at h
                    · cases h
                    · next behind hskip =>
                        exact ⟨tail, key, mid, after, record, behind, hnext, hkey, hcolon,
                          .other hnone hskip, h⟩
  · rintro (⟨hnext, rfl⟩ | ⟨tail, key, mid, after, middle, behind, hnext, hkey, hcolon, htakes, h⟩)
    · simp only [hnext]
    · cases htakes with
      | field hfield hnew hread =>
          simp only [hnext, hkey, hfield, hnew, Bool.false_eq_true, if_false, hcolon, hread, h]
      | other hnone hskip => simp only [hnext, hkey, hnone, hcolon, Except.bind, hskip, h]

end

end Schema

/-! ## Reading -/

section

variable {schema : Schema ρ α} {record record' : ρ} {written : Members} {a : α}

/-- Wherever the value stands, the field reads it and takes the record under construction to
another one. -/
def Field.Takes (field : Field ρ) (record : ρ) (v : Value) (record' : ρ) : Prop :=
  ∀ fuel levels text rest, text.length < fuel → valueForm none (maxLevels - 1) text v rest →
    field.read record fuel levels text = .ok (record', rest)

namespace Schema

/-- The fields take the members one after another. -/
inductive Gathers (schema : Schema ρ α) : ρ → Members → ρ → Prop
  | nil
      (record : ρ) :
      Gathers schema record [] record
  | cons
      {record middle last : ρ}
      (field : Field ρ)
      {v : Value}
      {ms : Members}
      (hfield : schema.fields.find? (fun f => f.name == field.name) = some field)
      (hnew : field.isGiven record = false)
      (htakes : field.Takes record v middle)
      (hrest : Gathers schema middle ms last) :
      Gathers schema record ((field.name, v) :: ms) last

/-- The loop over the members of an object gathers them one by one. -/
theorem readMembers_gathers
    (h : schema.Gathers record written record')
    {fuel levels rounds : Nat}
    {first : Bool}
    {text rest : Bytes}
    (hwritten : Parts (memberForm (valueForm none (maxLevels - 1))) 0x7D first text written rest)
    (hfuel : text.length < fuel)
    (hrounds : text.length < rounds) :
    schema.readMembers fuel levels rounds first record text = .ok (.ok record', 0x7D :: rest) := by
  induction h generalizing rounds first text with
  | nil record =>
      obtain ⟨rounds, rfl⟩ := Nat.exists_eq_add_one_of_ne_zero (Nat.ne_zero_of_lt hrounds)
      cases hwritten with
      | none hclose => rw [readMembers, nextKey_eq_false_iff.2 ⟨hclose, _, rfl⟩]
  | @cons record middle last field v ms hfield hnew htakes _ ih =>
      obtain ⟨rounds, rfl⟩ := Nat.exists_eq_add_one_of_ne_zero (Nat.ne_zero_of_lt hrounds)
      cases hwritten with
      | @more _ _ next behind _ _ _ hnext hm hms =>
          have hle := hnext.length_le
          have hbehind := shortens_memberForm (isPart_valueForm none _).shortens _ _ _ hm
          obtain ⟨mid, after, hkey, hcolon, hv⟩ := hm
          obtain ⟨tail, hquote, _⟩ := id hkey
          have htail := length_tail_lt hquote
          have hread := (textForm_iff hquote (show tail.length < fuel by omega)).1 hkey
          have hmid := shortens_textForm _ _ _ hkey
          have hafter := length_tail_lt hcolon
          exact readMembers_succ_eq_ok_iff.2 (.inr ⟨tail, field.name, mid, after, middle, behind,
            nextKey_eq_true_iff.2 ⟨next, hnext, hquote⟩, hread, readColon_eq_ok_iff.2 hcolon,
            .field hfield hnew (htakes fuel levels after behind (by omega) hv),
            ih hms (by omega) (by omega)⟩)

theorem closeRecord_eq_ok_iff
    {result : Except Cause α}
    {text rest : Bytes} :
    closeRecord closeObject skipBlanks result text = .ok (a, rest)
      ↔ result = .ok a ∧ skipBlanks text = 0x7D :: rest := by
  rw [← closeObject_eq_ok_iff]
  unfold closeRecord
  cases result <;> cases closeObject text <;> simp

theorem finished_eq_ok_iff
    {cause : Nat → Cause}
    {result : Except Cause ρ} :
    schema.finished cause result = .ok a
      ↔ ∃ record, result = .ok record ∧ schema.finish record = .ok a := by
  refine ⟨finished_eq_ok, ?_⟩
  rintro ⟨record, rfl, hfinish⟩
  simp only [finished, hfinish]

/-- What is read from an object is what its members make of the blank record. -/
theorem parse_eq_ok_iff_of_object
    {text tail : Bytes}
    (hskip : skipBlanks text = 0x7B :: tail) :
    schema.parse text = .ok a
      ↔ ∃ record mid rest,
        schema.readMembers (text.length + 1) (maxLevels - 1) (text.length + 1) true schema.blank
            tail = .ok (.ok record, mid)
          ∧ schema.finish record = .ok a
          ∧ skipBlanks mid = 0x7D :: rest
          ∧ skipBlanks rest = [] := by
  have hread : schema.read (text.length + 1) maxLevels text
      = schema.read (text.length + 1) maxLevels (0x7B :: tail) := by
    rw [read, read, hskip]
    rfl
  rw [parse, parseWith, readWhole_eq_ok_iff, hread, maxLevels, read_object]
  constructor
  · rintro ⟨rest, hclose, hrest⟩
    split at hclose
    · cases hclose
    · next result mid hmembers =>
        obtain ⟨hfinished, hmid⟩ := closeRecord_eq_ok_iff.1 hclose
        obtain ⟨record, rfl, hfinish⟩ := finished_eq_ok_iff.1 hfinished
        exact ⟨record, mid, rest, hmembers, hfinish, hmid, hrest⟩
  · rintro ⟨record, mid, rest, hmembers, hfinish, hmid, hrest⟩
    refine ⟨rest, ?_, hrest⟩
    rw [hmembers]
    exact closeRecord_eq_ok_iff.2 ⟨finished_eq_ok_iff.2 ⟨record, rfl, hfinish⟩, hmid⟩

/-- A record is read from an object, if the fields take its members one after another. -/
theorem parse_object
    (h : schema.Gathers schema.blank written record)
    (hfinish : schema.finish record = .ok a)
    {text : Bytes}
    (hobject : IsObjectOf text written) :
    schema.parse text = .ok a := by
  obtain ⟨tail, rest, hskip, hwritten, hrest⟩ := hobject
  have htail := length_tail_lt hskip
  have hmembers : schema.readMembers (text.length + 1) (maxLevels - 1) (text.length + 1) true
      schema.blank tail = .ok (.ok record, 0x7D :: rest) :=
    readMembers_gathers h hwritten (by omega) (by omega)
  exact (parse_eq_ok_iff_of_object hskip).2
    ⟨record, 0x7D :: rest, rest, hmembers, hfinish, rfl, hrest⟩

end Schema

end

/-! ## Writing -/

section

variable {layout : Layout} {level levels : Nat} {form : Form Value}

/-- Wherever the value is written at this level, the form has it. -/
def Stands (layout : Layout) (level : Nat) (form : Form Value) (v : Value) : Prop :=
  ∀ gap rest : Bytes, (∀ b ∈ gap, isBlankByte b = true) → EndsNumber rest →
    form (gap ++ (valueBytes layout v level ++ rest)) v rest

/-- A written value that embeds nothing stands where it is written. -/
theorem stands_valueForm
    {v : Value}
    (hregular : v.IsRegular)
    (hints : v.HoldsIntegers)
    (hfits : v.levels ≤ levels) :
    Stands layout level (valueForm none levels) v := by
  intro gap rest hgap hrest
  let reader : Bytes → Except Error Value := fun _ => .error ⟨.valueMissing, 0, 0⟩
  let fuel := (gap ++ (valueBytes layout v level ++ rest)).length + 1
  have hlength : (valueBytes layout v level).length ≤ fuel := by
    simp only [fuel, List.length_append]
    omega
  have hreads : ReadsAt layout level levels (readLevels reader fuel levels) v :=
    readsAt_readLevels reader hregular hints hlength
  have hnone : ∀ text : Bytes, text.length + 1 < fuel → ∀ w, reader text = .ok w ↔ False := by
    simp [reader]
  have hread := (hreads gap rest hgap hrest).ok hfits
  exact valueForm_of_plain none levels _ _ _
    ((readsAs_readLevels hnone levels _ (Nat.lt_succ_self _) v rest).1 hread)

/-- A member stands where it is written. -/
theorem memberForm_written
    {v : Value}
    (hv : Stands layout level form v)
    (first : Bool)
    (key : String)
    {rest : Bytes}
    (hrest : EndsNumber rest) :
    ∃ next, Next first (keyBytes layout level first key ++ (valueBytes layout v level ++ rest)) next
      ∧ memberForm form next (key, v) rest := by
  let next := layout.lineBytes level
    ++ (0x22 :: (quotedTail key ++ (0x3A :: (layout.gap ++ (valueBytes layout v level ++ rest)))))
  refine ⟨next, ?_, 0x3A :: (layout.gap ++ (valueBytes layout v level ++ rest)),
    layout.gap ++ (valueBytes layout v level ++ rest), ?_, rfl, ?_⟩
  · cases first with
    | true => exact .inl ⟨rfl, by simp [keyBytes, comma, next]⟩
    | false => exact .inr ⟨rfl, by simp [keyBytes, comma, next]; rfl⟩
  · refine ⟨_, skipBlanks_line rfl, readText_quotedTail ?_ _⟩
    simp only [List.length_append]
    omega
  · exact hv layout.gap rest isBlankByte_of_mem_gap hrest

/-- The written members of an object are its parts. -/
theorem parts_memberBytes
    {ms : Members}
    (h : ∀ m ∈ ms, Stands layout level form m.2)
    (outer : Nat)
    (rest : Bytes) :
    Parts (memberForm form) 0x7D false
      (memberBytes layout ms level ++ (layout.lineBytes outer ++ 0x7D :: rest)) ms rest := by
  induction ms with
  | nil => exact .none (skipBlanks_line rfl)
  | cons m ms ih =>
      obtain ⟨key, v⟩ := m
      rw [List.forall_mem_cons] at h
      obtain ⟨next, hnext, hm⟩ := memberForm_written h.1 false key
        (endsNumber_members layout ms level outer rest)
      rw [memberBytes_cons, List.append_assoc, List.append_assoc]
      exact .more hnext hm (ih h.2)

/-- The members of a written object stand in it one after another. -/
theorem exists_parts_object
    {members : Members}
    (h : ∀ m ∈ members, Stands layout (level + 1) form m.2)
    (rest : Bytes) :
    ∃ tail, valueBytes layout (.object members) level ++ rest = 0x7B :: tail
      ∧ Parts (memberForm form) 0x7D true tail members rest := by
  cases members with
  | nil => exact ⟨0x7D :: rest, rfl, .none rfl⟩
  | cons m ms =>
      obtain ⟨key, v⟩ := m
      rw [List.forall_mem_cons] at h
      obtain ⟨next, hnext, hm⟩ := memberForm_written h.1 true key
        (endsNumber_members layout ms (level + 1) level rest)
      refine ⟨_, ?_, .more hnext hm (parts_memberBytes h.2 level rest)⟩
      rw [valueBytes_object]
      simp only [List.cons_append, List.append_assoc, List.nil_append]

/-- A written object is one with its members. -/
theorem isObjectOf_render
    {members : Members}
    (hregular : ∀ m ∈ members, m.2.IsRegular)
    (hints : ∀ m ∈ members, m.2.HoldsIntegers)
    (hfits : ∀ m ∈ members, m.2.levels < maxLevels)
    (layout : Layout) :
    IsObjectOf ((Value.object members).render layout) members := by
  have hstands : ∀ m ∈ members, Stands layout (0 + 1) (valueForm none (maxLevels - 1)) m.2 :=
    fun m hm => stands_valueForm (hregular m hm) (hints m hm) (Nat.le_sub_one_of_lt (hfits m hm))
  obtain ⟨tail, htext, hmembers⟩ := exists_parts_object hstands []
  rw [List.append_nil, ← render_eq] at htext
  refine ⟨tail, [], ?_, hmembers, rfl⟩
  rw [htext]
  rfl

end

end Json
end LiveNotebooks
