import LiveNotebooks.Json.Record
import LiveNotebooks.Proofs.Json.RoundTrip

/-!
# Records are read as they are written

A record is read field by field, from whatever text.  What every field keeps of the record under
construction holds of the finished record.  Where the members of a record are written in one of the
two layouts, each field is read in its turn.

**Results.**
* `Schema.keeps_parse`: what all fields keep holds of every record that is read.
* `Schema.parse_render`: a written record is read.
* `Schema.parse_render_tooDeep`: a written record is refused if one of its values is.
-/

namespace LiveNotebooks
namespace Json

variable {ρ α : Type}

/-! ## What fields keep -/

/-- Reading the field keeps a property of the record under construction. -/
def Field.Keeps (P : ρ → Prop) (field : Field ρ) : Prop :=
  ∀ record fuel levels text record' rest,
    P record → field.read record fuel levels text = .ok (record', rest) → P record'

section

variable {P : ρ → Prop} {fuel levels : Nat} {text rest : Bytes} {record record' : ρ}

/-- Reading the fields of a record in turn keeps what each field keeps. -/
theorem keeps_readFields
    {fields : List (Field ρ)}
    (hkeeps : ∀ field ∈ fields, field.Keeps P)
    {first : Bool}
    (hrecord : P record)
    (h : readFields fuel levels fields first record text = .ok (record', rest)) :
    P record' := by
  induction fields generalizing first record text with
  | nil =>
      cases h
      exact hrecord
  | cons field fields ih =>
      rw [readFields] at h
      split at h
      · cases h
      · cases h
        exact hrecord
      · split at h
        · cases h
        · next hread =>
            exact ih (fun f hf => hkeeps f (List.mem_cons_of_mem _ hf))
              (hkeeps field List.mem_cons_self _ _ _ _ _ _ hrecord hread) h

theorem closeRecord_eq_ok
    {closer : Bytes → Except Fault Bytes}
    {stop : Bytes → Bytes}
    {result : Except Cause α}
    {a : α}
    (h : closeRecord closer stop result text = .ok (a, rest)) :
    result = .ok a := by
  unfold closeRecord at h
  split at h
  · cases h
    rfl
  all_goals cases h

namespace Schema

variable {schema : Schema ρ α} {a : α}

/-- Reading the members of a record keeps what each field keeps; a member that belongs to no field
is passed over. -/
theorem keeps_readMembers
    (hkeeps : ∀ field ∈ schema.fields, field.Keeps P)
    {rounds : Nat}
    {first : Bool}
    (hrecord : P record)
    (h : schema.readMembers fuel levels rounds first record text = .ok (.ok record', rest)) :
    P record' := by
  induction rounds generalizing first record text with
  | zero => cases h
  | succ rounds ih =>
      rw [readMembers] at h
      split at h
      · cases h
      · cases h
        exact hrecord
      · split at h
        · cases h
        · split at h
          · next field hfield =>
              have hmem := List.mem_of_find?_eq_some hfield
              split at h
              · cases h
              · split at h
                · cases h
                · split at h
                  · cases h
                  · next hread => exact ih (hkeeps field hmem _ _ _ _ _ _ hrecord hread) h
          · split at h
            · cases h
            · exact ih hrecord h

/-- A record that is finished has been read. -/
theorem finished_eq_ok
    {cause : Nat → Cause}
    {result : Except Cause ρ}
    (h : schema.finished cause result = .ok a) :
    ∃ record, result = .ok record ∧ schema.finish record = .ok a := by
  unfold finished at h
  split at h
  · cases h
  · next record =>
      split at h
      · next hfinish =>
          cases h
          exact ⟨record, rfl, hfinish⟩
      · cases h

/-- What all fields keep holds of the record of every object and of every list. -/
theorem keeps_read
    (hkeeps : ∀ field ∈ schema.fields, field.Keeps P)
    (hblank : P schema.blank)
    (h : schema.read fuel levels text = .ok (a, rest)) :
    ∃ record, P record ∧ schema.finish record = .ok a := by
  unfold read at h
  split at h
  · cases h
  · split at h
    · split at h
      · cases h
      · split at h
        · cases h
        · next record _ hread =>
            obtain ⟨last, hlast, hfinish⟩ := finished_eq_ok (closeRecord_eq_ok h)
            cases hlast
            exact ⟨record, keeps_readFields hkeeps hblank hread, hfinish⟩
    · split at h
      · split at h
        · cases h
        · split at h
          · cases h
          · next hread =>
              obtain ⟨last, rfl, hfinish⟩ := finished_eq_ok (closeRecord_eq_ok h)
              exact ⟨last, keeps_readMembers hkeeps hblank hread, hfinish⟩
      · cases h

/-- What all fields keep holds of every record that is read from a whole text. -/
theorem keeps_parse
    (hkeeps : ∀ field ∈ schema.fields, field.Keeps P)
    (hblank : P schema.blank)
    (h : schema.parse text = .ok a) :
    ∃ record, P record ∧ schema.finish record = .ok a := by
  unfold parse parseWith readWhole at h
  split at h
  · cases h
  · next hread =>
      split at h
      · cases h
        exact keeps_read hkeeps hblank hread
      · cases h

end Schema

end

/-! ## Written records -/

/-- The comma in front of a member, unless it is the first one. -/
def comma (first : Bool) : Bytes := if first then [] else [0x2C]

/-- The member of an object with a key, up to its value. -/
def keyBytes (layout : Layout) (level : Nat) (first : Bool) (key : String) : Bytes :=
  comma first ++ (layout.lineBytes level ++ (0x22 :: (quotedTail key ++ (0x3A :: layout.gap))))

section

variable {layout : Layout} {level fuel levels : Nat}

theorem memberBytes_cons
    (key : String)
    (v : Value)
    (ms : Members) :
    memberBytes layout ((key, v) :: ms) level
      = keyBytes layout level false key
        ++ (valueBytes layout v level ++ memberBytes layout ms level) := by
  simp [memberBytes, keyBytes, comma]

theorem valueBytes_object
    (key : String)
    (v : Value)
    (ms : Members) :
    valueBytes layout (.object ((key, v) :: ms)) level
      = 0x7B :: (keyBytes layout (level + 1) true key ++ (valueBytes layout v (level + 1)
        ++ (memberBytes layout ms (level + 1) ++ (layout.lineBytes level ++ [0x7D])))) := by
  simp [valueBytes, keyBytes, comma]

/-- The text of an object is longer than each of its members. -/
theorem length_member_le_render
    (layout : Layout)
    {members : Members}
    {key : String}
    {v : Value}
    (hm : (key, v) ∈ members) :
    (quotedTail key).length + (valueBytes layout v 1).length
      ≤ ((Value.object members).render layout).length := by
  cases members with
  | nil => cases hm
  | cons first ms =>
      have hlength := length_member_le_memberBytes layout 1 hm
      rw [memberBytes_cons] at hlength
      rw [render_eq, valueBytes_object]
      simp only [Nat.zero_add, keyBytes, comma, List.length_cons, List.length_append] at hlength ⊢
      simp only [Bool.false_eq_true, if_false, if_true, List.length_singleton, List.length_nil]
        at hlength ⊢
      omega

/-- A string is read as it is written. -/
theorem readStringValue_written
    (wanted : String)
    {s : String}
    (hfuel : (quotedTail s).length ≤ fuel)
    (rest : Bytes) :
    readStringValue wanted fuel (layout.gap ++ (valueBytes layout (.text s) level ++ rest))
      = .ok (s, rest) := by
  have hquote : isBlankByte 0x22 = false := rfl
  rw [readStringValue, skipBlanks_append isBlankByte_of_mem_gap, valueBytes, List.cons_append,
    skipBlanks_cons hquote]
  exact readText_quotedTail hfuel rest

/-- A value at this level is read as it is written if it opens no more levels than it may. -/
theorem comes_readAny
    {v : Value}
    (hregular : v.IsRegular)
    (hints : v.HoldsIntegers)
    (hfuel : (valueBytes layout v level).length < fuel)
    {rest : Bytes}
    (hrest : EndsNumber rest) :
    Comes (readAny fuel levels (layout.gap ++ (valueBytes layout v level ++ rest)))
      (v.levels ≤ levels) v rest := by
  obtain ⟨fuel, rfl⟩ := Nat.exists_eq_add_one_of_ne_zero (Nat.ne_zero_of_lt hfuel)
  exact readsAt_readLevels _ hregular hints (Nat.le_of_lt hfuel) layout.gap rest
    isBlankByte_of_mem_gap hrest

/-- The field, reading a written value, takes the record under construction to another one. -/
def Field.Reads (layout : Layout) (level fuel levels : Nat) (field : Field ρ) (record : ρ)
    (v : Value) (record' : ρ) : Prop :=
  ∀ rest, EndsNumber rest →
    field.read record fuel levels (layout.gap ++ (valueBytes layout v level ++ rest))
      = .ok (record', rest)

namespace Schema

/-- The members of an object are read one after another, each by its field. -/
inductive Fills (schema : Schema ρ α) (layout : Layout) (level fuel levels : Nat) :
    ρ → Members → ρ → Prop
  | nil
      (record : ρ) :
      Fills schema layout level fuel levels record [] record
  | cons
      {record middle last : ρ}
      (field : Field ρ)
      {v : Value}
      {ms : Members}
      (hfield : schema.fields.find? (fun f => f.name == field.name) = some field)
      (hnew : field.isGiven record = false)
      (hkey : (quotedTail field.name).length ≤ fuel)
      (hread : field.Reads layout level fuel levels record v middle)
      (hrest : Fills schema layout level fuel levels middle ms last) :
      Fills schema layout level fuel levels record ((field.name, v) :: ms) last

variable {schema : Schema ρ α} {record record' : ρ} {field : Field ρ} {a : α}

theorem Fills.append
    {ms more : Members}
    {last : ρ}
    (h : schema.Fills layout level fuel levels record ms record')
    (hmore : schema.Fills layout level fuel levels record' more last) :
    schema.Fills layout level fuel levels record (ms ++ more) last := by
  induction h with
  | nil => exact hmore
  | cons field hfield hnew hkey hread _ ih => exact .cons field hfield hnew hkey hread (ih hmore)

/-- The key of a member leads to its field. -/
theorem readMembers_key
    (hfield : schema.fields.find? (fun f => f.name == field.name) = some field)
    (hnew : field.isGiven record = false)
    (hkey : (quotedTail field.name).length ≤ fuel)
    (rounds : Nat)
    (first : Bool)
    (text : Bytes) :
    schema.readMembers fuel levels (rounds + 1) first record
        (keyBytes layout level first field.name ++ text)
      = (field.read record fuel levels (layout.gap ++ text)).bind fun r =>
        schema.readMembers fuel levels rounds false r.1 r.2 := by
  have hnext : nextKey first (keyBytes layout level first field.name ++ text)
      = .ok (true, quotedTail field.name ++ (0x3A :: (layout.gap ++ text))) := by
    cases first with
    | true => simpa [keyBytes, comma] using nextKey_first
    | false => simpa [keyBytes, comma] using nextKey_later
  have hcolon : readColon (0x3A :: (layout.gap ++ text)) = .ok (layout.gap ++ text) := rfl
  rw [readMembers, hnext]
  simp only [readText_quotedTail hkey, hfield, hnew, Bool.false_eq_true, if_false, hcolon]
  cases field.read record fuel levels (layout.gap ++ text) <;> rfl

theorem readMembers_fills
    {ms : Members}
    (h : schema.Fills layout level fuel levels record ms record')
    (more : Members)
    (rounds outer : Nat)
    (rest : Bytes) :
    schema.readMembers fuel levels (ms.length + rounds) false record
        (memberBytes layout (ms ++ more) level ++ (layout.lineBytes outer ++ 0x7D :: rest))
      = schema.readMembers fuel levels rounds false record'
        (memberBytes layout more level ++ (layout.lineBytes outer ++ 0x7D :: rest)) := by
  induction h with
  | nil record => rw [List.length_nil, Nat.zero_add, List.nil_append]
  | @cons record middle last field v ms hfield hnew hkey hread _ ih =>
      have hvalue := hread _ (endsNumber_members layout (ms ++ more) level outer rest)
      rw [List.length_cons, Nat.add_right_comm, List.cons_append, memberBytes_cons,
        List.append_assoc, List.append_assoc, readMembers_key hfield hnew hkey, hvalue]
      exact ih

/-- The members of a written record are read one after another. -/
theorem readMembers_written
    {key : String}
    {v : Value}
    {ms : Members}
    (h : schema.Fills layout level fuel levels record ((key, v) :: ms) record')
    (more : Members)
    (rounds outer : Nat)
    (rest : Bytes) :
    schema.readMembers fuel levels (ms.length + 1 + rounds) true record
        (keyBytes layout level true key ++ (valueBytes layout v level
          ++ (memberBytes layout (ms ++ more) level ++ (layout.lineBytes outer ++ 0x7D :: rest))))
      = schema.readMembers fuel levels rounds false record'
        (memberBytes layout more level ++ (layout.lineBytes outer ++ 0x7D :: rest)) := by
  cases h with
  | cons _ hfield hnew hkey hread hrest =>
      have hvalue := hread _ (endsNumber_members layout (ms ++ more) level outer rest)
      rw [Nat.add_right_comm, readMembers_key hfield hnew hkey, hvalue]
      exact readMembers_fills hrest more rounds outer rest

theorem read_object
    (text : Bytes) :
    schema.read fuel (levels + 1) (0x7B :: text)
      = match schema.readMembers fuel levels fuel true schema.blank text with
        | .error fault => .error fault
        | .ok (record, rest) =>
            closeRecord closeObject skipBlanks (schema.finished schema.missing record) rest :=
  rfl

/-- There is a round for each member, and one more. -/
theorem exists_rounds
    (layout : Layout)
    (key : String)
    (v : Value)
    (ms more : Members) :
    ∃ rounds, ((Value.object ((key, v) :: (ms ++ more))).render layout).length + 1
      = ms.length + 1 + (rounds + 1) := by
  have hms := length_le_memberBytes layout 1 (ms ++ more)
  have hlength : ms.length + 1
      ≤ ((Value.object ((key, v) :: (ms ++ more))).render layout).length := by
    rw [render_eq, valueBytes_object]
    simp only [Nat.zero_add, List.length_cons, List.length_append] at hms ⊢
    omega
  obtain ⟨rounds, hrounds⟩ := Nat.exists_eq_add_of_le hlength
  exact ⟨rounds, by omega⟩

/-- A record is read from the members that are written for it. -/
theorem parse_render
    {key : String}
    {v : Value}
    {ms : Members}
    (h : schema.Fills layout 1 (((Value.object ((key, v) :: ms)).render layout).length + 1) 126
      schema.blank ((key, v) :: ms) record)
    (hfinish : schema.finish record = .ok a) :
    schema.parse ((Value.object ((key, v) :: ms)).render layout) = .ok a := by
  obtain ⟨rounds, hrounds⟩ := exists_rounds layout key v ms []
  rw [List.append_nil] at hrounds
  have hmembers := readMembers_written h [] (rounds + 1) 0 []
  rw [← hrounds, List.append_nil, memberBytes, List.nil_append] at hmembers
  have hend : schema.readMembers (((Value.object ((key, v) :: ms)).render layout).length + 1) 126
      (rounds + 1) false record (layout.lineBytes 0 ++ [0x7D]) = .ok (.ok record, [0x7D]) := by
    rw [readMembers, nextKey_end]
  have hread : schema.read (((Value.object ((key, v) :: ms)).render layout).length + 1) maxLevels
      ((Value.object ((key, v) :: ms)).render layout) = .ok (a, []) := by
    conv =>
      enter [1, 4]
      rw [render_eq, valueBytes_object]
    refine (read_object _).trans ?_
    rw [hmembers, hend]
    simp only [finished, hfinish]
    rfl
  simp only [parse, parseWith, readWhole, hread]
  rfl

/-- A record is refused where a member opens too many levels. -/
theorem parse_render_tooDeep
    {key : String}
    {v w : Value}
    {members ms more : Members}
    (h : schema.Fills layout 1 (((Value.object members).render layout).length + 1) 126
      schema.blank ((key, v) :: ms) record)
    (hmembers : members = (key, v) :: (ms ++ (field.name, w) :: more))
    (hfield : schema.fields.find? (fun f => f.name == field.name) = some field)
    (hnew : field.isGiven record = false)
    (hdeep : ∀ fuel rest, (valueBytes layout w 1).length < fuel → EndsNumber rest →
      ∃ unread, field.read record fuel 126 (layout.gap ++ (valueBytes layout w 1 ++ rest))
        = .error ⟨.tooDeep, unread⟩) :
    ∃ e, schema.parse ((Value.object members).render layout) = .error e
      ∧ e.cause = .tooDeep := by
  obtain ⟨rounds, hrounds⟩ := exists_rounds layout key v ms ((field.name, w) :: more)
  have hlength := length_member_le_render layout
    (show (field.name, w) ∈ (key, v) :: (ms ++ (field.name, w) :: more) by simp)
  rw [← hmembers] at hrounds hlength
  have hread := readMembers_written h ((field.name, w) :: more) (rounds + 1) 0 []
  rw [← hrounds] at hread
  obtain ⟨unread, hfault⟩ := hdeep (((Value.object members).render layout).length + 1) _
    (by omega) (endsNumber_members layout more 1 0 [])
  have hrefused : schema.read (((Value.object members).render layout).length + 1) maxLevels
      ((Value.object members).render layout) = .error ⟨.tooDeep, unread⟩ := by
    conv =>
      enter [1, 4]
      rw [render_eq, hmembers, valueBytes_object]
    refine (read_object _).trans ?_
    rw [hread, memberBytes_cons, List.append_assoc, List.append_assoc,
      readMembers_key hfield hnew (by omega), hfault]
    rfl
  simp only [parse, parseWith, readWhole, hrefused]
  exact ⟨_, rfl, rfl⟩

end Schema

end

end Json
end LiveNotebooks
