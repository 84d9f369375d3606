import LiveNotebooks.Proofs.Json.Passage

/-!
# Records with a field left out

One record has the fields of another one, except for one.  It is read from every object that the
other one is read from, since it passes over the value of the field that it lacks, wherever this
stands.  It is also read from an object that the other one is written as, even if this cannot be
read because of the value that is passed over.

**Invariant.**  Behind each member the record under construction is the one of the wider schema,
with the field forgotten.

**Results.**
* `Schema.LeavesOut.takesMember`: what one record takes, the other one takes or passes over.
* `Schema.LeavesOut.parse`: an object that one record is read from gives the other one.
* `Schema.parse_render_around`: a written object with one member that belongs to no field.
* `exists_render_without`: what a member that is left out takes with it from the text.
-/

namespace LiveNotebooks
namespace Json

variable {ρ α β : Type}

/-! ## Fields -/

/-- Reading the field adds nothing to the text. -/
def Field.Advances (field : Field ρ) : Prop :=
  ∀ record fuel levels text record' rest, text.length < fuel →
    field.read record fuel levels text = .ok (record', rest) → rest.length ≤ text.length

/-- The field does not care for what is forgotten. -/
structure Field.IsKept (forget : ρ → ρ) (field : Field ρ) : Prop where
  isGiven : ∀ record, field.isGiven (forget record) = field.isGiven record
  read : ∀ record fuel levels text record' rest,
    field.read record fuel levels text = .ok (record', rest) →
      field.read (forget record) fuel levels text = .ok (forget record', rest)

/-- What the field reads is forgotten, and can be passed over. -/
def Field.IsForgotten (forget : ρ → ρ) (field : Field ρ) : Prop :=
  ∀ record fuel levels text record' rest, text.length < fuel →
    field.read record fuel levels text = .ok (record', rest) →
      forget record' = forget record ∧ skipValue fuel text = .ok rest

namespace Schema

/-- The narrow schema has all fields of the wide one but those of a name. -/
structure LeavesOut (narrow : Schema ρ β) (wide : Schema ρ α) (name : String) (forget : ρ → ρ) :
    Prop where
  fields : narrow.fields = wide.fields.filter fun f => f.name != name
  blank : forget wide.blank = narrow.blank
  advances : ∀ field ∈ wide.fields, field.Advances
  kept : ∀ field ∈ narrow.fields, field.IsKept forget
  forgotten : ∀ field ∈ wide.fields, field.name = name → field.IsForgotten forget

/-! ## Reading -/

section

variable {narrow : Schema ρ β} {wide : Schema ρ α} {name key : String} {forget : ρ → ρ}
  {record record' : ρ} {fuel levels : Nat} {text rest : Bytes} {a : α}

theorem LeavesOut.find?_self
    (h : LeavesOut narrow wide name forget) :
    narrow.fields.find? (fun f => f.name == name) = none := by
  rw [h.fields, List.find?_filter, List.find?_eq_none]
  simp

theorem LeavesOut.find?_of_ne
    (h : LeavesOut narrow wide name forget)
    (hne : key ≠ name) :
    narrow.fields.find? (fun f => f.name == key) = wide.fields.find? (fun f => f.name == key) := by
  rw [h.fields, List.find?_filter]
  congr 1
  funext f
  by_cases hkey : f.name = key
  · simp [hkey, hne]
  · simp [hkey]

theorem length_lt_of_nextKey
    {first : Bool}
    (h : nextKey first text = .ok (true, rest)) :
    rest.length < text.length := by
  obtain ⟨next, hnext, hquote⟩ := nextKey_eq_true_iff.1 h
  exact Nat.lt_of_lt_of_le (length_tail_lt hquote) hnext.length_le

theorem LeavesOut.length_le_of_takesMember
    (h : LeavesOut narrow wide name forget)
    (hfuel : text.length < fuel)
    (htakes : wide.TakesMember fuel levels key record text record' rest) :
    rest.length ≤ text.length := by
  cases htakes with
  | field hfield _ hread =>
      exact h.advances _ (List.mem_of_find?_eq_some hfield) _ _ _ _ _ _ hfuel hread
  | other _ hskip => exact length_le_of_skipValue hskip

/-- What the wide record takes, the narrow one takes or passes over. -/
theorem LeavesOut.takesMember
    (h : LeavesOut narrow wide name forget)
    (hfuel : text.length < fuel)
    (htakes : wide.TakesMember fuel levels key record text record' rest) :
    narrow.TakesMember fuel levels key (forget record) text (forget record') rest := by
  cases htakes with
  | @field _ _ _ field hfield hnew hread =>
      by_cases hkey : key = name
      · subst hkey
        have hname : field.name = key := by simpa using List.find?_some hfield
        obtain ⟨hforget, hskip⟩ := h.forgotten field (List.mem_of_find?_eq_some hfield) hname
          _ _ _ _ _ _ hfuel hread
        rw [hforget]
        exact .other h.find?_self hskip
      · have hfound := (h.find?_of_ne hkey).trans hfield
        have hkept := h.kept field (List.mem_of_find?_eq_some hfound)
        exact .field hfound ((hkept.isGiven record).trans hnew) (hkept.read _ _ _ _ _ _ hread)
  | other hnone hskip =>
      refine .other ?_ hskip
      by_cases hkey : key = name
      · rw [hkey, h.find?_self]
      · rw [h.find?_of_ne hkey, hnone]

/-- The narrow record is read from the members that the wide one is read from. -/
theorem LeavesOut.readMembers
    (h : LeavesOut narrow wide name forget)
    {rounds : Nat}
    {first : Bool}
    (hfuel : text.length < fuel)
    (hread : wide.readMembers fuel levels rounds first record text = .ok (.ok record', rest)) :
    narrow.readMembers fuel levels rounds first (forget record) text
      = .ok (.ok (forget record'), rest) := by
  induction rounds generalizing first record text with
  | zero => cases hread
  | succ rounds ih =>
      rw [readMembers_succ_eq_ok_iff] at hread ⊢
      rcases hread with ⟨hnext, rfl⟩ | ⟨tail, key, mid, after, middle, behind, hnext, hkey, hcolon,
        htakes, hread⟩
      · exact .inl ⟨hnext, rfl⟩
      · have htail := length_lt_of_nextKey hnext
        have hmid := length_lt_of_readText hkey
        have hafter := length_tail_lt (readColon_eq_ok_iff.1 hcolon)
        have hshort : after.length < fuel := by omega
        have hbehind := h.length_le_of_takesMember hshort htakes
        exact .inr ⟨tail, key, mid, after, forget middle, behind, hnext, hkey, hcolon,
          h.takesMember hshort htakes, ih (by omega) hread⟩

/-- **A record with a field left out is read from every object that the record is read from.** -/
theorem LeavesOut.parse
    (h : LeavesOut narrow wide name forget)
    {tail : Bytes}
    (hskip : skipBlanks text = 0x7B :: tail)
    (hparse : wide.parse text = .ok a) :
    ∃ record, wide.finish record = .ok a
      ∧ ∀ b, narrow.finish (forget record) = .ok b → narrow.parse text = .ok b := by
  obtain ⟨record, mid, rest, hmembers, hfinish, hmid, hrest⟩ :=
    (parse_eq_ok_iff_of_object hskip).1 hparse
  have hlength := length_tail_lt hskip
  have hnarrow := h.readMembers (by omega) hmembers
  rw [h.blank] at hnarrow
  exact ⟨record, hfinish, fun b hb =>
    (parse_eq_ok_iff_of_object hskip).2 ⟨forget record, mid, rest, hnarrow, hb, hmid, hrest⟩⟩

end

end Schema

/-! ## Writing -/

theorem memberBytes_append
    (layout : Layout)
    (level : Nat)
    (ms more : Members) :
    memberBytes layout (ms ++ more) level
      = memberBytes layout ms level ++ memberBytes layout more level := by
  induction ms with
  | nil => rfl
  | cons m ms ih =>
      obtain ⟨key, v⟩ := m
      rw [List.cons_append, memberBytes_cons, memberBytes_cons, ih, List.append_assoc,
        List.append_assoc]

/-- The object without the members that have this key. -/
def Value.without (key : String) : Value → Value
  | .object members => .object (members.filter fun m => m.1 ≠ key)
  | v => v

/-- A member that is left out takes its own text with it, and leaves all others as they are. -/
theorem exists_render_without
    {key other : String}
    {v w : Value}
    (ms more : Members)
    (hnew : other ∉ ((key, v) :: (ms ++ more)).map Prod.fst)
    (layout : Layout) :
    ∃ front back,
      (Value.object ((key, v) :: (ms ++ (other, w) :: more))).render layout
          = front ++ (memberBytes layout [(other, w)] 1 ++ back)
        ∧ ((Value.object ((key, v) :: (ms ++ (other, w) :: more))).without other).render layout
          = front ++ back := by
  have hfilter : ∀ {members : Members}, other ∉ members.map Prod.fst →
      (members.filter fun m => m.1 ≠ other) = members := by
    intro members hnew
    refine List.filter_eq_self.2 fun m hm => ?_
    simpa using fun he => hnew (List.mem_map.2 ⟨m, hm, he⟩)
  have hwithout : (Value.object ((key, v) :: (ms ++ (other, w) :: more))).without other
      = .object ((key, v) :: (ms ++ more)) := by
    simp only [List.map_cons, List.map_append, List.mem_cons, List.mem_append, not_or] at hnew
    obtain ⟨hfirst, hms, hmore⟩ := hnew
    rw [Value.without, List.filter_cons_of_pos (by simpa using Ne.symm hfirst), List.filter_append,
      List.filter_cons_of_neg (by simp), hfilter hms, hfilter hmore]
  refine ⟨0x7B :: (keyBytes layout 1 true key ++ (valueBytes layout v 1
    ++ memberBytes layout ms 1)), memberBytes layout more 1 ++ (layout.lineBytes 0 ++ [0x7D]),
    ?_, ?_⟩
  · have hother := memberBytes_append layout 1 [(other, w)] more
    rw [List.singleton_append] at hother
    rw [render_eq, valueBytes_object, memberBytes_append, hother]
    simp only [List.append_assoc, List.cons_append]
  · rw [hwithout, render_eq, valueBytes_object, memberBytes_append]
    simp only [List.append_assoc, List.cons_append]

namespace Schema

section

variable {schema : Schema ρ α} {layout : Layout} {level fuel levels : Nat} {record : ρ}

/-- A member that belongs to no field is passed over. -/
theorem readMembers_passed
    {key : String}
    (hnone : schema.fields.find? (fun f => f.name == key) = none)
    (hkey : (quotedTail key).length ≤ fuel)
    {v : Value}
    {rest : Bytes}
    (hrest : EndsNumber rest)
    (hfuel : (layout.gap ++ (valueBytes layout v level ++ rest)).length < fuel)
    (rounds : Nat) :
    schema.readMembers fuel levels (rounds + 1) false record
        (keyBytes layout level false key ++ (valueBytes layout v level ++ rest))
      = schema.readMembers fuel levels rounds false record rest := by
  have hnext :
      nextKey false (keyBytes layout level false key ++ (valueBytes layout v level ++ rest))
        = .ok (true, quotedTail key
          ++ (0x3A :: (layout.gap ++ (valueBytes layout v level ++ rest)))) := by
    simpa [keyBytes, comma] using nextKey_later
  have hcolon : readColon (0x3A :: (layout.gap ++ (valueBytes layout v level ++ rest)))
      = .ok (layout.gap ++ (valueBytes layout v level ++ rest)) := rfl
  have hskip := skipValue_of_passes
    (stands_passed layout v level layout.gap rest isBlankByte_of_mem_gap hrest) hfuel
  rw [readMembers, hnext]
  simp only [readText_quotedTail hkey, hnone, hcolon, Except.bind, hskip]

/-- The members behind it are read as if it were not there. -/
theorem readMembers_around
    {key other : String}
    {v w : Value}
    {ms more : Members}
    {middle : ρ}
    (h : schema.Fills layout level fuel levels record ((key, v) :: ms) middle)
    (hnone : schema.fields.find? (fun f => f.name == other) = none)
    (hother : (quotedTail other).length ≤ fuel)
    {last : ρ}
    (hmore : schema.Fills layout level fuel levels middle more last)
    (outer : Nat)
    (rest : Bytes)
    (hfuel : (layout.gap ++ (valueBytes layout w level ++ (memberBytes layout more level
      ++ (layout.lineBytes outer ++ 0x7D :: rest)))).length < fuel)
    (rounds : Nat) :
    schema.readMembers fuel levels (ms.length + 1 + (more.length + (rounds + 1) + 1)) true record
        (keyBytes layout level true key ++ (valueBytes layout v level
          ++ (memberBytes layout (ms ++ (other, w) :: more) level
            ++ (layout.lineBytes outer ++ 0x7D :: rest))))
      = .ok (.ok last, 0x7D :: rest) := by
  have hend := endsNumber_members layout more level outer rest
  have hbehind := readMembers_fills hmore [] (rounds + 1) outer rest
  rw [List.append_nil, memberBytes, List.nil_append] at hbehind
  rw [readMembers_written h, memberBytes_cons, List.append_assoc, List.append_assoc,
    readMembers_passed hnone hother hend hfuel, hbehind, readMembers, nextKey_end]

/-- A record is read from an object in which one member belongs to no field, whatever it holds. -/
theorem parse_render_around
    {key other : String}
    {v w : Value}
    {members ms more : Members}
    {middle : ρ}
    {a : α}
    (h : schema.Fills layout 1 (((Value.object members).render layout).length + 1) (maxLevels - 1)
      schema.blank ((key, v) :: ms) middle)
    (hnone : schema.fields.find? (fun f => f.name == other) = none)
    (hmore : schema.Fills layout 1 (((Value.object members).render layout).length + 1)
      (maxLevels - 1) middle more record)
    (hmembers : members = (key, v) :: (ms ++ (other, w) :: more))
    (hfinish : schema.finish record = .ok a) :
    schema.parse ((Value.object members).render layout) = .ok a := by
  obtain ⟨rounds, hrounds⟩ := exists_rounds layout key v (ms ++ (other, w) :: more) []
  rw [List.append_nil, ← hmembers, List.length_append, List.length_cons] at hrounds
  have htext : (Value.object members).render layout
      = 0x7B :: (keyBytes layout 1 true key ++ (valueBytes layout v 1
        ++ (memberBytes layout (ms ++ (other, w) :: more) 1
          ++ (layout.lineBytes 0 ++ [0x7D])))) := by
    rw [hmembers, render_eq, valueBytes_object]
  have hlength := congrArg List.length htext
  simp only [memberBytes_append, memberBytes_cons, keyBytes, comma, List.length_cons,
    List.length_append] at hlength
  have hread := readMembers_around h hnone (w := w) (by omega) hmore 0 []
    (by simp only [List.length_append, List.length_cons]; omega) rounds
  have hsame : ((Value.object members).render layout).length + 1
      = ms.length + 1 + (more.length + (rounds + 1) + 1) := by
    omega
  rw [← hsame] at hread
  refine (parse_eq_ok_iff_of_object (by rw [htext]; rfl)).2
    ⟨record, [0x7D], [], hread, hfinish, rfl, rfl⟩

end

end Schema

end Json
end LiveNotebooks
