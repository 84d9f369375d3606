import LiveNotebooks.Json.Reader
import LiveNotebooks.Proofs.Json.Literals

/-!
# The shape of values and of their texts

A value is written as one list of bytes, in either layout.  What its text asks of a reader is
told by three properties of the value: how many levels it opens, whether its keys are such as
a reader gives them, and whether its numbers are integers.

**Results.**
* `render_eq`: the text of a value as a function of its parts.
* `levels_array_le_iff`, `levels_object_le_iff`: the levels of a value are those of its parts
  and one more.
-/

namespace LiveNotebooks
namespace Json

/-! ## Texts -/

/-- The line that begins at the given level, in front of what stands on it. -/
def Layout.lineBytes : Layout → Nat → Bytes
  | .compact, _ => []
  | .indented, level => 0x0A :: List.replicate (2 * level) 0x20

/-- The blanks behind a colon. -/
def Layout.gap : Layout → Bytes
  | .compact => []
  | .indented => [0x20]

mutual

/-- A value as it is written at the given level. -/
def valueBytes (layout : Layout) : Value → Nat → Bytes
  | .null, _ => 0x6E :: nullTail
  | .boolean true, _ => 0x74 :: trueTail
  | .boolean false, _ => 0x66 :: falseTail
  | .number n, _ => Utf8.encode n.render
  | .text s, _ => 0x22 :: quotedTail s
  | .array [], _ => [0x5B, 0x5D]
  | .array (v :: vs), level =>
      0x5B :: (layout.lineBytes (level + 1) ++ (valueBytes layout v (level + 1)
        ++ (itemBytes layout vs (level + 1) ++ (layout.lineBytes level ++ [0x5D]))))
  | .object [], _ => [0x7B, 0x7D]
  | .object ((k, v) :: ms), level =>
      0x7B :: (layout.lineBytes (level + 1) ++ (0x22 :: (quotedTail k
        ++ (0x3A :: (layout.gap ++ (valueBytes layout v (level + 1)
          ++ (memberBytes layout ms (level + 1) ++ (layout.lineBytes level ++ [0x7D]))))))))

/-- The items behind the first. -/
def itemBytes (layout : Layout) : List Value → Nat → Bytes
  | [], _ => []
  | v :: vs, level =>
      0x2C :: (layout.lineBytes level ++ (valueBytes layout v level ++ itemBytes layout vs level))

/-- The members behind the first. -/
def memberBytes (layout : Layout) : Members → Nat → Bytes
  | [], _ => []
  | (k, v) :: ms, level =>
      0x2C :: (layout.lineBytes level ++ (0x22 :: (quotedTail k
        ++ (0x3A :: (layout.gap ++ (valueBytes layout v level ++ memberBytes layout ms level))))))

end

@[simp] theorem toBytes_line
    (layout : Layout)
    (level : Nat)
    (out : Output) :
    (layout.line level out).toBytes = out.toBytes ++ layout.lineBytes level := by
  cases layout <;> simp [Layout.line, Layout.lineBytes]

@[simp] theorem toBytes_colon
    (layout : Layout)
    (out : Output) :
    (layout.colon out).toBytes = out.toBytes ++ 0x3A :: layout.gap := by
  cases layout <;> simp [Layout.colon, Layout.gap]

mutual

/-- A value is written behind what is there. -/
theorem toBytes_writeValue
    (layout : Layout) :
    ∀ (v : Value) (level : Nat) (out : Output),
      (writeValue layout v level out).toBytes = out.toBytes ++ valueBytes layout v level
  | .null, _, out | .boolean true, _, out | .boolean false, _, out => by
      simp [writeValue, valueBytes, nullTail, trueTail, falseTail]
  | .number n, _, out => by
      simp [writeValue, valueBytes]
  | .text s, _, out => by
      simp [writeValue, valueBytes, toBytes_writeText]
  | .array [], _, out | .object [], _, out => by
      simp [writeValue, valueBytes]
  | .array (v :: vs), level, out => by
      simp [writeValue, valueBytes, toBytes_writeValue layout v, toBytes_writeItems layout vs]
  | .object ((k, v) :: ms), level, out => by
      simp [writeValue, valueBytes, toBytes_writeText, toBytes_writeValue layout v,
        toBytes_writeMembers layout ms]

theorem toBytes_writeItems
    (layout : Layout) :
    ∀ (vs : List Value) (level : Nat) (out : Output),
      (writeItems layout vs level out).toBytes = out.toBytes ++ itemBytes layout vs level
  | [], _, out => by
      simp [writeItems, itemBytes]
  | v :: vs, level, out => by
      simp [writeItems, itemBytes, toBytes_writeValue layout v, toBytes_writeItems layout vs]

theorem toBytes_writeMembers
    (layout : Layout) :
    ∀ (ms : Members) (level : Nat) (out : Output),
      (writeMembers layout ms level out).toBytes = out.toBytes ++ memberBytes layout ms level
  | [], _, out => by
      simp [writeMembers, memberBytes]
  | (k, v) :: ms, level, out => by
      simp [writeMembers, memberBytes, toBytes_writeText, toBytes_writeValue layout v,
        toBytes_writeMembers layout ms]

end

theorem render_eq
    (v : Value)
    (layout : Layout) :
    v.render layout = valueBytes layout v 0 := by
  simp [Value.render, toBytes_writeValue]

section

variable (layout : Layout) (level : Nat)

theorem length_le_itemBytes
    (vs : List Value) :
    vs.length ≤ (itemBytes layout vs level).length := by
  induction vs with
  | nil => exact Nat.zero_le _
  | cons v vs ih =>
      simp only [itemBytes, List.length_cons, List.length_append]
      omega

/-- The text of an item is no longer than that of the list. -/
theorem length_valueBytes_le_itemBytes
    {v : Value}
    {vs : List Value}
    (h : v ∈ vs) :
    (valueBytes layout v level).length ≤ (itemBytes layout vs level).length := by
  induction vs with
  | nil => cases h
  | cons w vs ih =>
      simp only [itemBytes, List.length_cons, List.length_append]
      rcases List.mem_cons.1 h with rfl | h
      · omega
      · have hlater := ih h
        omega

theorem length_le_memberBytes
    (ms : Members) :
    ms.length ≤ (memberBytes layout ms level).length := by
  induction ms with
  | nil => exact Nat.zero_le _
  | cons m ms ih =>
      simp only [memberBytes, List.length_cons, List.length_append]
      omega

/-- The text of a member is no longer than that of the object. -/
theorem length_member_le_memberBytes
    {m : String × Value}
    {ms : Members}
    (h : m ∈ ms) :
    (quotedTail m.1).length + (valueBytes layout m.2 level).length
      ≤ (memberBytes layout ms level).length := by
  induction ms with
  | nil => cases h
  | cons o ms ih =>
      simp only [memberBytes, List.length_cons, List.length_append]
      rcases List.mem_cons.1 h with rfl | h
      · omega
      · have hlater := ih h
        omega

end

/-! ## Levels -/

mutual

/-- The number of levels that the text of a value opens. -/
def Value.levels : Value → Nat
  | .array items => itemLevels items + 1
  | .object members => memberLevels members + 1
  | _ => 0

/-- The number of levels that the items open. -/
def itemLevels : List Value → Nat
  | [] => 0
  | v :: vs => max v.levels (itemLevels vs)

/-- The number of levels that the members open. -/
def memberLevels : Members → Nat
  | [] => 0
  | (_, v) :: ms => max v.levels (memberLevels ms)

end

theorem levels_array_le_iff
    {items : List Value}
    {n : Nat} :
    (Value.array items).levels ≤ n + 1 ↔ ∀ v ∈ items, v.levels ≤ n := by
  rw [Value.levels, Nat.add_le_add_iff_right]
  induction items with
  | nil => simp [itemLevels]
  | cons v vs ih => rw [itemLevels, Nat.max_le, ih, List.forall_mem_cons]

theorem levels_object_le_iff
    {members : Members}
    {n : Nat} :
    (Value.object members).levels ≤ n + 1 ↔ ∀ m ∈ members, m.2.levels ≤ n := by
  rw [Value.levels, Nat.add_le_add_iff_right]
  induction members with
  | nil => simp [memberLevels]
  | cons m ms ih => rw [memberLevels, Nat.max_le, ih, List.forall_mem_cons]

/-! ## Keys and numbers -/

/-- The keys of every object differ, and the first one does not stand for an embedded text. -/
inductive Value.IsRegular : Value → Prop
  | null : IsRegular .null
  | boolean
      (b : Bool) :
      IsRegular (.boolean b)
  | number
      (n : Number) :
      IsRegular (.number n)
  | text
      (s : String) :
      IsRegular (.text s)
  | array
      {items : List Value}
      (hitems : ∀ v ∈ items, v.IsRegular) :
      IsRegular (.array items)
  | object
      {members : Members}
      (hkeys : (members.map Prod.fst).Nodup)
      (hfirst : (members.map Prod.fst).head? ≠ some embeddingKey)
      (hmembers : ∀ m ∈ members, m.2.IsRegular) :
      IsRegular (.object members)

/-- Every number in the value is an integer. -/
inductive Value.HoldsIntegers : Value → Prop
  | null : HoldsIntegers .null
  | boolean
      (b : Bool) :
      HoldsIntegers (.boolean b)
  | number
      {n : Int}
      (hn : IsInteger n) :
      HoldsIntegers (.number (.integer n))
  | text
      (s : String) :
      HoldsIntegers (.text s)
  | array
      {items : List Value}
      (hitems : ∀ v ∈ items, v.HoldsIntegers) :
      HoldsIntegers (.array items)
  | object
      {members : Members}
      (hmembers : ∀ m ∈ members, m.2.HoldsIntegers) :
      HoldsIntegers (.object members)

end Json
end LiveNotebooks
