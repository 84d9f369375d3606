import LiveNotebooks.ErrorPage
import LiveNotebooks.Proofs.Json.Shape

/-!
# What a reader gives is regular

A repeated key takes the place of the first one, and an object whose first key stands for an
embedded text is never given, so every value that is read is regular.

**Induction.**  Over the fuel, which grows by one from an embedded text to the text around it,
and inside over the levels.

**Results.**
* `isRegular_of_parse`: values that were read are regular.
* `isRegular_contents`: so are the contents that show an error.
-/

namespace LiveNotebooks
namespace Json

/-! ## Members -/

/-- A new key is added in front, and a known one stays where it is. -/
theorem keys_addMember
    (members : Members)
    (key : String)
    (v : Value) :
    (addMember members key v).map Prod.fst
      = if key ∈ members.map Prod.fst then members.map Prod.fst
        else key :: members.map Prod.fst := by
  have hany : members.any (fun m => m.1 == key) = true ↔ key ∈ members.map Prod.fst := by
    simp
  unfold addMember
  by_cases hkey : key ∈ members.map Prod.fst
  · rw [if_pos (hany.2 hkey), if_pos hkey, List.map_map]
    refine List.map_congr_left fun m hm => ?_
    simp only [Function.comp_apply]
    split <;> rfl
  · rw [if_neg (mt hany.1 hkey), if_neg hkey]
    rfl

/-- A member that is there was there before, or it has the new value. -/
theorem mem_addMember
    {members : Members}
    {key : String}
    {v : Value}
    {m : String × Value}
    (h : m ∈ addMember members key v) :
    m ∈ members ∨ m.2 = v := by
  unfold addMember at h
  split at h
  · obtain ⟨o, ho, rfl⟩ := List.mem_map.1 h
    split
    · exact .inr rfl
    · exact .inl ho
  · rcases List.mem_cons.1 h with rfl | h
    · exact .inr rfl
    · exact .inl h

/-- Members, the latest first, that make up a regular object when they are turned round. -/
structure IsOpen (members : Members) : Prop where
  nonempty : members ≠ []
  nodup : (members.map Prod.fst).Nodup
  first : (members.map Prod.fst).getLast? ≠ some embeddingKey
  values : ∀ m ∈ members, m.2.IsRegular

theorem IsOpen.isRegular
    {members : Members}
    (h : IsOpen members) :
    (Value.object members.reverse).IsRegular := by
  refine .object ?_ ?_ fun m hm => h.values m (List.mem_reverse.1 hm)
  · rw [List.map_reverse]
    exact List.pairwise_reverse.2 (h.nodup.imp Ne.symm)
  · rw [List.map_reverse, List.head?_reverse]
    exact h.first

/-- One more regular member leaves the members regular. -/
theorem IsOpen.addMember
    {members : Members}
    {v : Value}
    (h : IsOpen members)
    (hv : v.IsRegular)
    (key : String) :
    IsOpen (addMember members key v) := by
  have hkeys := keys_addMember members key v
  have hsome : members.map Prod.fst ≠ [] := fun hnil => h.nonempty (List.map_eq_nil_iff.1 hnil)
  refine ⟨fun hnil => ?_, ?_, ?_, fun m hm => ?_⟩
  · rw [hnil, List.map_nil] at hkeys
    split at hkeys
    · exact hsome hkeys.symm
    · cases hkeys
  · rw [hkeys]
    split
    · exact h.nodup
    · next hnew => exact List.nodup_cons.2 ⟨hnew, h.nodup⟩
  · rw [hkeys]
    split
    · exact h.first
    · rw [List.getLast?_cons_of_ne_nil hsome]
      exact h.first
  · rcases mem_addMember hm with hm | rfl
    · exact h.values m hm
    · exact hv

theorem isOpen_singleton
    {key : String}
    {v : Value}
    (hkey : key ≠ embeddingKey)
    (hv : v.IsRegular) :
    IsOpen [(key, v)] :=
  ⟨List.cons_ne_nil _ _, by simp, by simpa using hkey, List.forall_mem_singleton.2 hv⟩

/-! ## Readers -/

/-- What the reading gives is regular. -/
def GivesRegular (reading : Reading Value) : Prop :=
  ∀ v rest, reading = .ok (v, rest) → v.IsRegular

section

variable {reader : Bytes → Reading Value}

theorem givesRegular_error
    (fault : Fault) :
    GivesRegular (.error fault) := by
  intro v rest hread
  cases hread

theorem givesRegular_map
    {α : Type}
    {value : α → Value × Bytes}
    (h : ∀ a, (value a).1.IsRegular)
    (read : Except Fault α) :
    GivesRegular (read.map value) := by
  intro v rest hread
  cases read with
  | error fault => cases hread
  | ok a =>
      have hvalue : value a = (v, rest) := Except.ok.inj hread
      have hv := h a
      rwa [hvalue] at hv

/-- The items of a list are regular if each of them is. -/
theorem givesRegular_readItems
    (hreader : ∀ text, GivesRegular (reader text))
    (rounds : Nat)
    (first : Bool)
    {items : List Value}
    (hitems : ∀ v ∈ items, v.IsRegular)
    (text : Bytes) :
    GivesRegular (readItems reader rounds first items text) := by
  induction rounds generalizing first items text with
  | zero => exact givesRegular_error _
  | succ rounds ih =>
      rw [readItems]
      split
      · exact givesRegular_error _
      · exact givesRegular_map (fun _ => .array fun v hv => hitems v (List.mem_reverse.1 hv)) _
      · split
        · exact givesRegular_error _
        · next hread =>
            refine ih false (fun w hw => ?_) _
            rcases List.mem_cons.1 hw with rfl | hw
            · exact hreader _ _ _ hread
            · exact hitems w hw

/-- The value of a member is regular if values are. -/
theorem givesRegular_readMemberValue
    (hreader : ∀ text, GivesRegular (reader text))
    (text : Bytes) :
    GivesRegular (readMemberValue reader text) := by
  intro v rest hread
  unfold readMemberValue at hread
  cases hcolon : readColon text with
  | error fault =>
      rw [hcolon] at hread
      cases hread
  | ok after =>
      rw [hcolon] at hread
      exact hreader after v rest hread

/-- The members of an object are regular if their values are. -/
theorem givesRegular_readMembers
    (hreader : ∀ text, GivesRegular (reader text))
    (keyFuel rounds : Nat)
    {members : Members}
    (hmembers : IsOpen members)
    (text : Bytes) :
    GivesRegular (readMembers reader keyFuel rounds members text) := by
  induction rounds generalizing members text with
  | zero => exact givesRegular_error _
  | succ rounds ih =>
      rw [readMembers]
      split
      · exact givesRegular_error _
      · exact givesRegular_map (fun _ => hmembers.isRegular) _
      · split
        · exact givesRegular_error _
        · split
          · exact givesRegular_error _
          · next hread =>
              exact ih (hmembers.addMember (givesRegular_readMemberValue hreader _ _ _ hread) _) _

theorem givesRegular_readEmbedded
    {whole : Bytes → Except Error Value}
    (hwhole : ∀ text v, whole text = .ok v → v.IsRegular)
    (fuel : Nat)
    (text : Bytes) :
    GivesRegular (readEmbedded whole fuel text) := by
  unfold readEmbedded
  split
  · exact givesRegular_error _
  · split
    · exact givesRegular_error _
    · next hread => exact givesRegular_map (fun _ => hwhole _ _ hread) _

/-- An object is regular, be it read from its members or from an embedded text. -/
theorem givesRegular_readObject
    {readers : PartReaders}
    (hpart : ∀ text, GivesRegular (readers.part text))
    (hembedded : ∀ text v, readers.embedded text = .ok v → v.IsRegular)
    (fuel : Nat)
    (text : Bytes) :
    GivesRegular (readObject readers fuel text) := by
  unfold readObject
  split
  · exact givesRegular_error _
  · exact givesRegular_map (fun _ => .object (by simp) (by simp) (by simp)) _
  · split
    · exact givesRegular_error _
    · split
      · exact givesRegular_readEmbedded hembedded fuel _
      · next hkey =>
          split
          · exact givesRegular_error _
          · next hread =>
              have hv := givesRegular_readMemberValue hpart _ _ _ hread
              exact givesRegular_readMembers hpart fuel fuel (isOpen_singleton hkey hv) _

/-- A value is regular if its parts are. -/
theorem givesRegular_readValueWith
    {readers : Option PartReaders}
    (hpart : ∀ r ∈ readers, ∀ text, GivesRegular (r.part text))
    (hembedded : ∀ r ∈ readers, ∀ text v, r.embedded text = .ok v → v.IsRegular)
    (fuel : Nat)
    (text : Bytes) :
    GivesRegular (readValueWith fuel readers text) := by
  unfold readValueWith
  split
  · exact givesRegular_error _
  · split
    · exact givesRegular_map (fun _ => .null) _
    · split
      · exact givesRegular_map (fun _ => .boolean true) _
      · split
        · exact givesRegular_map (fun _ => .boolean false) _
        · split
          · exact givesRegular_map (fun _ => .number _) _
          · split
            · exact givesRegular_map (fun _ => .text _) _
            · split
              · split
                · exact givesRegular_error _
                · exact givesRegular_readItems (hpart _ rfl) fuel true (by simp) _
              · split
                · split
                  · exact givesRegular_error _
                  · exact givesRegular_readObject (hpart _ rfl) (hembedded _ rfl) fuel _
                · exact givesRegular_error _

/-- Values are regular at every level. -/
theorem givesRegular_readLevels
    {embedded : Bytes → Except Error Value}
    (hembedded : ∀ text v, embedded text = .ok v → v.IsRegular)
    (fuel levels : Nat)
    (text : Bytes) :
    GivesRegular (readLevels embedded fuel levels text) := by
  induction levels generalizing text with
  | zero => exact givesRegular_readValueWith (by simp) (by simp) fuel text
  | succ levels ih =>
      refine givesRegular_readValueWith ?_ ?_ fuel text
      · intro r hr
        cases hr
        exact ih
      · intro r hr
        cases hr
        exact hembedded

end

/-- What is read from a whole text is regular. -/
theorem isRegular_of_readWhole
    {reader : Bytes → Reading Value}
    (hreader : ∀ text, GivesRegular (reader text))
    {text : Bytes}
    {v : Value}
    (h : readWhole reader text = .ok v) :
    v.IsRegular := by
  unfold readWhole at h
  split at h
  · cases h
  · next hread =>
      split at h
      · cases h
        exact hreader _ _ _ hread
      · cases h

theorem givesRegular_readValue
    (fuel levels : Nat)
    (text : Bytes) :
    GivesRegular (readValue fuel levels text) := by
  induction fuel generalizing levels text with
  | zero => exact givesRegular_error _
  | succ fuel ih =>
      refine givesRegular_readLevels (fun text v h => ?_) (fuel + 1) levels text
      exact isRegular_of_readWhole (ih maxLevels) h

/-- Every value that is read is regular. -/
theorem isRegular_of_parse
    {text : Bytes}
    {v : Value}
    (h : parse text = .ok v) :
    v.IsRegular :=
  isRegular_of_readWhole (givesRegular_readValue _ maxLevels) h

end Json

/-- The contents that show an error are regular as well. -/
theorem ErrorPage.isRegular_contents
    (message : String) :
    (contents message).IsRegular := by
  have hcell : (cell (source message)).IsRegular := by
    refine .object (by simp) (by simp [Json.embeddingKey]) fun m hm => ?_
    simp only [List.mem_cons, List.not_mem_nil, or_false] at hm
    rcases hm with rfl | rfl | rfl | rfl | rfl
    · exact .number _
    · exact .text _
    · exact .text _
    · exact .text _
    · exact .array (by simp)
  have hpages : (Json.Value.array [.array [cell (source message)]]).IsRegular :=
    .array (List.forall_mem_singleton.2 (.array (List.forall_mem_singleton.2 hcell)))
  exact .object (by simp) (by simp [Json.embeddingKey]) (List.forall_mem_singleton.2 hpages)

end LiveNotebooks
