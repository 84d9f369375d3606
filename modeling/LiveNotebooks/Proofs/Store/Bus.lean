import LiveNotebooks.Store.Bus
import Mathlib.Algebra.Ring.Nat

/-!
# What a bus has sent

A bus keeps the last events that it has sent.  Each receiver reads on from its own place, and is
told how many events it has missed if it is too far behind.

**Results.**
* `HasSent.receiveAt_cases`: what a receiver gets, in terms of all events sent.
* `HasSent.drainAt_eq`: how many receipts wait for a receiver.
* `publishes_foldl`: who listens to events that are sent one after another.
-/

namespace LiveNotebooks

namespace Bus

/-- What somebody does with a bus. -/
inductive Move where
  | send (e : Store.Event)
  | subscribe
  | receive (receiver : Nat)
  | drop (receiver : Nat)
  deriving DecidableEq

def Move.event? : Move → Option Store.Event
  | .send e => some e
  | _ => none

def Move.receiver? : Move → Option Nat
  | .receive receiver | .drop receiver => some receiver
  | _ => none

/-- The bus after a move.  When the sender is gone, nobody can send or subscribe. -/
def move (bus : Bus) : Move → Bus
  | .send e => if bus.isOpen then bus.send e else bus
  | .subscribe => if bus.isOpen then bus.subscribe.1 else bus
  | .receive receiver => (bus.receive receiver).2
  | .drop receiver => bus.drop receiver

/-- These are the events that the bus has sent, and it keeps the last of them. -/
structure HasSent (bus : Bus) (events : List Store.Event) : Prop where
  sent : bus.sent = events.length
  kept : bus.kept = events.reverse.take busCapacity

/-- Puts a receiver in its place. -/
def place (bus : Bus) (receiver next : Nat) : Bus :=
  { bus with receivers := bus.receivers.set receiver (some next) }

/-- The number of receipts that wait for the receiver that reads `next`. -/
def waiting (bus : Bus) (next : Nat) : Nat :=
  if next < bus.oldest then bus.sent - bus.oldest + 1 else bus.sent - next

section

variable {bus : Bus} {events : List Store.Event} {e : Store.Event} {receiver next rounds : Nat}

theorem hasSent_new :
    new.HasSent [] :=
  ⟨rfl, rfl⟩

theorem HasSent.oldest_eq
    (h : bus.HasSent events) :
    bus.oldest = events.length - busCapacity := by
  rw [oldest, h.sent]

theorem hasReceivers_of_place
    (hplace : bus.receivers[receiver]? = some (some next)) :
    bus.hasReceivers = true :=
  List.any_eq_true.2 ⟨_, List.mem_of_getElem? hplace, rfl⟩

theorem HasSent.send
    (h : bus.HasSent events)
    (hlistens : bus.hasReceivers = true) :
    (bus.send e).HasSent (events ++ [e]) := by
  rw [Bus.send, if_pos hlistens]
  constructor
  · rw [List.length_append, h.sent]
    rfl
  · rw [h.kept, List.reverse_append, List.reverse_singleton, List.singleton_append]
    exact congrArg (List.cons e) (List.take_take.trans (by rfl))

/-- An event that is kept is found under its number. -/
theorem HasSent.event?_eq
    (h : bus.HasSent events)
    (hkept : bus.oldest ≤ next) :
    bus.event? next = events[next]? := by
  rw [h.oldest_eq] at hkept
  rw [event?, h.sent, h.kept]
  split
  · next hthere =>
      rw [List.getElem?_take_of_lt (by omega), List.getElem?_reverse (by omega)]
      congr 1
      omega
  · next hnot => exact (List.getElem?_eq_none (Nat.not_lt.1 hnot)).symm

/-- A receiver is told what it has missed, or gets the next event, or there is none. -/
theorem HasSent.receiveAt_cases
    (h : bus.HasSent events)
    (hnext : next ≤ events.length) :
    next < bus.oldest ∧ bus.receiveAt next = (.lagged (bus.oldest - next), bus.oldest)
      ∨ (bus.oldest ≤ next
        ∧ ∃ e, events[next]? = some e ∧ bus.receiveAt next = (.event e, next + 1))
      ∨ (next = events.length
        ∧ bus.receiveAt next = (if bus.isOpen then .empty else .closed, next)) := by
  by_cases hbehind : next < bus.oldest
  · exact .inl ⟨hbehind, if_pos hbehind⟩
  · have hkept := Nat.not_lt.1 hbehind
    rw [receiveAt, if_neg hbehind, h.event?_eq hkept]
    rcases Nat.lt_or_eq_of_le hnext with hthere | rfl
    · rw [List.getElem?_eq_getElem hthere]
      exact .inr (.inl ⟨hkept, _, rfl, rfl⟩)
    · rw [List.getElem?_eq_none (Nat.le_refl _)]
      exact .inr (.inr ⟨rfl, rfl⟩)

theorem receive_of_place
    (hplace : bus.receivers[receiver]? = some (some next)) :
    bus.receive receiver
      = ((bus.receiveAt next).1, bus.place receiver (bus.receiveAt next).2) := by
  simp only [receive, hplace, place]

theorem getElem?_place
    (hplace : bus.receivers[receiver]? = some (some next))
    (next' : Nat) :
    (bus.place receiver next').receivers[receiver]? = some (some next') :=
  List.getElem?_set_self (List.getElem?_eq_some_iff.1 hplace).1

/-! ### Moves -/

/-- A move may send an event; else it changes the places of receivers only. -/
theorem move_cases
    (bus : Bus)
    (m : Move) :
    (∃ e, m = .send e ∧ bus.isOpen = true ∧ bus.move m = bus.send e)
      ∨ (m.event? = none ∨ bus.isOpen = false)
        ∧ ∃ receivers, bus.move m = { bus with receivers := receivers }
          ∧ ∀ receiver next, m.receiver? ≠ some receiver →
            bus.receivers[receiver]? = some (some next) →
            receivers[receiver]? = some (some next) := by
  cases m with
  | send e =>
      by_cases hopen : bus.isOpen = true
      · exact .inl ⟨e, rfl, hopen, if_pos hopen⟩
      · exact .inr ⟨.inr (Bool.eq_false_iff.2 hopen), _, if_neg hopen, fun _ _ _ h => h⟩
  | subscribe =>
      refine .inr ⟨.inl rfl, ?_⟩
      by_cases hopen : bus.isOpen = true
      · refine ⟨_, if_pos hopen, fun receiver next _ h => ?_⟩
        rwa [List.getElem?_append_left (List.getElem?_eq_some_iff.1 h).1]
      · exact ⟨_, if_neg hopen, fun _ _ _ h => h⟩
  | receive used =>
      refine .inr ⟨.inl rfl, ?_⟩
      simp only [move, receive]
      split
      · refine ⟨_, rfl, fun receiver next hother h => ?_⟩
        rwa [List.getElem?_set_ne fun heq => hother (congrArg some heq)]
      · exact ⟨_, rfl, fun _ _ _ h => h⟩
  | drop used =>
      refine .inr ⟨.inl rfl, _, rfl, fun receiver next hother h => ?_⟩
      rwa [List.getElem?_set_ne fun heq => hother (congrArg some heq)]

/-- As long as somebody listens, the bus has sent every event that is sent. -/
theorem HasSent.move
    (h : bus.HasSent events)
    (hlistens : bus.isOpen = true → bus.hasReceivers = true)
    (m : Move) :
    (bus.move m).HasSent (events ++ if bus.isOpen then m.event?.toList else []) := by
  rcases bus.move_cases m with ⟨e, rfl, hopen, hmove⟩ | ⟨hnone, receivers, hmove, _⟩
  · rw [hmove, if_pos hopen]
    exact h.send (hlistens hopen)
  · have hnothing : (if bus.isOpen then m.event?.toList else []) = [] := by
      rcases hnone with hnone | hclosed
      · rw [hnone]
        exact ite_self _
      · rw [hclosed]
        rfl
    rw [hmove, hnothing, List.append_nil]
    exact ⟨h.sent, h.kept⟩

/-- A receiver stays where it is while others use the bus. -/
theorem getElem?_move
    {m : Move}
    (hplace : bus.receivers[receiver]? = some (some next))
    (hother : m.receiver? ≠ some receiver) :
    (bus.move m).receivers[receiver]? = some (some next) := by
  rcases bus.move_cases m with ⟨e, _, _, hmove⟩ | ⟨_, receivers, hmove, hplaces⟩
  · rw [hmove, Bus.send, if_pos (hasReceivers_of_place hplace)]
    exact hplace
  · rw [hmove]
    exact hplaces receiver next hother hplace

/-- A move leaves the sender where it is. -/
@[simp] theorem isOpen_move
    (bus : Bus)
    (m : Move) :
    (bus.move m).isOpen = bus.isOpen := by
  rcases bus.move_cases m with ⟨e, _, _, hmove⟩ | ⟨_, _, hmove, _⟩
  · rw [hmove, Bus.send]
    split <;> rfl
  · rw [hmove]

/-- Whatever happens with a new bus, it keeps the last events that it has sent. -/
theorem exists_hasSent
    (moves : List Move) :
    ∃ events,
      (moves.foldl move new).HasSent events
        ∧ (moves.foldl move new).isOpen = true := by
  have hall : ∀ (moves : List Move) (bus : Bus), (∃ events, bus.HasSent events) →
      bus.isOpen = true → ∃ events,
        (moves.foldl move bus).HasSent events ∧ (moves.foldl move bus).isOpen = true := by
    intro moves
    induction moves with
    | nil => exact fun _ ⟨events, h⟩ hopen => ⟨events, h, hopen⟩
    | cons m moves ih =>
        rintro bus ⟨events, h⟩ hopen
        refine ih (bus.move m) ?_ ((isOpen_move bus m).trans hopen)
        rcases bus.move_cases m with ⟨e, _, _, hmove⟩ | ⟨_, receivers, hmove, _⟩
        · rw [hmove]
          by_cases hlistens : bus.hasReceivers = true
          · exact ⟨_, h.send hlistens⟩
          · exact ⟨events, by rwa [Bus.send, if_neg hlistens]⟩
        · rw [hmove]
          exact ⟨events, h.sent, h.kept⟩
  exact hall moves new ⟨[], hasSent_new⟩ rfl

/-! ### Reading on -/

theorem waiting_le
    (bus : Bus)
    (next : Nat) :
    bus.waiting next ≤ busCapacity + 1 := by
  have holdest : bus.oldest = bus.sent - busCapacity := rfl
  by_cases hbehind : next < bus.oldest
  · rw [waiting, if_pos hbehind]
    omega
  · rw [waiting, if_neg hbehind]
    omega

/-- A receiver for whom nothing waits has read all events. -/
theorem HasSent.receiveAt_of_waiting_eq_zero
    (h : bus.HasSent events)
    (hnext : next ≤ events.length)
    (hnone : bus.waiting next = 0) :
    next = events.length
      ∧ bus.receiveAt next = (if bus.isOpen then .empty else .closed, next) := by
  rcases h.receiveAt_cases hnext with ⟨hbehind, _⟩ | ⟨hkept, e, he, _⟩ | hend
  · rw [waiting, if_pos hbehind] at hnone
    cases hnone
  · have hthere := (List.getElem?_eq_some_iff.1 he).1
    rw [waiting, if_neg (Nat.not_lt.2 hkept), h.sent] at hnone
    omega
  · exact hend

/-- As long as something waits, the receiver gets it. -/
theorem HasSent.receiveAt_of_waiting_eq_succ
    (h : bus.HasSent events)
    (hnext : next ≤ events.length)
    {n : Nat}
    (hsome : bus.waiting next = n + 1) :
    ∃ receipt next',
      bus.receiveAt next = (receipt, next')
        ∧ receipt.isNews = true
        ∧ next' ≤ events.length
        ∧ bus.waiting next' = n := by
  have holdest := h.oldest_eq
  rcases h.receiveAt_cases hnext with ⟨hbehind, hgets⟩ | ⟨hkept, e, he, hgets⟩ | ⟨rfl, _⟩
  · refine ⟨_, _, hgets, rfl, by omega, ?_⟩
    rw [waiting, if_pos hbehind] at hsome
    rw [waiting, if_neg (Nat.lt_irrefl _)]
    omega
  · have hthere := (List.getElem?_eq_some_iff.1 he).1
    refine ⟨_, _, hgets, rfl, hthere, ?_⟩
    rw [waiting, if_neg (Nat.not_lt.2 hkept)] at hsome
    rw [waiting, if_neg (by omega)]
    omega
  · rw [waiting, if_neg (by omega), h.sent] at hsome
    omega

theorem drainAt_of_isNews
    {receipt : Receipt}
    {next' : Nat}
    (hgets : bus.receiveAt next = (receipt, next'))
    (hnews : receipt.isNews = true) :
    bus.drainAt (rounds + 1) next
      = (receipt :: (bus.drainAt rounds next').1, (bus.drainAt rounds next').2) := by
  rw [drainAt, hgets]
  exact if_pos hnews

/-- What is read does not depend on who else reads. -/
theorem drainAt_receivers
    (receivers : List (Option Nat)) :
    drainAt { bus with receivers := receivers } rounds next = bus.drainAt rounds next := by
  induction rounds generalizing next with
  | zero => rfl
  | succ rounds ih =>
      rw [drainAt, drainAt]
      simp only [ih]
      rfl

/-- More rounds than there are receipts read no more. -/
theorem HasSent.drainAt_eq
    (h : bus.HasSent events)
    (hnext : next ≤ events.length)
    (hrounds : bus.waiting next ≤ rounds) :
    bus.drainAt rounds next = bus.drainAt (bus.waiting next) next := by
  generalize hn : bus.waiting next = n at hrounds ⊢
  induction n generalizing next rounds with
  | zero =>
      cases rounds with
      | zero => rfl
      | succ rounds =>
          have hgets := (h.receiveAt_of_waiting_eq_zero hnext hn).2
          rw [drainAt, drainAt, hgets]
          cases bus.isOpen <;> rfl
  | succ n ih =>
      obtain ⟨rounds, rfl⟩ : ∃ k, rounds = k + 1 := ⟨rounds - 1, by omega⟩
      obtain ⟨receipt, next', hgets, hnews, hnext', hleft⟩ :=
        h.receiveAt_of_waiting_eq_succ hnext hn
      rw [drainAt_of_isNews hgets hnews, drainAt_of_isNews hgets hnews,
        ih hnext' hleft (Nat.le_of_succ_le_succ hrounds)]

/-! ### Listening -/

/-- The events are sent behind all others.  A receiver that is not behind hears them, if they
are not more than are kept, and nobody is moved from his place.  Where nobody listens they are
lost. -/
structure Publishes (before : Bus) (events : List Store.Event) (after : Bus) : Prop where
  sent : ∀ earlier, before.HasSent earlier → before.hasReceivers = true →
    after.HasSent (earlier ++ events)
  heard : ∀ earlier receiver, before.HasSent earlier →
    before.receivers[receiver]? = some (some earlier.length) → events.length ≤ busCapacity →
      (after.drain receiver).1 = events.map Receipt.event
  receivers : after.receivers = before.receivers
  isOpen : after.isOpen = before.isOpen
  lost : before.hasReceivers = false → after = before

theorem receivers_send
    (bus : Bus)
    (e : Store.Event) :
    (bus.send e).receivers = bus.receivers := by
  unfold send
  split <;> rfl

theorem isOpen_send
    (bus : Bus)
    (e : Store.Event) :
    (bus.send e).isOpen = bus.isOpen := by
  unfold send
  split <;> rfl

theorem receivers_foldl_send
    (bus : Bus)
    (events : List Store.Event) :
    (events.foldl send bus).receivers = bus.receivers := by
  induction events generalizing bus with
  | nil => rfl
  | cons e events ih => rw [List.foldl_cons, ih, receivers_send]

theorem isOpen_foldl_send
    (bus : Bus)
    (events : List Store.Event) :
    (events.foldl send bus).isOpen = bus.isOpen := by
  induction events generalizing bus with
  | nil => rfl
  | cons e events ih => rw [List.foldl_cons, ih, isOpen_send]

/-- Events are sent one after another. -/
theorem HasSent.foldl_send
    (h : bus.HasSent events)
    (hlistens : bus.hasReceivers = true)
    (more : List Store.Event) :
    (more.foldl Bus.send bus).HasSent (events ++ more) := by
  induction more generalizing bus events with
  | nil =>
      rw [List.append_nil]
      exact h
  | cons e more ih =>
      have hstill : (bus.send e).hasReceivers = true := by
        rw [hasReceivers, receivers_send]
        exact hlistens
      have hnext := ih (h.send hlistens) hstill
      rwa [List.append_assoc, List.singleton_append] at hnext

theorem foldl_send_of_not_hasReceivers
    (hnobody : bus.hasReceivers = false)
    (events : List Store.Event) :
    events.foldl send bus = bus := by
  induction events with
  | nil => rfl
  | cons e events ih =>
      have hlost : bus.send e = bus := if_neg (by simp [hnobody])
      rw [List.foldl_cons, hlost, ih]

/-- A receiver that has missed nothing reads all that was sent since its place. -/
theorem HasSent.drainAt_of_kept
    (h : bus.HasSent events)
    (hkept : bus.oldest ≤ next)
    (hnext : next ≤ events.length)
    (hrounds : events.length - next ≤ rounds) :
    (bus.drainAt rounds next).1 = (events.drop next).map Receipt.event := by
  induction rounds generalizing next with
  | zero =>
      rw [List.drop_eq_nil_of_le (by omega)]
      rfl
  | succ rounds ih =>
      rcases h.receiveAt_cases hnext with ⟨hbehind, _⟩ | ⟨_, e, he, hgets⟩ | ⟨rfl, hgets⟩
      · exact absurd hkept (Nat.not_le.2 hbehind)
      · obtain ⟨hthere, rfl⟩ := List.getElem?_eq_some_iff.1 he
        rw [drainAt_of_isNews hgets rfl, List.drop_eq_getElem_cons hthere, List.map_cons]
        exact congrArg (_ :: ·) (ih (Nat.le_succ_of_le hkept) hthere (by omega))
      · rw [List.drop_length, drainAt, hgets]
        cases bus.isOpen <;> rfl

/-- Events that are sent one after another are published. -/
theorem publishes_foldl
    (bus : Bus)
    (events : List Store.Event) :
    bus.Publishes events (events.foldl send bus) where
  sent _ h hlistens := h.foldl_send hlistens events
  heard earlier receiver h hplace hfew := by
    have hsent := h.foldl_send (hasReceivers_of_place hplace) events
    have hkept : (events.foldl send bus).oldest ≤ earlier.length := by
      rw [hsent.oldest_eq, List.length_append]
      omega
    have hthere : (events.foldl send bus).receivers[receiver]? = some (some earlier.length) := by
      rw [receivers_foldl_send, hplace]
    have hrounds : (earlier ++ events).length - earlier.length ≤ busCapacity + 2 := by
      rw [List.length_append]
      omega
    have hdrain := hsent.drainAt_of_kept hkept (by simp) hrounds
    simp only [drain, hthere, hdrain, List.drop_left]
  receivers := receivers_foldl_send bus events
  isOpen := isOpen_foldl_send bus events
  lost hnobody := foldl_send_of_not_hasReceivers hnobody events

/-- An event is published where there is a bus. -/
theorem rel_map_send
    (bus : Option Bus)
    (e : Store.Event) :
    Option.Rel (fun before after => before.Publishes [e] after) bus (bus.map (·.send e)) := by
  cases bus with
  | none => exact .none
  | some bus => exact .some (bus.publishes_foldl [e])

end

end Bus
end LiveNotebooks
