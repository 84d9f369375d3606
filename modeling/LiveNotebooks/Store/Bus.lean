import LiveNotebooks.Store.Event

/-!
# The event bus

Events are sent to all who have subscribed.  The bus keeps the last 128 events; a
receiver that is further behind is told once how many events it has missed and goes on
with the oldest one kept.

Events are numbered from zero in the order of sending.  A receiver is the number of
the event that it reads next.
-/

namespace LiveNotebooks

/-- The number of events that are kept. -/
def busCapacity : Nat := 128

/-- A channel from one sender to many receivers. -/
structure Bus where
  /-- The number of events sent so far. -/
  sent : Nat
  /-- The events kept, newest first. -/
  kept : List Store.Event
  /-- For each receiver the number of the next event; dropped receivers have none. -/
  receivers : List (Option Nat)
  /-- Can events still be sent? -/
  isOpen : Bool

/-- What a receiver gets. -/
inductive Receipt where
  | event (e : Store.Event)
  /-- Events were missed. -/
  | lagged (missed : Nat)
  /-- All events have been read, and more may come. -/
  | empty
  /-- All events have been read, and no more will come. -/
  | closed
  deriving DecidableEq

def Receipt.isNews : Receipt → Bool
  | .event _ | .lagged _ => true
  | .empty | .closed => false

namespace Bus

def new : Bus := ⟨0, [], [], true⟩

/-- Adds a receiver of the events from now on, and returns its index. -/
def subscribe (bus : Bus) : Bus × Nat :=
  ({ bus with receivers := bus.receivers ++ [some bus.sent] }, bus.receivers.length)

/-- Does anybody listen? -/
def hasReceivers (bus : Bus) : Bool := bus.receivers.any Option.isSome

/-- Sends an event.  Without receivers it is lost. -/
def send (bus : Bus) (e : Store.Event) : Bus :=
  if bus.hasReceivers then
    { bus with sent := bus.sent + 1, kept := (e :: bus.kept).take busCapacity }
  else bus

def drop (bus : Bus) (receiver : Nat) : Bus :=
  { bus with receivers := bus.receivers.set receiver none }

/-- Drops the sender. -/
def close (bus : Bus) : Bus := { bus with isOpen := false }

/-- The number of the oldest event kept. -/
def oldest (bus : Bus) : Nat := bus.sent - busCapacity

/-- The event with a number, if it is kept. -/
def event? (bus : Bus) (number : Nat) : Option Store.Event :=
  if number < bus.sent then bus.kept[bus.sent - 1 - number]? else none

/-- What the receiver that reads `next` gets, and what it reads afterwards. -/
def receiveAt (bus : Bus) (next : Nat) : Receipt × Nat :=
  if next < bus.oldest then (.lagged (bus.oldest - next), bus.oldest)
  else
    match bus.event? next with
    | some e => (.event e, next + 1)
    | none => (if bus.isOpen then .empty else .closed, next)

/-- Reads what is next for a receiver. -/
def receive (bus : Bus) (receiver : Nat) : Receipt × Bus :=
  match bus.receivers[receiver]? with
  | some (some next) =>
      let (receipt, next) := bus.receiveAt next
      (receipt, { bus with receivers := bus.receivers.set receiver (some next) })
  | _ => (.closed, bus)

/-- Everything that a receiver can read now, oldest first, and where it stands then. -/
def drainAt (bus : Bus) : Nat → Nat → List Receipt × Nat
  | 0, next => ([], next)
  | rounds + 1, next =>
      let (receipt, next) := bus.receiveAt next
      if receipt.isNews then
        let (later, next) := drainAt bus rounds next
        (receipt :: later, next)
      else ([], next)

/-- Reads everything that is there for a receiver.  After the news of a gap there are no
more events than are kept. -/
def drain (bus : Bus) (receiver : Nat) : List Receipt × Bus :=
  match bus.receivers[receiver]? with
  | some (some next) =>
      let (receipts, next) := bus.drainAt (busCapacity + 2) next
      (receipts, { bus with receivers := bus.receivers.set receiver (some next) })
  | _ => ([], bus)

end Bus

namespace Receipt

def logLine? : Receipt → Option LogLine
  | .event e => some e.logLine
  | .lagged missed =>
      some (.warning
        ("store event log fell behind, " ++ Digits.decimal missed ++ " events skipped"))
  | .empty | .closed => none

end Receipt

/-- The lines of an event log that reads on from a receiver's place. -/
def Bus.logLines (bus : Bus) (receiver : Nat) : List LogLine × Bus :=
  let (receipts, bus) := bus.drain receiver
  (receipts.filterMap Receipt.logLine?, bus)

end LiveNotebooks
