import LiveNotebooks.Proofs.Store.Bus

/-!
# What the event log accounts for

A task logs the events of a bus, one after another, while others send and read.  However far it
falls behind, nothing is lost without a word: what the task does not log it has told as skipped.

**Algorithm.**  `EventLog.step` lets somebody else use the bus or lets the task read on.  The
task reads with `Bus.receive`, logs what it gets and ends when the sender is gone and all kept
events are read.

**Results.**
* `EventLog.tells_lines`: what the lines of a log tell.
* `EventLog.Accounts.step`: the accounts stay true, whatever happens.
* `EventLog.log_accounts`: what a log has told when it ends, and that it ends.
-/

namespace LiveNotebooks

namespace Receipt

def event? : Receipt → Option Store.Event
  | .event e => some e
  | _ => none

/-- The number of events that were missed. -/
def missed? : Receipt → Option Nat
  | .lagged missed => some missed
  | _ => none

end Receipt

/-- A task that logs what it receives from a bus. -/
structure EventLog where
  bus : Bus
  /-- The receiver of the task. -/
  receiver : Nat
  /-- What the task has received and logged so far, oldest first. -/
  received : List Receipt
  isRunning : Bool

namespace EventLog

/-- Subscribes to a bus and begins to log. -/
def start (bus : Bus) : EventLog := ⟨bus.subscribe.1, bus.subscribe.2, [], true⟩

/-- The lines of the log. -/
def lines (log : EventLog) : List LogLine := log.received.filterMap Receipt.logLine?

/-- The events that are logged. -/
def logged (log : EventLog) : List Store.Event := log.received.filterMap Receipt.event?

/-- The gaps that are told, each with the number of its events. -/
def gaps (log : EventLog) : List Nat := log.received.filterMap Receipt.missed?

/-- The number of events that are told as skipped. -/
def skipped (log : EventLog) : Nat := log.gaps.sum

/-- Drops the sender. -/
def close (log : EventLog) : EventLog := { log with bus := log.bus.close }

/-- Reads what is next and logs it.  When there is nothing to read, the task waits; when there
never will be, it ends and drops its receiver. -/
def read (log : EventLog) : EventLog :=
  match log.bus.receive log.receiver with
  | (.empty, bus) => { log with bus := bus }
  | (.closed, bus) => { log with bus := bus.drop log.receiver, isRunning := false }
  | (receipt, bus) => { log with bus := bus, received := log.received ++ [receipt] }

/-- The log when the task has received something and reads `next` after it. -/
def receiving (log : EventLog) (receipt : Receipt) (next : Nat) : EventLog :=
  { log with
    bus := log.bus.place log.receiver next
    received := log.received ++ [receipt] }

/-- What happens. -/
inductive Act where
  /-- Somebody else uses the bus. -/
  | others (m : Bus.Move)
  /-- The task goes on. -/
  | read
  deriving DecidableEq

def Act.event? : Act → Option Store.Event
  | .others m => m.event?
  | .read => none

/-- Lets something happen.  Nobody else has the receiver of the task. -/
def step (log : EventLog) : Act → EventLog
  | .others m =>
      if m.receiver? = some log.receiver then log else { log with bus := log.bus.move m }
  | .read => if log.isRunning then log.read else log

/-- The lines are one for each event and one for each gap, in their order.  A line tells the event
or the number of events that are skipped. -/
structure Tells (lines : List LogLine) (logged : List Store.Event) (gaps : List Nat) : Prop where
  changes : lines.filter (·.level = .debug) = logged.map fun e =>
    ⟨.debug, "store change for " ++ e.identifier ++ ": " ++ (e.change.name ++ " \x7b identifier: "
      ++ Quoted.text e.identifier ++ " \x7d")⟩
  warnings : lines.filter (·.level = .warning) = gaps.map fun skipped =>
    ⟨.warning, "store event log fell behind, " ++ Digits.decimal skipped ++ " events skipped"⟩
  nothingElse : lines.length = logged.length + gaps.length

section

variable {log : EventLog} {earlier sent : List Store.Event} {next passed reads : Nat}
  {m : Bus.Move} {all : List Receipt}

/-! ## The accounts -/

/-- The accounts of a log that began behind the `earlier` events and has passed `passed` of the
events that were `sent` since then. -/
structure Accounts (log : EventLog) (earlier sent : List Store.Event) (passed : Nat) : Prop where
  hasSent : log.bus.HasSent (earlier ++ sent)
  within : passed ≤ sent.length
  /-- What has been passed is logged or told as skipped. -/
  total : log.logged.length + log.skipped = passed
  inOrder : log.logged.Sublist (sent.take passed)
  /-- What has been passed and is still kept is logged. -/
  complete : (sent.take passed).drop (log.bus.oldest - earlier.length) <:+ log.logged
  place : log.isRunning = true →
    log.bus.receivers[log.receiver]? = some (some (earlier.length + passed))
  ended : log.isRunning = false → log.bus.isOpen = false ∧ passed = sent.length

/-- The task does not read beyond what has been sent. -/
theorem Accounts.next_le
    (h : log.Accounts earlier sent passed) :
    earlier.length + passed ≤ (earlier ++ sent).length := by
  rw [List.length_append]
  exact Nat.add_le_add_left h.within _

/-- The task goes on as long as there is a sender. -/
theorem Accounts.isRunning
    (h : log.Accounts earlier sent passed)
    (hopen : log.bus.isOpen = true) :
    log.isRunning = true := by
  cases hrunning : log.isRunning with
  | true => rfl
  | false => exact (h.ended hrunning).1.symm.trans hopen

/-- A log begins with nothing logged and nothing passed. -/
theorem accounts_start
    {bus : Bus}
    (h : bus.HasSent earlier) :
    (start bus).Accounts earlier [] 0 where
  hasSent := by
    rw [List.append_nil]
    exact ⟨h.sent, h.kept⟩
  within := Nat.le_refl 0
  total := rfl
  inOrder := List.Sublist.refl []
  complete := by
    rw [List.take_nil, List.drop_nil]
    exact List.suffix_refl []
  place := fun _ => by
    rw [Nat.add_zero, ← h.sent]
    exact List.getElem?_concat_length
  ended := fun hended => absurd hended (Bool.false_ne_true ·.symm)

@[simp] theorem logged_receiving
    (log : EventLog)
    (receipt : Receipt)
    (next : Nat) :
    (log.receiving receipt next).logged = log.logged ++ receipt.event?.toList := by
  simp only [logged, receiving, List.filterMap_append]
  cases receipt <;> rfl

@[simp] theorem skipped_receiving
    (log : EventLog)
    (receipt : Receipt)
    (next : Nat) :
    (log.receiving receipt next).skipped = log.skipped + receipt.missed?.getD 0 := by
  simp only [skipped, gaps, receiving, List.filterMap_append, List.sum_append]
  cases receipt <;> rfl

theorem Tells.change
    {lines : List LogLine}
    {logged : List Store.Event}
    {gaps : List Nat}
    (h : Tells lines logged gaps)
    (e : Store.Event) :
    Tells (e.logLine :: lines) (e :: logged) gaps where
  changes := congrArg (e.logLine :: ·) h.changes
  warnings := h.warnings
  nothingElse := by
    rw [List.length_cons, h.nothingElse, List.length_cons]
    omega

theorem Tells.gap
    {lines : List LogLine}
    {logged : List Store.Event}
    {gaps : List Nat}
    (h : Tells lines logged gaps)
    (skipped : Nat) :
    Tells (.warning ("store event log fell behind, " ++ Digits.decimal skipped
      ++ " events skipped") :: lines) logged (skipped :: gaps) where
  changes := h.changes
  warnings := congrArg (_ :: ·) h.warnings
  nothingElse := by
    rw [List.length_cons, h.nothingElse, List.length_cons]
    rfl

/-- Whatever has been received, the lines tell it. -/
theorem tells_lines
    (log : EventLog) :
    Tells log.lines log.logged log.gaps := by
  obtain ⟨bus, receiver, received, isRunning⟩ := log
  induction received with
  | nil => exact ⟨rfl, rfl, rfl⟩
  | cons receipt received ih =>
      cases receipt with
      | event e => exact ih.change e
      | lagged missed => exact ih.gap missed
      | empty => exact ih
      | closed => exact ih

@[simp] theorem oldest_receiving
    (log : EventLog)
    (receipt : Receipt)
    (next : Nat) :
    (log.receiving receipt next).bus.oldest = log.bus.oldest :=
  rfl

/-- Somebody else uses the bus. -/
theorem Accounts.others
    (h : log.Accounts earlier sent passed)
    (hother : m.receiver? ≠ some log.receiver) :
    Accounts { log with bus := log.bus.move m } earlier
      (sent ++ if log.bus.isOpen then m.event?.toList else []) passed := by
  have hsent := h.hasSent.move
    (fun hopen => Bus.hasReceivers_of_place (h.place (h.isRunning hopen))) m
  rw [List.append_assoc] at hsent
  have htake : ∀ more, (sent ++ more).take passed = sent.take passed := fun more => by
    rw [List.take_append_of_le_length h.within]
  refine ⟨hsent, ?_, h.total, ?_, ?_, fun hrunning => ?_, fun hended => ?_⟩
  · rw [List.length_append]
    exact Nat.le_add_right_of_le h.within
  · rw [htake]
    exact h.inOrder
  · rw [htake]
    refine List.IsSuffix.trans (List.drop_suffix_drop_left _ ?_) h.complete
    rw [hsent.oldest_eq, h.hasSent.oldest_eq]
    simp only [List.length_append]
    omega
  · exact Bus.getElem?_move (h.place hrunning) hother
  · obtain ⟨hclosed, hall⟩ := h.ended hended
    rw [Bus.isOpen_move, hclosed, if_neg Bool.false_ne_true, List.append_nil]
    exact ⟨rfl, hall⟩

/-- The task has fallen behind and is told how far. -/
theorem Accounts.skip
    (h : log.Accounts earlier sent passed)
    (hrunning : log.isRunning = true)
    (hbehind : earlier.length + passed < log.bus.oldest) :
    (log.receiving (.lagged (log.bus.oldest - (earlier.length + passed))) log.bus.oldest).Accounts
      earlier sent (log.bus.oldest - earlier.length) := by
  have holdest := h.hasSent.oldest_eq
  rw [List.length_append] at holdest
  have htotal := h.total
  refine ⟨⟨h.hasSent.sent, h.hasSent.kept⟩, by omega, ?_, ?_, ?_, fun _ => ?_, fun hended => ?_⟩
  · rw [logged_receiving, skipped_receiving, List.length_append]
    simp only [Receipt.event?, Receipt.missed?, Option.toList_none, List.length_nil,
      Option.getD_some]
    omega
  · rw [logged_receiving]
    simp only [Receipt.event?, Option.toList_none, List.append_nil]
    exact h.inOrder.trans (List.take_sublist_take_left (by omega))
  · rw [oldest_receiving, List.drop_eq_nil_of_le (List.length_take_le _ _)]
    exact List.nil_suffix
  · rw [Nat.add_sub_cancel' (by omega)]
    exact Bus.getElem?_place (h.place hrunning) _
  · exact absurd (hrunning.symm.trans hended) (Bool.false_ne_true ·.symm)

/-- The task logs an event. -/
theorem Accounts.hear
    (h : log.Accounts earlier sent passed)
    (hrunning : log.isRunning = true)
    (hkept : log.bus.oldest ≤ earlier.length + passed)
    {e : Store.Event}
    (he : sent[passed]? = some e) :
    (log.receiving (.event e) (earlier.length + passed + 1)).Accounts earlier sent
      (passed + 1) := by
  have htotal := h.total
  have htake : sent.take (passed + 1) = sent.take passed ++ [e] := by
    rw [List.take_add_one, he]
    rfl
  have hthere := (List.getElem?_eq_some_iff.1 he).1
  refine ⟨⟨h.hasSent.sent, h.hasSent.kept⟩, hthere, ?_, ?_, ?_, fun _ => ?_, fun hended => ?_⟩
  · rw [logged_receiving, skipped_receiving, List.length_append]
    simp only [Receipt.event?, Receipt.missed?, Option.toList_some, List.length_singleton,
      Option.getD_none]
    omega
  · rw [logged_receiving, htake]
    exact h.inOrder.append (List.Sublist.refl _)
  · obtain ⟨before, hbefore⟩ := h.complete
    have hlength : log.bus.oldest - earlier.length ≤ (sent.take passed).length := by
      rw [List.length_take]
      omega
    rw [logged_receiving, oldest_receiving, ← hbefore, htake, List.drop_append_of_le_length hlength]
    exact ⟨before, (List.append_assoc ..).symm⟩
  · exact Bus.getElem?_place (h.place hrunning) _
  · exact absurd (hrunning.symm.trans hended) (Bool.false_ne_true ·.symm)

/-- What reading does when there is something to log. -/
theorem read_of_isNews
    {receipt : Receipt}
    {next' : Nat}
    (hplace : log.bus.receivers[log.receiver]? = some (some next))
    (hgets : log.bus.receiveAt next = (receipt, next'))
    (hnews : receipt.isNews = true) :
    log.read = log.receiving receipt next' := by
  rw [read, Bus.receive_of_place hplace, hgets]
  cases receipt with
  | event e => rfl
  | lagged missed => rfl
  | empty => cases hnews
  | closed => cases hnews

/-- The task reads while something waits for it. -/
theorem Accounts.read_of_waiting
    (h : log.Accounts earlier sent passed)
    (hrunning : log.isRunning = true)
    {n : Nat}
    (hsome : log.bus.waiting (earlier.length + passed) = n + 1) :
    ∃ receipt passed',
      log.bus.receiveAt (earlier.length + passed) = (receipt, earlier.length + passed')
        ∧ receipt.isNews = true
        ∧ log.bus.waiting (earlier.length + passed') = n
        ∧ log.read = log.receiving receipt (earlier.length + passed')
        ∧ log.read.Accounts earlier sent passed' := by
  have hnext := h.next_le
  obtain ⟨receipt, next', hgets, hnews, _, hleft⟩ :=
    h.hasSent.receiveAt_of_waiting_eq_succ hnext hsome
  have hread := read_of_isNews (h.place hrunning) hgets hnews
  rcases h.hasSent.receiveAt_cases hnext with
    ⟨hbehind, hlags⟩ | ⟨hkept, e, he, hhears⟩ | ⟨_, hnothing⟩
  · obtain ⟨rfl, rfl⟩ := Prod.mk.inj (hlags.symm.trans hgets)
    have hplace : earlier.length + (log.bus.oldest - earlier.length) = log.bus.oldest := by omega
    refine ⟨_, log.bus.oldest - earlier.length, ?_, hnews, ?_, ?_, ?_⟩
    · rw [hplace, hgets]
    · rw [hplace, hleft]
    · rw [hplace, hread]
    · rw [hread]
      exact h.skip hrunning hbehind
  · obtain ⟨rfl, rfl⟩ := Prod.mk.inj (hhears.symm.trans hgets)
    refine ⟨_, passed + 1, hgets, hnews, hleft, hread, ?_⟩
    rw [hread]
    rw [List.getElem?_append_right (Nat.le_add_right _ _), Nat.add_sub_cancel_left] at he
    exact h.hear hrunning hkept he
  · obtain ⟨rfl, _⟩ := Prod.mk.inj (hnothing.symm.trans hgets)
    cases hopen : log.bus.isOpen <;> rw [hopen] at hnews <;> cases hnews

/-- The task has read everything.  It waits while there is a sender, and else it ends. -/
theorem Accounts.read_of_not_waiting
    (h : log.Accounts earlier sent passed)
    (hrunning : log.isRunning = true)
    (hnone : log.bus.waiting (earlier.length + passed) = 0) :
    log.read.received = log.received
      ∧ log.read.isRunning = log.bus.isOpen
      ∧ log.read.Accounts earlier sent passed := by
  have hplace := h.place hrunning
  have hnext := h.next_le
  obtain ⟨hall, hgets⟩ := h.hasSent.receiveAt_of_waiting_eq_zero hnext hnone
  rw [List.length_append] at hall
  have hsent : ∀ receivers, Bus.HasSent { log.bus with receivers := receivers } (earlier ++ sent) :=
    fun _ => ⟨h.hasSent.sent, h.hasSent.kept⟩
  cases hopen : log.bus.isOpen with
  | true =>
      have hread : log.read
          = { log with bus := log.bus.place log.receiver (earlier.length + passed) } := by
        rw [read, Bus.receive_of_place hplace, hgets, hopen]
        rfl
      rw [hread]
      exact ⟨rfl, hrunning, hsent _, h.within, h.total, h.inOrder, h.complete,
        fun _ => Bus.getElem?_place hplace _,
        fun hended => absurd (hrunning.symm.trans hended) (Bool.false_ne_true ·.symm)⟩
  | false =>
      have hread : log.read = { log with
          bus := (log.bus.place log.receiver (earlier.length + passed)).drop log.receiver
          isRunning := false } := by
        rw [read, Bus.receive_of_place hplace, hgets, hopen]
        rfl
      rw [hread]
      exact ⟨rfl, rfl, hsent _, h.within, h.total, h.inOrder, h.complete,
        fun hrunning => absurd hrunning Bool.false_ne_true,
        fun _ => ⟨hopen, Nat.add_left_cancel hall⟩⟩

/-- A step leaves the sender where it is. -/
theorem isOpen_step
    (log : EventLog)
    (a : Act) :
    (log.step a).bus.isOpen = log.bus.isOpen := by
  have hreceive : (log.bus.receive log.receiver).2.isOpen = log.bus.isOpen := by
    rw [Bus.receive]
    split <;> rfl
  cases a with
  | others m =>
      rw [step]
      split
      · rfl
      · exact Bus.isOpen_move log.bus m
  | read =>
      rw [step, read]
      split
      · split <;> next hgets => rw [← hreceive, hgets] <;> rfl
      · rfl

theorem isOpen_run
    (log : EventLog)
    (acts : List Act) :
    (acts.foldl step log).bus.isOpen = log.bus.isOpen := by
  induction acts generalizing log with
  | nil => rfl
  | cons a acts ih => exact (ih (log.step a)).trans (isOpen_step log a)

/-- The accounts stay true, whatever happens. -/
theorem Accounts.step
    (h : log.Accounts earlier sent passed)
    (a : Act) :
    ∃ passed',
      (log.step a).Accounts earlier (sent ++ if log.bus.isOpen then a.event?.toList else [])
        passed' := by
  have hnothing : (if log.bus.isOpen then ([] : List Store.Event) else []) = [] := ite_self _
  cases a with
  | others m =>
      rw [EventLog.step]
      split
      · next hown =>
          have hnone : m.event? = none := by
            cases m <;> first | rfl | cases hown
          simp only [Act.event?, hnone, Option.toList_none, hnothing, List.append_nil]
          exact ⟨passed, h⟩
      · next hother => exact ⟨passed, h.others hother⟩
  | read =>
      simp only [Act.event?, Option.toList_none, hnothing, List.append_nil, EventLog.step]
      split
      · next hrunning =>
          cases hwaits : log.bus.waiting (earlier.length + passed) with
          | zero => exact ⟨passed, (h.read_of_not_waiting hrunning hwaits).2.2⟩
          | succ n =>
              obtain ⟨_, passed', _, _, _, _, hread⟩ := h.read_of_waiting hrunning hwaits
              exact ⟨passed', hread⟩
      · exact ⟨passed, h⟩

/-- The accounts of a whole run. -/
theorem Accounts.run
    (h : log.Accounts earlier sent passed)
    (acts : List Act) :
    ∃ passed',
      (acts.foldl EventLog.step log).Accounts earlier
        (sent ++ if log.bus.isOpen then acts.filterMap Act.event? else []) passed' := by
  induction acts generalizing log sent passed with
  | nil =>
      refine ⟨passed, ?_⟩
      rw [List.filterMap_nil, ite_self, List.append_nil]
      exact h
  | cons a acts ih =>
      obtain ⟨passed', hstep⟩ := h.step a
      obtain ⟨passed'', hrun⟩ := ih hstep
      have hsent : (sent ++ if log.bus.isOpen then a.event?.toList else [])
            ++ (if log.bus.isOpen then acts.filterMap Act.event? else [])
          = sent ++ if log.bus.isOpen then (a :: acts).filterMap Act.event? else [] := by
        cases log.bus.isOpen <;> cases ha : a.event? <;> simp [ha]
      rw [isOpen_step, hsent] at hrun
      exact ⟨passed'', hrun⟩

/-! ## The end -/

/-- A log whose sender is gone.  It has read on a number of times since then, and will have
received `all` when it ends. -/
structure Finishes (log : EventLog) (earlier sent : List Store.Event) (all : List Receipt)
    (reads passed : Nat) : Prop where
  accounts : log.Accounts earlier sent passed
  closed : log.bus.isOpen = false
  left : log.isRunning = true →
    let next := earlier.length + passed
    reads + log.bus.waiting next ≤ busCapacity + 1
      ∧ log.received ++ (log.bus.drainAt (log.bus.waiting next) next).1 = all
  ended : log.isRunning = false → log.received = all

/-- What others do does not matter any more. -/
theorem Finishes.others
    (h : log.Finishes earlier sent all reads passed)
    (hother : m.receiver? ≠ some log.receiver) :
    Finishes { log with bus := log.bus.move m } earlier sent all reads passed := by
  have haccounts := h.accounts.others hother
  rw [h.closed, if_neg Bool.false_ne_true, List.append_nil] at haccounts
  refine ⟨haccounts, (Bus.isOpen_move log.bus m).trans h.closed, fun hrunning => ?_, h.ended⟩
  rcases log.bus.move_cases m with ⟨_, _, hopen, _⟩ | ⟨_, receivers, hmove, _⟩
  · exact absurd (h.closed.symm.trans hopen) Bool.false_ne_true
  · simp only [hmove, Bus.drainAt_receivers]
    exact h.left hrunning

/-- Every read brings the log nearer to its end. -/
theorem Finishes.read
    (h : log.Finishes earlier sent all reads passed)
    (hrunning : log.isRunning = true) :
    ∃ passed', log.read.Finishes earlier sent all (reads + 1) passed' := by
  obtain ⟨hfew, hall⟩ := h.left hrunning
  have hclosed : log.read.bus.isOpen = false := by
    have hopen := isOpen_step log .read
    rw [EventLog.step, if_pos hrunning] at hopen
    exact hopen.trans h.closed
  cases hwaits : log.bus.waiting (earlier.length + passed) with
  | zero =>
      obtain ⟨hreceived, hends, haccounts⟩ := h.accounts.read_of_not_waiting hrunning hwaits
      refine ⟨passed, haccounts, hclosed, fun hruns => ?_, fun _ => ?_⟩
      · exact absurd (h.closed.symm.trans (hends.symm.trans hruns)) Bool.false_ne_true
      · rw [hreceived, ← hall, hwaits]
        exact (List.append_nil _).symm
  | succ n =>
      obtain ⟨receipt, passed', hgets, hnews, hleft, hread, haccounts⟩ :=
        h.accounts.read_of_waiting hrunning hwaits
      refine ⟨passed', haccounts, hclosed, fun _ => ?_, fun hends => ?_⟩
      · have hbus : log.read.bus = log.bus.place log.receiver (earlier.length + passed') := by
          rw [hread]
          rfl
        have hwaiting : log.read.bus.waiting (earlier.length + passed') = n := by
          rw [hbus]
          exact hleft
        rw [hwaits, Bus.drainAt_of_isNews hgets hnews] at hall
        refine ⟨by omega, ?_⟩
        rw [hwaiting, ← hall, hbus, Bus.place, Bus.drainAt_receivers, hread, receiving,
          List.append_assoc, List.singleton_append]
      · rw [hread] at hends
        exact absurd (hrunning.symm.trans hends) (Bool.false_ne_true ·.symm)

/-- When the sender is gone, nothing but reading changes the log. -/
theorem Finishes.step
    (h : log.Finishes earlier sent all reads passed)
    (a : Act) :
    ∃ passed', (log.step a).Finishes earlier sent all (reads + [a].count .read) passed' := by
  cases a with
  | others m =>
      rw [EventLog.step]
      split
      · exact ⟨passed, h⟩
      · next hother => exact ⟨passed, h.others hother⟩
  | read =>
      rw [EventLog.step]
      split
      · next hrunning => exact h.read hrunning
      · next hends => exact ⟨passed, h.accounts, h.closed, fun hrunning => absurd hrunning hends,
          h.ended⟩

/-- Whatever else happens, the log still finishes, and its reads are counted on. -/
theorem Finishes.run
    (h : log.Finishes earlier sent all reads passed)
    (acts : List Act) :
    ∃ passed',
      (acts.foldl EventLog.step log).Finishes earlier sent all (reads + acts.count .read)
        passed' := by
  induction acts generalizing log reads passed with
  | nil => exact ⟨passed, h⟩
  | cons a acts ih =>
      obtain ⟨passed', hstep⟩ := h.step a
      obtain ⟨passed'', hrun⟩ := ih hstep
      refine ⟨passed'', ?_⟩
      rw [Nat.add_assoc, ← List.count_append] at hrun
      exact hrun

/-- When the sender goes, the log will have received what it can read now. -/
theorem Accounts.close
    (h : log.Accounts earlier sent passed)
    (hopen : log.bus.isOpen = true) :
    log.close.Finishes earlier sent
      (log.received ++ (log.close.bus.drain log.receiver).1) 0 passed := by
  have hrunning := h.isRunning hopen
  have hplace := h.place hrunning
  have hsent : log.close.bus.HasSent (earlier ++ sent) := ⟨h.hasSent.sent, h.hasSent.kept⟩
  have hnext := h.next_le
  have hfew := Bus.waiting_le log.close.bus (earlier.length + passed)
  have hends : log.isRunning ≠ false := fun hends =>
    Bool.false_ne_true (hends.symm.trans hrunning)
  refine ⟨⟨hsent, h.within, h.total, h.inOrder, h.complete, h.place, fun hnot => absurd hnot hends⟩,
    rfl, fun _ => ⟨by rwa [Nat.zero_add], ?_⟩, fun hnot => absurd hnot hends⟩
  have hdrain : (log.close.bus.drain log.receiver).1
      = (log.close.bus.drainAt (busCapacity + 2) (earlier.length + passed)).1 := by
    have hplace' : log.close.bus.receivers[log.receiver]? = some (some (earlier.length + passed)) :=
      hplace
    simp only [Bus.drain, hplace']
  rw [hdrain, hsent.drainAt_eq hnext (Nat.le_succ_of_le hfew)]
  rfl

end

/-- **The accounts of the event log.**  A task subscribes to a bus and logs its events while
others send and read as they like; then the sender goes.  The task ends with at most 130 more
reads.  When it has ended, the events it has logged are those sent since it subscribed, in
their order and each at most once, and the gaps that it has told account for all others; the
last 128 are among them.  Its lines tell just these events and gaps.  What it still logs after
the sender is gone is what is left to read. -/
theorem log_accounts
    (before : List Bus.Move)
    (acts rest : List Act) :
    let log := acts.foldl step (start (before.foldl Bus.move Bus.new))
    let ended := rest.foldl step log.close
    let sent := acts.filterMap Act.event?
    (busCapacity + 2 ≤ rest.count .read → ended.isRunning = false)
      ∧ (ended.isRunning = false →
        ended.logged.Sublist sent
          ∧ ended.logged.length + ended.gaps.sum = sent.length
          ∧ sent.drop (sent.length - busCapacity) <:+ ended.logged
          ∧ Tells ended.lines ended.logged ended.gaps
          ∧ ended.lines = log.lines ++ (log.close.bus.logLines log.receiver).1) := by
  intro log ended sent
  obtain ⟨earlier, hsent, hopen⟩ := Bus.exists_hasSent before
  obtain ⟨passed, hlog⟩ := (accounts_start hsent).run acts
  have hstart : (start (before.foldl Bus.move Bus.new)).bus.isOpen = true := hopen
  rw [List.nil_append, if_pos hstart] at hlog
  obtain ⟨passed', hfinishes⟩ := (hlog.close ((isOpen_run _ acts).trans hstart)).run rest
  constructor
  · intro hmany
    refine Bool.eq_false_iff.2 fun hrunning => ?_
    have hfew := (hfinishes.left hrunning).1
    omega
  · intro hended
    obtain ⟨_, hpassed⟩ := hfinishes.accounts.ended hended
    have holdest := hfinishes.accounts.hasSent.oldest_eq
    have hkept : ended.bus.oldest - earlier.length
        = (acts.filterMap Act.event?).length - busCapacity := by
      rw [holdest, List.length_append]
      omega
    have hcomplete := hfinishes.accounts.complete
    rw [hpassed, List.take_length, hkept] at hcomplete
    refine ⟨hfinishes.accounts.inOrder.trans (List.take_sublist _ _),
      hfinishes.accounts.total.trans hpassed, hcomplete, ended.tells_lines, ?_⟩
    rw [lines, hfinishes.ended hended, List.filterMap_append, lines, Bus.logLines]

-- An event is read, and then a burst of 130 events comes: two of them are told as skipped.
example :
    let burst := List.replicate 130 (Act.others (.send ⟨.updated, "a"⟩))
    let log := (.others (.send ⟨.created, "a"⟩) :: .read :: burst).foldl step (start Bus.new)
    log.read.received = [.event ⟨.created, "a"⟩, .lagged 2] := by
  decide +kernel

end EventLog
end LiveNotebooks
