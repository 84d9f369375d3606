import LiveNotebooks.Proofs.Reload.Document

/-!
# A file that is edited

One file is written again and again, and after each write a reload is asked for.  A task
that begins to convert reads what the file holds at that moment.  No client writes the
document of the file, and everything else may go on beside it.

**Results.**
* `step_of_step?`: a step writes the file, asks for a reload, lets a task of the document
  go on, or is nothing to the document.
* `runs_machine`: what happens around the file is a run of the service.
-/

namespace LiveNotebooks
namespace Reload

/-- Is it about a document? -/
def Action.concerns (identifier : String) (s : Machine) : Action → Bool
  | .pass _ => false
  | .request path => Path.name path = some identifier
  | .move number _ =>
      match s.reload.task? number with
      | some t => t.ticket.identifier = identifier
      | none => false
  | .put n => n.identifier = identifier
  | .setContents about _ _ => about = identifier

/-- A file, the name of its document, and what the converter makes of its contents. -/
structure Source where
  path : Path
  identifier : String
  named : Path.name path = some identifier
  convert : Bytes → ConversionResult

/-- What is stored for contents of the file. -/
def Source.page (src : Source) (content : Bytes) : Json.Value :=
  (⟨src.identifier, src.convert content⟩ : Conversion).contents

/-- The service and the file. -/
structure Desk where
  machine : Machine
  /-- What was last written to the file. -/
  content : Bytes
  /-- What the tasks have read that have begun to convert. -/
  readings : List (Nat × Bytes)
  /-- Has a reload been asked for since the last write? -/
  asked : Bool

namespace Desk

/-- What happens around the file. -/
inductive Action where
  | write (content : Bytes)
  | request
  /-- A task of the document goes on. -/
  | turn (number : Nat) (moment : Instant)
  /-- Something that is not about the document. -/
  | other (a : Reload.Action)

/-- The file before the first request. -/
def opened (now : Nat) (store : Store) (content : Bytes) : Desk :=
  ⟨Machine.opened now store, content, [], false⟩

/-- The next step of a task, which sees the file and converts what it has read. -/
def move? (src : Source) (d : Desk) (t : Task) (moment : Instant) : Option Move :=
  match t.phase with
  | .fresh => some .rest
  | .waiting _ => some .rouse
  | .awake => some (.look true)
  | .leaving => some .leave
  | .ready => some .start
  | .converting =>
      (d.readings.lookup t.number).map fun content => .finish (src.convert content) moment

/-- What has been read when a task has gone on. -/
def read (d : Desk) (t : Task) : List (Nat × Bytes) :=
  if t.phase = .ready then (t.number, d.content) :: d.readings else d.readings

/-- What is stored for the file. -/
def stored (src : Source) (d : Desk) : Option Json.Value :=
  (d.machine.store.find? src.identifier).map Notebook.contents

/-- Lets something happen around the file, if it can. -/
def step? (c : Setup) (src : Source) (d : Desk) : Action → Option (Desk × Option Note)
  | .write content => some ({ d with content := content, asked := false }, none)
  | .request =>
      (d.machine.step? c (.request src.path)).map fun (machine, note) =>
        ({ d with machine := machine, asked := true }, note)
  | .turn number moment =>
      match d.machine.reload.task? number with
      | none => none
      | some t =>
          if t.ticket.identifier = src.identifier then
            match d.move? src t moment with
            | none => none
            | some m =>
                (d.machine.step? c (.move number m)).map fun (machine, note) =>
                  ({ d with machine := machine, readings := d.read t }, note)
          else none
  | .other a =>
      if a.concerns src.identifier d.machine then none
      else
        (d.machine.step? c a).map fun (machine, note) => ({ d with machine := machine }, note)

/-- Everything that can happen around the file. -/
inductive Step (c : Setup) (src : Source) (d : Desk) : Desk → Option Note → Prop
  | write
      (content : Bytes) :
      Step c src d { d with content := content, asked := false } none
  | request :
      Step c src d
        { d with
          machine :=
            { d.machine with reload := d.machine.reload.enlist src.path src.identifier }
          asked := true }
        (some (d.machine.requestNote src.path src.identifier))
  | turn
      {t : Task}
      {m : Move}
      {moment : Instant}
      {machine : Machine}
      {note : Option Note}
      (ht : t ∈ d.machine.reload.tasks)
      (hid : t.ticket.identifier = src.identifier)
      (hmove : d.move? src t moment = some m)
      (hturn : Machine.Turn c d.machine t m machine note) :
      Step c src d { d with machine := machine, readings := d.read t } note
  | other
      {machine : Machine}
      {note : Option Note}
      (helse : Elsewhere src.identifier d.machine machine note)
      (hnote : ∀ n ∈ note, n.identifier ≠ src.identifier) :
      Step c src d { d with machine := machine } note

end Desk

section

variable {c : Setup} {src : Source} {d d' : Desk} {note : Option Note}

/-- What is not about a document leaves it alone, and is not noted on it. -/
theorem elsewhere_of_not_concerns
    {s s' : Machine}
    {a : Action}
    {identifier : String}
    (h : Machine.Step c s a s' note)
    (hconcerns : a.concerns identifier s = false) :
    Elsewhere identifier s s' note ∧ ∀ n ∈ note, n.identifier ≠ identifier := by
  have htask : ∀ t ∈ s.reload.tasks, ∀ m, (Action.move t.number m).concerns identifier s = false →
      t.ticket.identifier ≠ identifier := by
    intro t ht m hmove
    simpa [Action.concerns, State.task?_of_mem ht] using hmove
  constructor
  · cases step_about h identifier with
    | elsewhere helse => exact helse
    | request hname => simp [Action.concerns, hname] at hconcerns
    | advance ht hid hadvance => exact absurd hid (htask _ ht _ hconcerns)
    | depart ht hid hdepart => exact absurd hid (htask _ ht _ hconcerns)
    | commit result moment ht hid hphase hcurrent => exact absurd hid (htask _ ht _ hconcerns)
  · intro n hn
    cases h with
    | pass span => cases hn
    | nameless hname => cases hn
    | @request path about hname =>
        cases hn
        have hne : about ≠ identifier := by simpa [Action.concerns, hname] using hconcerns
        exact hne
    | advance ht hadvance =>
        obtain ⟨deed, _, rfl⟩ := Option.map_eq_some_iff.1 hn
        exact htask _ ht _ hconcerns
    | depart ht hdepart =>
        cases hn
        exact htask _ ht _ hconcerns
    | commit result moment ht hphase hcurrent =>
        cases hn
        exact htask _ ht _ hconcerns
    | put notebook =>
        cases hn
        have hne : notebook.identifier ≠ identifier := by
          simpa [Action.concerns] using hconcerns
        exact hne
    | setContents hset =>
        cases hn
        rw [Machine.writeNote, Store.identifier_setContents hset]
        simpa [Action.concerns] using hconcerns
    | refused hset => cases hn

namespace Desk

/-- Whatever happens around the file is one of the steps, and a step of the service unless
the file is written. -/
theorem step_of_step?
    {a : Desk.Action}
    (h : d.step? c src a = some (d', note)) :
    Step c src d d' note
      ∧ (d'.machine = d.machine ∧ note = none
        ∨ ∃ b, d.machine.step? c b = some (d'.machine, note)) := by
  cases a with
  | write content =>
      cases h
      exact ⟨.write content, .inl ⟨rfl, rfl⟩⟩
  | request =>
      simp only [step?] at h
      obtain ⟨⟨machine, n⟩, hstep, he⟩ := Option.map_eq_some_iff.1 h
      cases he
      refine ⟨?_, .inr ⟨_, hstep⟩⟩
      simp only [Machine.step?, State.schedule, src.named] at hstep
      cases hstep
      exact .request
  | turn number moment =>
      simp only [step?] at h
      cases htask : d.machine.reload.task? number with
      | none => simp [htask] at h
      | some t =>
          simp only [htask] at h
          split at h
          · next hid =>
              cases hmove : d.move? src t moment with
              | none => simp [hmove] at h
              | some m =>
                  simp only [hmove] at h
                  obtain ⟨⟨machine, n⟩, hstep, he⟩ := Option.map_eq_some_iff.1 h
                  cases he
                  refine ⟨?_, .inr ⟨_, hstep⟩⟩
                  simp only [Machine.step?, htask] at hstep
                  exact .turn (State.mem_of_task? htask).1 hid hmove
                    (Machine.turn_of_move? hstep)
          · cases h
  | other a =>
      simp only [step?] at h
      split at h
      · cases h
      · next hconcerns =>
          obtain ⟨⟨machine, n⟩, hstep, he⟩ := Option.map_eq_some_iff.1 h
          cases he
          obtain ⟨helse, hnote⟩ := elsewhere_of_not_concerns (Machine.step_of_step? hstep)
            (Bool.eq_false_iff.2 hconcerns)
          exact ⟨.other helse hnote, .inr ⟨_, hstep⟩⟩

/-- What happens around the file is a run of the service. -/
theorem runs_machine
    {start : Desk}
    {j : Journal}
    (h : Runs (Desk.step? c src) start d j) :
    Runs (Machine.step? c) start.machine d.machine j := by
  induction h with
  | refl => exact .refl
  | step _ hstep ih =>
      rcases (step_of_step? hstep).2 with ⟨hmachine, rfl⟩ | ⟨b, hb⟩
      · rw [hmachine]
        simpa using ih
      · exact .step ih hb

end Desk

end

end Reload
end LiveNotebooks
