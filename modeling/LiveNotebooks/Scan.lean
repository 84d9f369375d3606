import LiveNotebooks.Conversion

/-!
# The scan of the notebook directory

All regular files that stand right in the directory are loaded, in the order of their
names; links count as what they lead to, hidden files do not count.  Several files may be
converted at a time.

**Results.**
* `Scan.visibleFiles` are the files of a directory.
* `Scan.Pool` hands out the files, at most so many at a time.
* `Scan.Report` names the loaded and the failed documents, each in ascending order.
-/

namespace LiveNotebooks
namespace Scan

/-- Why a directory cannot be read. -/
structure WalkError where
  path : Path
  reason : FileError
  deriving DecidableEq

def WalkError.message (e : WalkError) : String :=
  "IO error for operation on " ++ Path.display e.path ++ ": " ++ e.reason.describe

/-- How deep below the directory the error arose: at the directory itself. -/
def WalkError.depth (_ : WalkError) : Nat := 0

/-- The line on an entry that cannot be read. -/
def skippedLine (reason : String) : LogLine :=
  .warning ("skipping unreadable entry: " ++ reason)

/-- What an entry of a directory counts as. -/
inductive Found where
  | file (path : Path)
  | skipped (line : LogLine)
  | ignored

/-- What the entry with a name counts as.  A link back to the directory itself is
skipped. -/
def classify (files : Files) (directory : Path) (here : Location) (name : Bytes) : Found :=
  let path := Path.join directory name
  let isLink := match files.entryAt? (here ++ [name]) with
    | some (.link _) => true
    | _ => false
  match files.stat path with
  | .error e => .skipped (skippedLine (WalkError.message ⟨path, e⟩))
  | .ok (location, entry) =>
      if isLink && entry.isDirectory && location = here then
        .skipped (skippedLine
          ("File system loop found: " ++ Path.display path ++ " points to an ancestor "
            ++ Path.display directory))
      else if entry.isFile && !Path.isHidden path then .file path
      else .ignored

def Found.path? : Found → Option Path
  | .file path => some path
  | _ => none

/-- The line on a skipped entry. -/
def Found.line? : Found → Option LogLine
  | .skipped line => some line
  | _ => none

/-- The files of a directory in the order of their names, and the lines on entries that
cannot be read. -/
def visibleFiles (files : Files) (directory : Path) : Except WalkError (List Path × List LogLine) :=
  match files.stat directory with
  | .error e => .error ⟨directory, e⟩
  | .ok (here, .directory) =>
      let found := (files.names here).map (classify files directory here)
      .ok (found.filterMap Found.path?, found.filterMap Found.line?)
  | .ok _ => .ok ([], [])

def sortNames (names : List String) : List String := names.mergeSort fun a b => !decide (b < a)

/-- The documents that a scan has loaded. -/
structure Report where
  loaded : List String
  failed : List String
  deriving DecidableEq

namespace Report

def empty : Report := ⟨[], []⟩

/-- The number of documents. -/
def total (r : Report) : Nat := r.loaded.length + r.failed.length

/-- The report on the loaded documents. -/
def ofOutcomes (outcomes : List Conversion.Outcome) : Report :=
  ⟨sortNames ((outcomes.filter (!·.isFallback)).map (·.identifier)),
    sortNames ((outcomes.filter (·.isFallback)).map (·.identifier))⟩

end Report

/-- The line on a directory that cannot be read. -/
def unreadableLine (directory : Path) (e : WalkError) : LogLine :=
  .error ("cannot read notebook directory " ++ Path.display directory ++ ": " ++ e.message)

def startLine (directory : Path) (count : Nat) : LogLine :=
  .info ("scanning " ++ Digits.decimal count ++ " files in " ++ Path.display directory)

/-- The files of a scan that are not yet loaded. -/
structure Pool where
  /-- The files that are not yet started, in order. -/
  waiting : List Path
  /-- The files that are being converted, in the order of their start. -/
  running : List Path
  /-- How many files may be converted at a time. -/
  limit : Nat

namespace Pool

/-- The pool before the first file is started.  At least one file is converted at a
time. -/
def start (files : List Path) (concurrency : Nat) : Pool := ⟨files, [], max concurrency 1⟩

/-- Starts the next file, if there is one and there is room for it. -/
def next? (p : Pool) : Option (Path × Pool) :=
  if p.running.length < p.limit then
    match p.waiting with
    | path :: waiting => some (path, { p with waiting := waiting, running := p.running ++ [path] })
    | [] => none
  else none

/-- Ends the conversion of a file. -/
def finish (p : Pool) (path : Path) : Pool := { p with running := p.running.erase path }

/-- Are all files loaded? -/
def isDone (p : Pool) : Bool := p.waiting.isEmpty && p.running.isEmpty

end Pool
end Scan
end LiveNotebooks
