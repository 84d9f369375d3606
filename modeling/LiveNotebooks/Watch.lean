import LiveNotebooks.Reload
import LiveNotebooks.Text.Quoted

/-!
# Watching the notebook directory

The operating system tells about changes.  Only news that data was written, or that
something was modified in a way that is not told, ask for reloads, one for each path that
is not hidden.  All other news are logged.
-/

namespace LiveNotebooks
namespace Watch

inductive Kind where
  /-- Data was written. -/
  | data (name : String)
  /-- Something was modified. -/
  | unspecified (name : String)
  /-- Anything else. -/
  | other (name : String)
  deriving DecidableEq

namespace Kind

def name : Kind → String
  | .data name | .unspecified name | .other name => name

/-- The beginning of the names of changes of data. -/
def dataMark : List Char := "Modify(Data(".toList

def ofName (name : String) : Kind :=
  if name = "Modify(Any)" then .unspecified name
  else if dataMark.isPrefixOf name.toList then .data name
  else .other name

/-- Does the kind ask for reloads? -/
def isWrite : Kind → Bool
  | .data _ | .unspecified _ => true
  | .other _ => false

end Kind

/-- News of the operating system. -/
inductive Notice where
  | change (kind : Kind) (paths : List Path)
  | failure (message : String)

namespace Notice

/-- The paths for which reloads are asked. -/
def wanted : Notice → List Path
  | .change kind paths => if kind.isWrite then paths.filter (!Path.isHidden ·) else []
  | .failure _ => []

/-- The lines on news that ask for no reloads. -/
def lines : Notice → List LogLine
  | .change kind paths =>
      if kind.isWrite then []
      else [.debug ("ignoring " ++ kind.name ++ " on " ++ Quoted.names paths)]
  | .failure message => [.warning ("notebook watcher error: " ++ message)]

end Notice

/-- Asks for the reloads of some paths, in their order. -/
def scheduleAll : Reload.State → List Path → Reload.State × List Reload.Task
  | s, [] => (s, [])
  | s, path :: paths =>
      match s.schedule path with
      | none => scheduleAll s paths
      | some (s, task) =>
          let (s, tasks) := scheduleAll s paths
          (s, task :: tasks)

/-- What the news ask for. -/
def react (s : Reload.State) (notice : Notice) : Reload.State × List Reload.Task × List LogLine :=
  let (s, tasks) := scheduleAll s notice.wanted
  (s, tasks, notice.lines)

/-- The line when there will be no more news. -/
def closedLine : LogLine :=
  .warning "notebook watcher channel closed, live reload stopped"

def startedLine (directory : Path) : LogLine :=
  .info ("watching " ++ Path.display directory ++ " for changes")

/-- Why a path cannot be watched. -/
structure StartError where
  path : Path
  reason : FileError
  deriving DecidableEq

def StartError.message (e : StartError) : String :=
  e.reason.describe ++ " about " ++ Quoted.names [e.path]

/-- A path that starts at the root, in place of one that starts at the working directory. -/
def absolute (files : Files) (path : Path) : Path :=
  if Path.isAbsolute path then path else Path.join (Files.pathOf files.workingDirectory) path

def start (files : Files) (path : Path) : Except StartError LogLine :=
  let place := absolute files path
  if place.contains 0 then .error ⟨place, .other "data provided contains a nul byte"⟩
  else
    match files.stat place with
    | .ok _ => .ok (startedLine path)
    | .error e => .error ⟨place, e⟩

end Watch
end LiveNotebooks
