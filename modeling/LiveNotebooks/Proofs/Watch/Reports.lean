import LiveNotebooks.Watch

/-!
# What the operating system reports

A report of a change says what kind of change it is, and which paths it is about.  The watch
goes by the name of the kind.

**Results.**
* `isWrite_ofName`: the watch takes for writes just the changes of data and the modifications
  that are not told.
* `Report.wanted_notice`: for which paths of a report reloads are asked.
-/

namespace LiveNotebooks
namespace Watch

/-! ## Kinds of changes -/

/-- How a file is opened or closed. -/
inductive Mode where
  | any
  | execute
  | read
  | write
  | other

/-- How a file is used. -/
inductive Access where
  | any
  | read
  | opening (mode : Mode)
  | closing (mode : Mode)
  | other

/-- What is made or removed. -/
inductive Entry where
  | any
  | file
  | folder
  | other

inductive Data where
  | any
  | size
  | content
  | other

/-- What is changed of a file besides its data. -/
inductive Metadata where
  | any
  | accessTime
  | writeTime
  | permissions
  | ownership
  | extended
  | other

/-- Which names of a renamed file are told. -/
inductive Names where
  | any
  | new
  | old
  | both
  | other

inductive Modification where
  | any
  | data (data : Data)
  | metadata (metadata : Metadata)
  | names (names : Names)
  | other

inductive Change where
  | any
  | access (access : Access)
  | creation (entry : Entry)
  | modification (modification : Modification)
  | removal (entry : Entry)
  | other

/-! ## Names of changes -/

def Mode.name : Mode → String
  | .any => "Any"
  | .execute => "Execute"
  | .read => "Read"
  | .write => "Write"
  | .other => "Other"

def Access.name : Access → String
  | .any => "Any"
  | .read => "Read"
  | .opening mode => "Open(" ++ mode.name ++ ")"
  | .closing mode => "Close(" ++ mode.name ++ ")"
  | .other => "Other"

def Entry.name : Entry → String
  | .any => "Any"
  | .file => "File"
  | .folder => "Folder"
  | .other => "Other"

def Data.name : Data → String
  | .any => "Any"
  | .size => "Size"
  | .content => "Content"
  | .other => "Other"

def Metadata.name : Metadata → String
  | .any => "Any"
  | .accessTime => "AccessTime"
  | .writeTime => "WriteTime"
  | .permissions => "Permissions"
  | .ownership => "Ownership"
  | .extended => "Extended"
  | .other => "Other"

def Names.name : Names → String
  | .any => "Any"
  | .new => "To"
  | .old => "From"
  | .both => "Both"
  | .other => "Other"

def Modification.name : Modification → String
  | .any => "Any"
  | .data d => "Data(" ++ d.name ++ ")"
  | .metadata m => "Metadata(" ++ m.name ++ ")"
  | .names n => "Name(" ++ n.name ++ ")"
  | .other => "Other"

def Change.name : Change → String
  | .any => "Any"
  | .access a => "Access(" ++ a.name ++ ")"
  | .creation e => "Create(" ++ e.name ++ ")"
  | .modification m => "Modify(" ++ m.name ++ ")"
  | .removal e => "Remove(" ++ e.name ++ ")"
  | .other => "Other"

/-- Is data written, or something modified that is not told? -/
def Change.isWrite : Change → Bool
  | .modification .any | .modification (.data _) => true
  | _ => false

/-- The watch takes for writes what is one. -/
theorem isWrite_ofName
    (change : Change) :
    (Kind.ofName change.name).isWrite = change.isWrite := by
  cases change with
  | any => decide +kernel
  | access a =>
      cases a with
      | opening mode => cases mode <;> decide +kernel
      | closing mode => cases mode <;> decide +kernel
      | _ => decide +kernel
  | creation e => cases e <;> decide +kernel
  | modification m =>
      cases m with
      | data d => cases d <;> decide +kernel
      | metadata m => cases m <;> decide +kernel
      | names n => cases n <;> decide +kernel
      | _ => decide +kernel
  | removal e => cases e <;> decide +kernel
  | other => decide +kernel

/-! ## Reports -/

/-- What the operating system tells the watch. -/
inductive Report where
  | change (what : Change) (paths : List Path)
  | failure (message : String)

/-- Does the name of a path, if it has one, begin with something else than a dot? -/
def isShown (path : Path) : Bool :=
  (Path.name path).all fun name => name.toList.head? ≠ some '.'

theorem isShown_eq
    (path : Path) :
    isShown path = !Path.isHidden path := by
  unfold isShown Path.isHidden
  cases Path.name path with
  | none => rfl
  | some name => simp

namespace Report

/-- The paths of a write that are shown. -/
def asked : Report → List Path
  | .change what paths => if what.isWrite then paths.filter isShown else []
  | .failure _ => []

def notice : Report → Notice
  | .change what paths => .change (Kind.ofName what.name) paths
  | .failure message => .failure message

/-- Reloads are asked for the paths of a write that are shown, and for nothing else. -/
theorem wanted_notice
    (r : Report) :
    r.notice.wanted = r.asked := by
  cases r with
  | change what paths =>
      simp only [notice, asked, Notice.wanted, isWrite_ofName]
      exact congrArg (fun f => if what.isWrite then paths.filter f else [])
        (funext fun path => (isShown_eq path).symm)
  | failure message => rfl

end Report
end Watch
end LiveNotebooks
