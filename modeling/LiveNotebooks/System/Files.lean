import LiveNotebooks.System.Error
import LiveNotebooks.System.Path

/-!
# The file tree

A tree of directories, files, pipes and symbolic links, listed entry by entry with the
location of each.  Look-ups resolve paths as the operating system does: part by part,
links included, with a bound on the number of links.

**Results.**
* `Files.stat` is the entry at a path, links followed.
* `Files.read` is the contents of a file.
* `Files.write` is the tree after a file is written.
* `Files.names` are the names in a directory, in order.
-/

namespace LiveNotebooks

/-- The parts that lead from the root to an entry. -/
abbrev Location := List Bytes

/-- What stands at a location. -/
inductive Entry where
  | file (content : Bytes) (mode : Nat)
  | directory
  | link (target : Path)
  | pipe

namespace Entry

def isFile : Entry → Bool
  | .file .. => true
  | _ => false

def isDirectory : Entry → Bool
  | .directory => true
  | _ => false

/-- May anybody run the entry as a program? -/
def isExecutable : Entry → Bool
  | .file _ mode => mode &&& 0o111 ≠ 0
  | _ => false

end Entry

/-- Why a file cannot be used. -/
inductive FileError where
  | system (error : SystemError)
  /-- A path that no system call takes. -/
  | zeroByte
  /-- Contents that are not UTF-8. -/
  | notText
  /-- Any other reason. -/
  | other (reason : String)
  deriving DecidableEq

namespace FileError

def describe : FileError → String
  | .system e => e.describe
  | .zeroByte => "file name contained an unexpected NUL byte"
  | .notText => "stream did not contain valid UTF-8"
  | .other reason => reason

/-- The text of an error without a number. -/
def reason : FileError → String
  | .system e => e.reason
  | e => e.describe

end FileError

/-- A file tree, and the directory at which relative paths start. -/
structure Files where
  entries : List (Location × Entry)
  workingDirectory : Location
  /-- When the files were last changed, in seconds since 1970-01-01. -/
  changedAt : Int

namespace Files

/-- The entry at a location; the root is a directory. -/
def entryAt? (files : Files) (location : Location) : Option Entry :=
  if location = [] then some .directory
  else (files.entries.find? fun e => e.1 = location).map Prod.snd

/-- The parts of a path in the order in which they are visited.  A trailing slash is a
visit to the directory itself. -/
def steps (path : Path) : List Bytes :=
  let parts := (Path.splitAt 0x2F path).filter (· ≠ [])
  if path.getLast? = some 0x2F then parts ++ [Path.dot] else parts

/-- The location at which a path starts. -/
def origin (path : Path) (relative : Location) : Location :=
  if Path.isAbsolute path then [] else relative

def pathOf (location : Location) : Path :=
  if location = [] then [0x2F] else location.flatMap fun part => 0x2F :: part

/-- A location and what stands there. -/
abbrev Place := Location × Option Entry

/-- Visits the parts of a path from the directory `here`.  `follow` takes over at a link,
given the place of the link, its target and the parts still to visit.  The last part
is not followed unless `followLast`, and need not be there. -/
def descend (files : Files) (followLast : Bool)
    (follow : Location → Path → List Bytes → Except FileError Place) :
    List Bytes → Location → Except FileError Place
  | [], here => .ok (here, some .directory)
  | part :: rest, here =>
      if part = Path.dot then descend files followLast follow rest here
      else if part = Path.dotDot then descend files followLast follow rest here.dropLast
      else if 255 < part.length then .error (.system .nameTooLong)
      else
        let there := here ++ [part]
        match files.entryAt? there with
        | none => if rest.isEmpty then .ok (there, none) else .error (.system .notFound)
        | some .directory => descend files followLast follow rest there
        | some (.link target) =>
            if rest.isEmpty && !followLast then .ok (there, some (.link target))
            else follow here target rest
        | some entry =>
            if rest.isEmpty then .ok (there, some entry) else .error (.system .notDirectory)

/-- Visits the parts of a path with at most the given number of links. -/
def resolve (files : Files) (followLast : Bool) :
    Nat → List Bytes → Location → Except FileError Place
  | 0 => descend files followLast fun _ _ _ => .error (.system .linkLoop)
  | links + 1 =>
      descend files followLast fun here target rest =>
        resolve files followLast links (steps target ++ rest) (origin target here)

/-- The number of links on the way of one path. -/
def maxLinks : Nat := 40

/-- The location of a path, and what stands there. -/
def place (files : Files) (followLast : Bool) (path : Path) : Except FileError Place :=
  if path.contains 0 then .error .zeroByte
  else if path = [] then .error (.system .notFound)
  else if 4096 ≤ path.length then .error (.system .nameTooLong)
  else files.resolve followLast maxLinks (steps path) (origin path files.workingDirectory)

/-- Finds the entry at a path. -/
def find (files : Files) (followLast : Bool) (path : Path) :
    Except FileError (Location × Entry) :=
  match files.place followLast path with
  | .ok (location, some entry) => .ok (location, entry)
  | .ok (_, none) => .error (.system .notFound)
  | .error e => .error e

/-- The entry at a path, links followed. -/
def stat (files : Files) (path : Path) : Except FileError (Location × Entry) :=
  files.find true path

/-- Does a regular file stand at the path, links followed? -/
def isFile (files : Files) (path : Path) : Bool :=
  match files.stat path with
  | .ok (_, entry) => entry.isFile
  | .error _ => false

/-- Does a directory stand at the path, links followed? -/
def isDirectory (files : Files) (path : Path) : Bool :=
  match files.stat path with
  | .ok (_, entry) => entry.isDirectory
  | .error _ => false

/-- The contents of the file at a path. -/
def read (files : Files) (path : Path) : Except FileError Bytes :=
  match files.stat path with
  | .ok (_, .file content _) => .ok content
  | .ok (_, .directory) => .error (.system .isDirectory)
  | .ok (_, _) => .ok []
  | .error e => .error e

/-- Names in the order of their bytes. -/
def nameBefore (a b : Bytes) : Bool := !decide (b < a)

/-- The name of an entry that stands right in a directory. -/
def childName? (directory location : Location) : Option Bytes :=
  match location.getLast? with
  | some name => if location.dropLast = directory then some name else none
  | none => none

def names (files : Files) (directory : Location) : List Bytes :=
  (files.entries.filterMap fun e => childName? directory e.1).mergeSort nameBefore

/-- Puts an entry at a location, in place of what stands there. -/
def put (files : Files) (location : Location) (entry : Entry) : Files :=
  { files with entries := files.entries.filter (fun e => e.1 ≠ location) ++ [(location, entry)] }

/-- Makes the directories that some parts lead through from the directory `here` and that
are missing.  Links on the way are followed. -/
def makeWay : List Bytes → Location → Files → Files
  | [], _, files => files
  | part :: rest, here, files =>
      if part = Path.dotDot then makeWay rest here.dropLast files
      else
        let there := here ++ [part]
        match files.entryAt? there with
        | none => makeWay rest there (files.put there .directory)
        | some .directory => makeWay rest there files
        | some _ =>
            match files.resolve true maxLinks [part] here with
            | .ok (target, some .directory) => makeWay rest target files
            | _ => files

/-- Makes the directories that some parts of a path lead through. -/
def makeDirectories (files : Files) (path : Path) (parts : List Bytes) : Files :=
  makeWay parts (origin path files.workingDirectory) files

/-- Writes a file.  A file that is there keeps its mode, and a link is written through. -/
def write (files : Files) (path : Path) (content : Bytes) (mode : Nat) : Files :=
  match files.place true path with
  | .ok (location, none) => files.put location (.file content mode)
  | .ok (location, some (.file _ mode)) => files.put location (.file content mode)
  | _ => files

/-- Puts an entry at a path where nothing stands. -/
def putNew (files : Files) (path : Path) (entry : Entry) : Files :=
  match files.place false path with
  | .ok (location, none) => files.put location entry
  | _ => files

/-- Puts an entry at a path and makes the directories on the way. -/
def create (files : Files) (path : Path) (entry : Entry) : Files :=
  let parts := Path.parts path
  match entry with
  | .directory => files.makeDirectories path parts
  | .file content mode => (files.makeDirectories path parts.dropLast).write path content mode
  | _ => (files.makeDirectories path parts.dropLast).putNew path entry

/-- Gives the file at a path a mode. -/
def setMode (files : Files) (path : Path) (mode : Nat) : Files :=
  match files.stat path with
  | .ok (location, .file content _) => files.put location (.file content mode)
  | _ => files

/-- Removes what stands at a path, with everything below it. -/
def remove (files : Files) (path : Path) : Files :=
  match files.find false path with
  | .ok (location, _) =>
      { files with entries := files.entries.filter fun e => !location.isPrefixOf e.1 }
  | .error _ => files

end Files
end LiveNotebooks
