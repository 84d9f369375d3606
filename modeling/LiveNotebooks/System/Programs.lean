import LiveNotebooks.System.Files
import LiveNotebooks.Log

/-!
# Finding and starting programs

A program is named by a path, or by a name that is looked up in the directories of the
search path, in their order.  Only regular files that somebody may run count.

A file can be started if it is native code, or a script whose first line names an
interpreter that can be started.
-/

namespace LiveNotebooks

/-- Why a program is not found. -/
inductive LocateReason where
  | nowhere
  /-- There are no directories to search. -/
  | noSearchPath
  deriving DecidableEq

def LocateReason.describe : LocateReason → String
  | .nowhere => "cannot find binary path"
  | .noSearchPath => "no path to search and provided name is not an absolute path"

/-- An interpreter that is not found. -/
structure InterpreterNotFound where
  name : String
  reason : LocateReason
  deriving DecidableEq

/-- The text of the error. -/
def InterpreterNotFound.message (e : InterpreterNotFound) : String :=
  "interpreter `" ++ e.name ++ "` not found on PATH: " ++ e.reason.describe

structure StartedProgram where
  /-- Where its native code stands. -/
  location : Location
  /-- Its arguments; the first is the name by which it is called. -/
  arguments : List Bytes

namespace Files

/-- May the file at the path be run? -/
def isProgram (files : Files) (path : Path) : Bool :=
  match files.stat path with
  | .ok (_, entry) => entry.isExecutable
  | .error _ => false

/-- Does a name say where the program is?  It is absolute or has more than one part; a
single dot at the start counts as a part. -/
def namesPlace (name : Path) : Bool :=
  let startsHere := (Path.splitAt 0x2F name).head? = some Path.dot
  Path.isAbsolute name || 2 ≤ (if startsHere then 1 else 0) + (Path.parts name).length

/-- The places at which a program may be. -/
def candidates (files : Files) (searchPath : Option Bytes) (name : Path) :
    Except LocateReason (List Path) :=
  if namesPlace name then
    .ok
      [if Path.isAbsolute name then name
        else Path.joinAll (pathOf files.workingDirectory) (Path.parts name)]
  else
    match searchPath with
    | none => .error .noSearchPath
    | some directories => .ok ((Path.splitAt 0x3A directories).map (Path.join · name))

/-- Finds a program. -/
def locate (files : Files) (searchPath : Option Bytes) (name : String) :
    Except InterpreterNotFound Path :=
  match files.candidates searchPath (Utf8.encode name) with
  | .error reason => .error ⟨name, reason⟩
  | .ok places =>
      match places.find? files.isProgram with
      | some path => .ok path
      | none => .error ⟨name, .nowhere⟩

/-- The log line when an interpreter is found. -/
def usingLine (path : Path) : LogLine := .debug ("using interpreter " ++ Path.display path)

/-- Contents of native code start with this. -/
def nativeMark : Bytes := [0x7F, 0x45, 0x4C, 0x46]

def nativeHeaderLength : Nat := 64

def segmentEntryLength : Nat := 56

/-- The number in some bytes of the contents, of which the first counts least. -/
def numberAt (content : Bytes) (offset width : Nat) : Nat :=
  ((content.drop offset).take width).foldr (fun b n => n * 256 + b.toNat) 0

/-- Are the contents native code?  The header tells a kind of file that can be run, the
machine, and a table of segments that lies in the file. -/
def isNative (content : Bytes) : Bool :=
  let kind := numberAt content 16 2
  let segments := numberAt content 56 2
  nativeMark.isPrefixOf content && nativeHeaderLength ≤ content.length
    && (kind = 2 || kind = 3) && numberAt content 18 2 = 62
    && numberAt content 54 2 = segmentEntryLength && 0 < segments
    && numberAt content 32 8 + segments * segmentEntryLength ≤ content.length

/-- The mark of a script that names its interpreter. -/
def scriptMark : Bytes := [0x23, 0x21]

/-- How much of a script is looked at. -/
def scriptHeadLength : Nat := 256

/-- A blank in the first line of a script. -/
def isBlank (b : UInt8) : Bool := b = 0x20 || b = 0x09

/-- Does the byte belong to a word of a first line? -/
def isWordByte (b : UInt8) : Bool := !isBlank b && b ≠ 0

/-- The bytes up to a blank or a zero byte. -/
def firstWord (line : Bytes) : Bytes := line.takeWhile isWordByte

/-- What stands behind the first word, up to a zero byte and without blanks at its ends, if
there is anything. -/
def furtherWords (line : Bytes) : List Bytes :=
  let rest := ((line.dropWhile isWordByte).takeWhile (· ≠ 0)).dropWhile isBlank
  if rest = [] then [] else [(rest.reverse.dropWhile isBlank).reverse]

/-- The program that a script names in its first line, of which only so much is looked at,
and the argument that may stand behind the name.  A name that may go on behind that counts
for nothing. -/
def scriptCall? (content : Bytes) : Option (Path × List Bytes) :=
  if scriptMark.isPrefixOf content then
    let head := (content ++ List.replicate scriptHeadLength 0).take scriptHeadLength
    let line := (head.drop scriptMark.length).takeWhile (· ≠ 0x0A)
    let text := line.dropWhile isBlank
    if head.contains 0x0A then
      if text = [] then none else some (firstWord text, furtherWords text)
    else if text.length ≤ 1 || !text.any (fun b => isBlank b || b = 0) then none
    else some (firstWord text, furtherWords text)
  else none

/-- The place and the contents of the program at a path. -/
def openProgram (files : Files) (path : Path) : Except FileError (Location × Bytes) :=
  match files.stat path with
  | .error e => .error e
  | .ok (location, .file content mode) =>
      if mode &&& 0o111 = 0 then .error (.system .denied) else .ok (location, content)
  | .ok _ => .error (.system .denied)

/-- What runs when the program at a path is called by a name with arguments.  A script is an
argument of its interpreter, which may be a script again, up to a number of times. -/
def load (files : Files) :
    Nat → Path → Path → List Bytes → Except FileError StartedProgram
  | scripts, name, path, arguments =>
      match files.openProgram path with
      | .error e => .error e
      | .ok (location, content) =>
          if isNative content then .ok ⟨location, name :: arguments⟩
          else
            match scriptCall? content with
            | none => .error (.system .notRunnable)
            | some (interpreter, words) =>
                match files.openProgram interpreter, scripts with
                | .error e, _ => .error e
                | .ok _, 0 => .error (.system .linkLoop)
                | .ok _, scripts + 1 =>
                    load files scripts interpreter interpreter (words ++ path :: arguments)

/-- The number of interpreters that may be scripts. -/
def maxScripts : Nat := 5

/-- The length of an argument that is too long. -/
def tooLongArgument : Nat := 131072

/-- The path of the program with a name.  A name without a slash is looked up. -/
def programPath (files : Files) (searchPath : Bytes) (name : Path) : Path :=
  if name.contains 0x2F then name
  else
    (((Path.splitAt 0x3A searchPath).map (Path.join · name)).find? files.isProgram).getD name

/-- Starts the program with a name with arguments. -/
def start (files : Files) (searchPath : Bytes) (name : Path) (arguments : List Bytes) :
    Except FileError StartedProgram :=
  let path := files.programPath searchPath name
  if name.contains 0 || arguments.any (·.contains 0) then
    .error (.other "nul byte found in provided data")
  else
    match files.openProgram path with
    | .error e => .error e
    | .ok _ =>
        if arguments.any fun a => tooLongArgument ≤ a.length then
          .error (.system .argumentsTooLong)
        else files.load maxScripts name path arguments

end Files
end LiveNotebooks
