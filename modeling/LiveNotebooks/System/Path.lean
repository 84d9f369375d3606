import LiveNotebooks.Text.Utf8

/-!
# Paths

A path is a byte list; its parts stand between slashes.  Empty parts and single dots
count for nothing, so a trailing slash does not hide the name of a path.

**Results.**
* `fileName` is the last part, unless that leads upwards.
* `name` is its text, in which broken bytes are U+FFFD.
-/

namespace LiveNotebooks

/-- The name of a place in the file tree. -/
abbrev Path := Bytes

namespace Path

/-- Splits a text at every byte `sep`. -/
def splitAt (sep : UInt8) : Bytes → List Bytes
  | [] => [[]]
  | b :: rest =>
      if b = sep then [] :: splitAt sep rest
      else
        match splitAt sep rest with
        | [] => [[b]]
        | part :: parts => (b :: part) :: parts

/-- The part that stands for the same place. -/
def dot : Bytes := [0x2E]

/-- The part that leads upwards. -/
def dotDot : Bytes := [0x2E, 0x2E]

/-- The parts that count. -/
def parts (path : Path) : List Bytes :=
  (splitAt 0x2F path).filter fun part => part ≠ [] && part ≠ dot

def fileName (path : Path) : Option Bytes :=
  match (parts path).getLast? with
  | some part => if part = dotDot then none else some part
  | none => none

/-- The text of the last part. -/
def name (path : Path) : Option String := (fileName path).map Utf8.decodeLossy

def display (path : Path) : String := Utf8.decodeLossy path

def isHidden (path : Path) : Bool :=
  match name path with
  | some name => name.toList.head? = some '.'
  | none => false

def isAbsolute (path : Path) : Bool := path.head? = some 0x2F

/-- The path of an entry of a directory. -/
def join (directory : Path) (entry : Bytes) : Path :=
  if directory.getLast? = some 0x2F || directory = [] then directory ++ entry
  else directory ++ 0x2F :: entry

/-- The path that leads from a directory through some parts. -/
def joinAll (directory : Path) (parts : List Bytes) : Path :=
  match parts with
  | [] => directory
  | part :: rest => join directory (part ++ rest.flatMap fun part => 0x2F :: part)

end Path
end LiveNotebooks
