import LiveNotebooks.Json.Printer
import LiveNotebooks.Json.Record
import LiveNotebooks.Notebook

/-!
# The wire format of notebooks

A notebook and a summary are written as objects, in which the title is called `name`.
They are read from objects with these members, or from lists of the values alone.
-/

namespace LiveNotebooks

/-- The value that stands for a notebook. -/
def Notebook.toJson (n : Notebook) : Json.Value :=
  .object
    [("identifier", .text n.identifier), ("name", .text n.title), ("author", .text n.author),
      ("contents", n.contents), ("updated_at", .text n.updatedAt.zuluText)]

/-- The value that stands for a summary. -/
def Summary.toJson (s : Summary) : Json.Value :=
  .object
    [("identifier", .text s.identifier), ("name", .text s.title), ("author", .text s.author),
      ("updated_at", .text s.updatedAt.zuluText)]

structure NotebookFields where
  identifier : Option String := none
  title : Option String := none
  author : Option String := none
  contents : Option Json.Value := none
  updatedAt : Option Instant := none

namespace NotebookFields

open Json

def readText : PartReader String := readString "a string"

def readInstant : PartReader Instant :=
  readDenoting "an RFC 3339 formatted date and time string" fun s =>
    (Instant.parse s).mapError Instant.Fault.message

/-- Reads a field by a reader and stores the value. -/
def store {α : Type} (reader : PartReader α) (set : NotebookFields → α → NotebookFields)
    (fields : NotebookFields) : PartReader NotebookFields :=
  fun fuel levels text =>
    (reader fuel levels text).map fun r => (set fields r.1, r.2)

def identifierField : Json.Field NotebookFields where
  name := "identifier"
  isGiven r := r.identifier.isSome
  read := store readText fun r s => { r with identifier := some s }

def titleField : Json.Field NotebookFields where
  name := "name"
  isGiven r := r.title.isSome
  read := store readText fun r s => { r with title := some s }

def authorField : Json.Field NotebookFields where
  name := "author"
  isGiven r := r.author.isSome
  read := store readText fun r s => { r with author := some s }

def contentsField : Json.Field NotebookFields where
  name := "contents"
  isGiven r := r.contents.isSome
  read := store readAny fun r v => { r with contents := some v }

def updatedAtField : Json.Field NotebookFields where
  name := "updated_at"
  isGiven r := r.updatedAt.isSome
  read := store readInstant fun r t => { r with updatedAt := some t }

/-- A field that must have been read, or its index. -/
def required {α : Type} (index : Nat) (field : Option α) : Except Nat α :=
  match field with
  | some a => .ok a
  | none => .error index

def notebook? (r : NotebookFields) : Except Nat Notebook := do
  let identifier ← required 0 r.identifier
  let title ← required 1 r.title
  let author ← required 2 r.author
  let contents ← required 3 r.contents
  let updatedAt ← required 4 r.updatedAt
  pure ⟨identifier, title, author, contents, updatedAt⟩

def summary? (r : NotebookFields) : Except Nat Summary := do
  let identifier ← required 0 r.identifier
  let title ← required 1 r.title
  let author ← required 2 r.author
  let updatedAt ← required 3 r.updatedAt
  pure ⟨identifier, title, author, updatedAt⟩

end NotebookFields

open NotebookFields

/-- How a notebook is read. -/
def Notebook.schema : Json.Schema NotebookFields Notebook where
  title := "struct Notebook"
  fields := [identifierField, titleField, authorField, contentsField, updatedAtField]
  blank := {}
  finish := notebook?

/-- How a summary is read. -/
def Summary.schema : Json.Schema NotebookFields Summary where
  title := "struct NotebookSummary"
  fields := [identifierField, titleField, authorField, updatedAtField]
  blank := {}
  finish := summary?

def Notebook.parse (text : Bytes) : Except Json.Error Notebook := Notebook.schema.parse text

def Summary.parse (text : Bytes) : Except Json.Error Summary := Summary.schema.parse text

end LiveNotebooks
