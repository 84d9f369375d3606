import LiveNotebooks.Text.Utf8

/-!
# Growing texts

A text that is written from left to right.  The bytes written so far are kept newest
first, so a write costs what it adds; `toBytes` is the text, and every operation is
described by it.
-/

namespace LiveNotebooks

/-- A text under construction. -/
structure Output where
  /-- The bytes written so far, newest first. -/
  newestFirst : Bytes

namespace Output

/-- Nothing written yet. -/
def empty : Output := ⟨[]⟩

/-- The text written so far. -/
def toBytes (out : Output) : Bytes := out.newestFirst.reverse

/-- Writes a byte. -/
def push (out : Output) (b : UInt8) : Output := ⟨b :: out.newestFirst⟩

/-- Writes a list of bytes. -/
def append (out : Output) (bytes : Bytes) : Output :=
  ⟨bytes.reverseAux out.newestFirst⟩

/-- Writes a string. -/
def text (out : Output) (s : String) : Output := out.append (Utf8.encode s)

@[simp] theorem toBytes_empty :
    empty.toBytes = [] := by
  rfl

@[simp] theorem toBytes_push
    (out : Output)
    (b : UInt8) :
    (out.push b).toBytes = out.toBytes ++ [b] := by
  simp [push, toBytes]

@[simp] theorem toBytes_append
    (out : Output)
    (bytes : Bytes) :
    (out.append bytes).toBytes = out.toBytes ++ bytes := by
  simp [append, toBytes, List.reverseAux_eq]

@[simp] theorem toBytes_text
    (out : Output)
    (s : String) :
    (out.text s).toBytes = out.toBytes ++ Utf8.encode s := by
  simp [text]

end Output
end LiveNotebooks
