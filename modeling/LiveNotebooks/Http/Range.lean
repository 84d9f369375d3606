import LiveNotebooks.System.Path
import LiveNotebooks.Text.Digits

/-!
# Byte ranges

A range header asks for parts of a file: from one byte to another, from a byte on, or the
last bytes.  A header that is not of this form is treated like one that asks for bytes
which the file does not have.
-/

namespace LiveNotebooks
namespace Http

/-- A part of a file, both ends included. -/
structure ByteRange where
  first : Nat
  last : Nat
  deriving DecidableEq

namespace ByteRange

/-- What a range asks for. -/
inductive Wish where
  | fromTo (first last : Nat)
  | from_ (first : Nat)
  | last (count : Nat)

/-- A number in digits, with no zero in front of others. -/
def number? (s : Bytes) : Option Nat :=
  if s = [] || (s.head? = some 0x30 && s ≠ [0x30]) then none
  else
    match s.foldlM (fun n b => (Digits.value? b).map fun d => 10 * n + d) 0 with
    | some n => if n < Nat.pow 2 64 then some n else none
    | none => none

def unit : Bytes := Utf8.encode "bytes="

def isBlank (b : UInt8) : Bool := b = 0x20 || b = 0x09

/-- A range without the blank in front of it.  It may have one there and none elsewhere. -/
def trim? : Bytes → Option Bytes
  | [] => some []
  | b :: rest =>
      if rest.any isBlank then none
      else if !isBlank b then some (b :: rest)
      else if rest = [] then none
      else some rest

/-- What a range without blanks asks for. -/
def bareWish? (s : Bytes) : Option Wish :=
  match Path.splitAt 0x2D s with
  | [[], count] =>
      match number? count with
      | some 0 => none
      | some n => some (.last n)
      | none => none
  | [first, []] => (number? first).map .from_
  | [first, last] =>
      match number? first, number? last with
      | some a, some b => some (.fromTo a b)
      | _, _ => none
  | _ => none

/-- One range. -/
def wish? (s : Bytes) : Option Wish := (trim? s).bind bareWish?

/-- The ranges of a header; the first has no blank in front of it. -/
def wishes? (value : Bytes) : Option (List Wish) :=
  let ranges := value.drop unit.length
  if unit.isPrefixOf value && !ranges.head?.any isBlank then
    (Path.splitAt 0x2C ranges).mapM wish?
  else none

def ordered? (first last : Nat) : Option ByteRange :=
  if first ≤ last then some ⟨first, last⟩ else none

/-- The part of a file of the given size that a range asks for.  An empty file has the
part from 0 to 0, for want of a smaller one. -/
def grant? (size : Nat) (w : Wish) : Option ByteRange :=
  match w with
  | .fromTo a b => ordered? a (min b (size - 1))
  | .from_ a => ordered? a (size - 1)
  | .last n => if n ≤ size then ordered? (size - n) (size - 1) else none

def overlapping : List ByteRange → Bool
  | [] => false
  | r :: rest => rest.any (fun s => r.first ≤ s.last && s.first ≤ r.last) || overlapping rest

/-- The parts that a header asks for, if the file has them all. -/
def parse? (size : Nat) (value : Bytes) : Option (List ByteRange) := do
  let wishes ← wishes? value
  let ranges ← wishes.mapM (grant? size)
  if overlapping ranges then none else some ranges

end ByteRange
end Http
end LiveNotebooks
