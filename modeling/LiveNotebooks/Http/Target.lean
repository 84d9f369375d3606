import LiveNotebooks.System.Path
import LiveNotebooks.Text.Digits

/-!
# Request targets

A target is a path with an optional query, possibly behind a scheme and an authority.  A
fragment counts for nothing.  In a path a percent sign and two hexadecimal digits stand
for a byte; a percent sign without digits stands for itself.

**Results.**
* `percentDecode_percentEncode`: an encoded text is decoded to itself.
-/

namespace LiveNotebooks
namespace Http

structure Target where
  /-- Scheme and authority as they are written, the two usual schemes in lower case. -/
  origin : Bytes
  path : Bytes
  query : Option Bytes

namespace Target

def schemeMark : Bytes := [0x3A, 0x2F, 0x2F]

/-- Splits a text in front of the first occurrence of `schemeMark`. -/
def splitScheme : Bytes → Bytes → Option (Bytes × Bytes)
  | [], _ => none
  | b :: rest, scheme =>
      if schemeMark.isPrefixOf (b :: rest) then some (scheme.reverse, (b :: rest).drop 3)
      else splitScheme rest (b :: scheme)

def lower (b : UInt8) : UInt8 := if 0x41 ≤ b && b ≤ 0x5A then b + 0x20 else b

/-- The usual schemes in lower case, others as they are written. -/
def foldScheme (scheme : Bytes) : Bytes :=
  let folded := scheme.map lower
  if folded = Utf8.encode "http" || folded = Utf8.encode "https" then folded else scheme

def endsAuthority (b : UInt8) : Bool := b = 0x2F || b = 0x3F || b = 0x23

def splitQuery (text : Bytes) : Bytes × Option Bytes :=
  let path := text.takeWhile (· ≠ 0x3F)
  (path, if text.contains 0x3F then some (text.drop (path.length + 1)) else none)

def parse (text : Bytes) : Target :=
  let text := text.takeWhile (· ≠ 0x23)
  if text.head? = some 0x2F then
    let (path, query) := splitQuery text
    ⟨[], path, query⟩
  else
    match splitScheme text [] with
    | some (scheme, rest) =>
        let authority := rest.takeWhile (!endsAuthority ·)
        let (path, query) := splitQuery (rest.drop authority.length)
        let origin := foldScheme scheme ++ schemeMark ++ authority
        ⟨origin, if path = [] then [0x2F] else path, query⟩
    | none =>
        let (path, query) := splitQuery text
        ⟨[], path, query⟩

def text (t : Target) : Bytes :=
  t.origin ++ t.path ++ (match t.query with
    | some q => 0x3F :: q
    | none => [])

end Target

/-- The byte in front of two hexadecimal digits. -/
def percent : UInt8 := 0x25

/-- Replaces every percent sign with two digits by the byte. -/
def percentDecode : Bytes → Bytes
  | [] => []
  | [b] => [b]
  | [b, c] => [b, c]
  | a :: b :: c :: rest =>
      match Digits.hexValue? b, Digits.hexValue? c with
      | some high, some low =>
          if a = percent then (high * 16 + low).toUInt8 :: percentDecode rest
          else a :: percentDecode (b :: c :: rest)
      | _, _ => a :: percentDecode (b :: c :: rest)

/-- A byte that stands for itself in an encoded text: letters, digits, `-`, `_` and `~`. -/
def isUnreserved (b : UInt8) : Bool :=
  (0x30 ≤ b && b ≤ 0x39) || (0x41 ≤ b && b ≤ 0x5A) || (0x61 ≤ b && b ≤ 0x7A)
    || b = 0x2D || b = 0x5F || b = 0x7E

/-- An upper-case hexadecimal digit. -/
def hexDigit (n : Nat) : UInt8 :=
  if n < 10 then (0x30 + n).toUInt8 else (0x37 + n).toUInt8

def percentEncodeByte (b : UInt8) : Bytes :=
  if isUnreserved b then [b] else [percent, hexDigit (b.toNat / 16), hexDigit (b.toNat % 16)]

def percentEncode (text : Bytes) : Bytes := text.flatMap percentEncodeByte

theorem hexValue?_hexDigit :
    ∀ n : Nat, n < 16 → Digits.hexValue? (hexDigit n) = some n := by
  decide

theorem ne_percent_of_isUnreserved
    {b : UInt8}
    (h : isUnreserved b = true) :
    b ≠ percent := by
  rintro rfl
  revert h
  decide

/-- A byte that is no percent sign stands for itself. -/
theorem percentDecode_cons_of_ne
    {b : UInt8}
    (h : b ≠ percent)
    (rest : Bytes) :
    percentDecode (b :: rest) = b :: percentDecode rest := by
  match rest with
  | [] => rfl
  | [_] => rfl
  | c :: d :: rest =>
      rw [percentDecode]
      split
      · rw [if_neg h]
      · rfl

/-- An encoded byte is decoded, whatever follows. -/
theorem percentDecode_percentEncodeByte_append
    (b : UInt8)
    (rest : Bytes) :
    percentDecode (percentEncodeByte b ++ rest) = b :: percentDecode rest := by
  unfold percentEncodeByte
  split
  next h =>
    exact percentDecode_cons_of_ne (ne_percent_of_isUnreserved h) rest
  next =>
    have hb : b.toNat < 256 := b.toNat_lt
    have hhigh : b.toNat / 16 < 16 := by omega
    have hlow : b.toNat % 16 < 16 := by omega
    simp only [List.cons_append, List.nil_append]
    rw [percentDecode, hexValue?_hexDigit _ hhigh, hexValue?_hexDigit _ hlow]
    have hsum : b.toNat / 16 * 16 + b.toNat % 16 = b.toNat := by omega
    simp [hsum]

/-- An encoded text is decoded to itself. -/
theorem percentDecode_percentEncode
    (text : Bytes) :
    percentDecode (percentEncode text) = text := by
  induction text with
  | nil => rfl
  | cons b rest ih =>
      simp only [percentEncode, List.flatMap_cons] at ih ⊢
      rw [percentDecode_percentEncodeByte_append, ih]

end Http
end LiveNotebooks
