/-!
# UTF-8

Texts arrive as bytes that need not be UTF-8.  This module reads a byte list one
piece at a time: a piece is either a character or the longest beginning of a
character that the next byte rules out.

**Results.**
* `decode?` answers only on well-formed input.
* `decodeLossy` always answers; every broken piece becomes one U+FFFD.
* `encode` writes a string, one character after another.
-/

namespace LiveNotebooks

/-- A finite sequence of octets. -/
abbrev Bytes := List UInt8

namespace Utf8

/-- What stands at the front of a byte list. -/
inductive Piece where
  | character (c : Char)
  /-- The longest beginning of a character that is not continued. -/
  | broken (bytes : Bytes)
  deriving DecidableEq

/-- A byte that continues a character. -/
def isTail (b : UInt8) : Bool := 0x80 ≤ b && b ≤ 0xBF

/-- The payload of a continuing byte. -/
def tailBits (b : UInt8) : Nat := b.toNat - 0x80

/-- The range of the second byte of a character, given its first byte.  Only the four
extreme first bytes narrow the range, which excludes overlong forms, surrogates and
code points above U+10FFFF. -/
def secondRange (a : UInt8) : UInt8 × UInt8 :=
  if a = 0xE0 then (0xA0, 0xBF)
  else if a = 0xED then (0x80, 0x9F)
  else if a = 0xF0 then (0x90, 0xBF)
  else if a = 0xF4 then (0x80, 0x8F)
  else (0x80, 0xBF)

/-- May `b` follow the first byte `a`? -/
def isSecond (a b : UInt8) : Bool :=
  (secondRange a).1 ≤ b && b ≤ (secondRange a).2

/-- The rest of a two-byte character. -/
def piece2 (a : UInt8) : Bytes → Piece × Bytes
  | b :: rest =>
      if isTail b then
        (.character (Char.ofNat ((a.toNat - 0xC0) * 0x40 + tailBits b)), rest)
      else (.broken [a], b :: rest)
  | [] => (.broken [a], [])

/-- The rest of a three-byte character. -/
def piece3 (a : UInt8) : Bytes → Piece × Bytes
  | b :: rest =>
      if isSecond a b then
        match rest with
        | c :: rest =>
            if isTail c then
              (.character (Char.ofNat
                (((a.toNat - 0xE0) * 0x40 + tailBits b) * 0x40 + tailBits c)), rest)
            else (.broken [a, b], c :: rest)
        | [] => (.broken [a, b], [])
      else (.broken [a], b :: rest)
  | [] => (.broken [a], [])

/-- The rest of a four-byte character. -/
def piece4 (a : UInt8) : Bytes → Piece × Bytes
  | b :: rest =>
      if isSecond a b then
        match rest with
        | c :: rest =>
            if isTail c then
              match rest with
              | d :: rest =>
                  if isTail d then
                    (.character (Char.ofNat
                      ((((a.toNat - 0xF0) * 0x40 + tailBits b) * 0x40 + tailBits c) * 0x40
                        + tailBits d)), rest)
                  else (.broken [a, b, c], d :: rest)
              | [] => (.broken [a, b, c], [])
            else (.broken [a, b], c :: rest)
        | [] => (.broken [a, b], [])
      else (.broken [a], b :: rest)
  | [] => (.broken [a], [])

/-- The piece that starts with the byte `a`, and what follows it. -/
def piece (a : UInt8) (rest : Bytes) : Piece × Bytes :=
  if a < 0x80 then (.character (Char.ofNat a.toNat), rest)
  else if a < 0xC2 then (.broken [a], rest)
  else if a < 0xE0 then piece2 a rest
  else if a < 0xF0 then piece3 a rest
  else if a < 0xF5 then piece4 a rest
  else (.broken [a], rest)

/-- The pieces of a text, newest first, in front of `acc`; `fuel` bounds their number. -/
def piecesOnto : Nat → Bytes → List Piece → List Piece
  | 0, _, acc => acc
  | _, [], acc => acc
  | fuel + 1, a :: rest, acc =>
      let (p, rest) := piece a rest
      piecesOnto fuel rest (p :: acc)

def pieces (text : Bytes) : List Piece :=
  (piecesOnto text.length text []).reverse

/-- The character of a piece, U+FFFD for a broken one. -/
def Piece.toChar : Piece → Char
  | .character c => c
  | .broken _ => '\uFFFD'

def Piece.toChar? : Piece → Option Char
  | .character c => some c
  | .broken _ => none

/-- Reads a text, with U+FFFD for each broken piece. -/
def decodeLossy (text : Bytes) : String :=
  String.ofList ((pieces text).map Piece.toChar)

/-- Reads a well-formed text. -/
def decode? (text : Bytes) : Option String :=
  ((pieces text).mapM Piece.toChar?).map String.ofList

/-- Writes a string. -/
def encode (s : String) : Bytes := s.toList.flatMap String.utf8EncodeChar

@[simp] theorem encode_append
    (s t : String) :
    encode (s ++ t) = encode s ++ encode t := by
  simp [encode]

end Utf8
end LiveNotebooks
