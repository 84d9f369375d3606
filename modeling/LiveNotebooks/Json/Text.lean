import LiveNotebooks.Text.Output
import LiveNotebooks.Json.Fault

/-!
# JSON strings

**Writing.**  Quotes, backslashes and the controls below U+0020 are escaped, all other
characters stand for themselves.

**Reading.**  `readText` decodes a string whose opening quote has been read.  Bytes that
are no character are noticed at the closing quote.  Their place is counted back from there
in bytes of the decoded string, so it is where they stand if no escape follows them.
`skipText` only looks for the closing quote.
-/

namespace LiveNotebooks
namespace Json

/-- The escape of a character that has one, without the backslash. -/
def shortEscape? (c : Char) : Option UInt8 :=
  if c = '"' then some 0x22
  else if c = '\\' then some 0x5C
  else if c.toNat = 0x08 then some 0x62
  else if c.toNat = 0x0C then some 0x66
  else if c = '\n' then some 0x6E
  else if c = '\r' then some 0x72
  else if c = '\t' then some 0x74
  else none

/-- One character of a string. -/
def escape (c : Char) : Bytes :=
  match shortEscape? c with
  | some b => [0x5C, b]
  | none =>
      if c.toNat < 0x20 then Utf8.encode ("\\u" ++ Digits.hex 4 c.toNat)
      else String.utf8EncodeChar c

def writeText (s : String) (out : Output) : Output :=
  (s.toList.foldl (fun out c => out.append (escape c)) (out.push 0x22)).push 0x22

/-- Four hexadecimal digits. -/
def readHex4 : Bytes → Reading Nat
  | a :: b :: c :: d :: rest =>
      match Digits.hexValue? a, Digits.hexValue? b, Digits.hexValue? c, Digits.hexValue? d with
      | some a, some b, some c, some d => .ok (((a * 16 + b) * 16 + c) * 16 + d, rest)
      | _, _, _, _ => .error (.before .badEscape rest)
  | _ => .error ⟨.stringNotClosed, 0⟩

/-- The second half of a surrogate pair, after the first half `high`. -/
def readLowSurrogate (high : Nat) : Bytes → Reading Char
  | [] => .error ⟨.stringNotClosed, 0⟩
  | b :: rest =>
      if b ≠ 0x5C then .error (.before .escapeTooShort rest)
      else
        match rest with
        | [] => .error ⟨.stringNotClosed, 0⟩
        | b :: rest =>
            if b ≠ 0x75 then .error (.before .escapeTooShort rest)
            else
              match readHex4 rest with
              | .error fault => .error fault
              | .ok (low, rest) =>
                  if 0xDC00 ≤ low && low ≤ 0xDFFF then
                    .ok (Char.ofNat ((high - 0xD800) * 0x400 + (low - 0xDC00) + 0x10000), rest)
                  else .error (.before .loneSurrogate rest)

def readUnicodeEscape (text : Bytes) : Reading Char :=
  match readHex4 text with
  | .error fault => .error fault
  | .ok (n, rest) =>
      if 0xDC00 ≤ n && n ≤ 0xDFFF then .error (.before .loneSurrogate rest)
      else if 0xD800 ≤ n && n ≤ 0xDBFF then readLowSurrogate n rest
      else .ok (Char.ofNat n, rest)

def shortEscapeChar? (b : UInt8) : Option Char :=
  if b = 0x22 then some '"'
  else if b = 0x5C then some '\\'
  else if b = 0x2F then some '/'
  else if b = 0x62 then some '\x08'
  else if b = 0x66 then some '\x0c'
  else if b = 0x6E then some '\n'
  else if b = 0x72 then some '\r'
  else if b = 0x74 then some '\t'
  else none

/-- An escape behind its backslash. -/
def readEscape : Bytes → Reading Char
  | [] => .error ⟨.stringNotClosed, 0⟩
  | b :: rest =>
      if b = 0x75 then readUnicodeEscape rest
      else
        match shortEscapeChar? b with
        | some c => .ok (c, rest)
        | none => .error (.before .badEscape rest)

/-- The rest of a string.  `chars` holds the characters read, newest first; `bad` is the
number of decoded bytes from the first one on that belongs to no character.  Every round
reads a byte, so a `fuel` above the length of the text is enough. -/
def readTextLoop : Nat → Bytes → List Char → Option Nat → Reading String
  | 0, rest, _, _ => .error (.before .stringNotClosed rest)
  | _, [], _, _ => .error ⟨.stringNotClosed, 0⟩
  | fuel + 1, b :: rest, chars, bad =>
      let decoded (c : Char) : Option Nat := bad.map (· + c.utf8Size)
      if b = 0x22 then
        match bad with
        | none => .ok (String.ofList chars.reverse, rest)
        | some count => .error ⟨.badCodePoint, rest.length + count⟩
      else if b = 0x5C then
        match readEscape rest with
        | .ok (c, rest) => readTextLoop fuel rest (c :: chars) (decoded c)
        | .error fault => .error fault
      else if b < 0x20 then .error (.before .controlInString rest)
      else
        match Utf8.piece b rest with
        | (.character c, after) => readTextLoop fuel after (c :: chars) (decoded c)
        | (.broken bytes, after) =>
            readTextLoop fuel after chars (some (bad.getD 0 + bytes.length))

/-- A string behind its opening quote. -/
def readText (fuel : Nat) (text : Bytes) : Reading String :=
  readTextLoop fuel text [] none

/-- An escape behind its backslash; surrogates need not be paired. -/
def skipEscape : Bytes → Except Fault Bytes
  | [] => .error ⟨.stringNotClosed, 0⟩
  | b :: rest =>
      if b = 0x75 then (readHex4 rest).map Prod.snd
      else if (shortEscapeChar? b).isSome then .ok rest
      else .error (.before .badEscape rest)

/-- The text behind the closing quote of a string. -/
def skipText : Nat → Bytes → Except Fault Bytes
  | 0, rest => .error (.before .stringNotClosed rest)
  | _, [] => .error ⟨.stringNotClosed, 0⟩
  | fuel + 1, b :: rest =>
      if b = 0x22 then .ok rest
      else if b = 0x5C then
        match skipEscape rest with
        | .ok rest => skipText fuel rest
        | .error fault => .error fault
      else if b < 0x20 then .error (.before .controlInString (b :: rest))
      else skipText fuel rest

end Json
end LiveNotebooks
