import LiveNotebooks.Text.Utf8
import LiveNotebooks.Text.Glyph
import LiveNotebooks.Text.Digits

/-!
# Quoted texts in messages

A text stands in a message between double quotes.  Quotes, backslashes and the usual
controls get a backslash, characters without a glyph are shown by number, and the
bytes of a name that is not UTF-8 are shown one by one.
-/

namespace LiveNotebooks
namespace Quoted

def character (c : Char) : String :=
  if c = '\x00' then "\\0"
  else if c = '\t' then "\\t"
  else if c = '\n' then "\\n"
  else if c = '\r' then "\\r"
  else if c = '"' then "\\\""
  else if c = '\\' then "\\\\"
  else if Glyph.isAbsent c then "\\u\x7b" ++ Digits.hexShort c.toNat ++ "\x7d"
  else c.toString

/-- A byte that belongs to no character. -/
def looseByte (b : UInt8) : String := "\\x" ++ Digits.hexUpper 2 b.toNat

def namePiece : Utf8.Piece → String
  | .character c => character c
  | .broken bytes => String.join (bytes.map looseByte)

def text (s : String) : String :=
  "\"" ++ String.join (s.toList.map character) ++ "\""

/-- A file name between double quotes. -/
def name (bytes : Bytes) : String :=
  "\"" ++ String.join ((Utf8.pieces bytes).map namePiece) ++ "\""

def names (paths : List Bytes) : String :=
  "[" ++ ", ".intercalate (paths.map name) ++ "]"

end Quoted
end LiveNotebooks
