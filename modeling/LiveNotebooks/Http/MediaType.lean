import LiveNotebooks.System.Path
import LiveNotebooks.Http.MediaType.Extensions

/-!
# Media types by file name

The type of a file is told by the last extension of its name, whatever its case.  A name
without an extension, or with one that is not in the table, has the general type.
-/

namespace LiveNotebooks
namespace Http
namespace MediaType

/-- The type of a file of which nothing is known. -/
def general : String := "application/octet-stream"

/-- The last extension of a name.  A point at the start of the name begins none. -/
def extension? (name : Bytes) : Option Bytes :=
  let suffix := (name.reverse.takeWhile (· ≠ 0x2E)).reverse
  if suffix.length + 1 < name.length then some suffix else none

/-- A character without its case.  Besides the capital letters this takes apart the
ligatures and the other characters that are spelled with plain letters; all others stay. -/
def fold (c : Char) : List Char :=
  match c with
  | '\u00DF' | '\u1E9E' => ['s', 's']
  | '\u017F' => ['s']
  | '\u212A' => ['k']
  | '\uFB00' => ['f', 'f']
  | '\uFB01' => ['f', 'i']
  | '\uFB02' => ['f', 'l']
  | '\uFB03' => ['f', 'f', 'i']
  | '\uFB04' => ['f', 'f', 'l']
  | '\uFB05' | '\uFB06' => ['s', 't']
  | c => [c.toLower]

/-- The type that an extension in lower case tells. -/
def ofExtension? (suffix : String) : Option String :=
  (table.find? fun entry => entry.2.contains suffix).map Prod.fst

def ofPath (path : Path) : String :=
  let found := do
    let name ← Path.fileName path
    let suffix ← extension? name
    let suffix ← Utf8.decode? suffix
    ofExtension? (String.ofList (suffix.toList.flatMap fold))
  found.getD general

end MediaType
end Http
end LiveNotebooks
