import LiveNotebooks.Json.Number
import LiveNotebooks.Json.Text

/-!
# Writing JSON values

A value is written on one line without blanks, or with a line for each item and each
member, indented by two blanks a level.
-/

namespace LiveNotebooks
namespace Json

/-- The two layouts. -/
inductive Layout where
  | compact
  | indented
  deriving DecidableEq

namespace Layout

/-- Starts a line at the given level, where the layout has lines. -/
def line (layout : Layout) (level : Nat) (out : Output) : Output :=
  match layout with
  | .compact => out
  | .indented => (out.push 0x0A).append (List.replicate (2 * level) 0x20)

/-- The mark between a key and its value. -/
def colon (layout : Layout) (out : Output) : Output :=
  match layout with
  | .compact => out.push 0x3A
  | .indented => (out.push 0x3A).push 0x20

end Layout

mutual

/-- Writes a value that stands at the given level. -/
def writeValue (layout : Layout) : Value → Nat → Output → Output
  | .null, _, out => out.append (0x6E :: [0x75, 0x6C, 0x6C])
  | .boolean true, _, out => out.append (0x74 :: [0x72, 0x75, 0x65])
  | .boolean false, _, out => out.append (0x66 :: [0x61, 0x6C, 0x73, 0x65])
  | .number n, _, out => out.text n.render
  | .text s, _, out => writeText s out
  | .array [], _, out => (out.push 0x5B).push 0x5D
  | .array (v :: vs), level, out =>
      (layout.line level
        (writeItems layout vs (level + 1)
          (writeValue layout v (level + 1)
            (layout.line (level + 1) (out.push 0x5B))))).push 0x5D
  | .object [], _, out => (out.push 0x7B).push 0x7D
  | .object ((k, v) :: ms), level, out =>
      (layout.line level
        (writeMembers layout ms (level + 1)
          (writeValue layout v (level + 1)
            (layout.colon (writeText k
              (layout.line (level + 1) (out.push 0x7B))))))).push 0x7D

def writeItems (layout : Layout) : List Value → Nat → Output → Output
  | [], _, out => out
  | v :: vs, level, out =>
      writeItems layout vs level
        (writeValue layout v level (layout.line level (out.push 0x2C)))

def writeMembers (layout : Layout) : List (String × Value) → Nat → Output → Output
  | [], _, out => out
  | (k, v) :: ms, level, out =>
      writeMembers layout ms level
        (writeValue layout v level
          (layout.colon (writeText k (layout.line level (out.push 0x2C)))))

end

def Value.render (v : Value) (layout : Layout) : Bytes :=
  (writeValue layout v 0 .empty).toBytes

def Value.compact (v : Value) : Bytes := v.render .compact

/-- The text of a value with indented lines. -/
def Value.pretty (v : Value) : Bytes := v.render .indented

end Json
end LiveNotebooks
