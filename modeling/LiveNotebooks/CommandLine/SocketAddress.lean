import LiveNotebooks.Text.Digits

/-!
# Socket addresses

An address of version four or six and a port.  An address of version six stands in
brackets, may leave out one run of zero groups, may end in an address of version four
and may name a scope.
-/

namespace LiveNotebooks

/-- Where a server listens. -/
inductive SocketAddress where
  /-- Four octets. -/
  | v4 (octets : List Nat) (port : Nat)
  /-- Eight groups of sixteen bits. -/
  | v6 (groups : List Nat) (scope port : Nat)
  deriving DecidableEq

namespace SocketAddress

abbrev Reader (α : Type) := List Char → Option (α × List Char)

/-- The value of a digit in a base up to sixteen. -/
def digit? (base : Nat) (c : Char) : Option Nat :=
  match (if c.toNat < 128 then Digits.hexValue? c.toNat.toUInt8 else none) with
  | some d => if d < base then some d else none
  | none => none

/-- The digits in front of a text. -/
def digits (base : Nat) : Reader (List Nat)
  | [] => some ([], [])
  | c :: rest =>
      match digit? base c with
      | some d => (digits base rest).map fun r => (d :: r.1, r.2)
      | none => some ([], c :: rest)

/-- A number of one digit or more.  There are at most `maxDigits` digits, if that is given,
and a zero in front of other digits only where `zeros` allows it. -/
def number (base bound : Nat) (maxDigits : Option Nat) (zeros : Bool) : Reader Nat :=
  fun text =>
    match digits base text with
    | none => none
    | some (ds, rest) =>
        let n := ds.foldl (fun n d => n * base + d) 0
        if ds = [] then none
        else if maxDigits.any (· < ds.length) then none
        else if !zeros && ds.head? = some 0 && 1 < ds.length then none
        else if n < bound then some (n, rest)
        else none

def char (c : Char) : Reader Unit
  | d :: rest => if c = d then some ((), rest) else none
  | [] => none

/-- Octets with points between them, as many as asked for. -/
def octets : Nat → Reader (List Nat)
  | 0, text => some ([], text)
  | count + 1, text => do
      let (n, text) ← number 10 256 (some 3) false text
      let text ← if count = 0 then some text else (char '.' text).map Prod.snd
      let (ns, text) ← octets count text
      pure (n :: ns, text)

/-- A colon before every group but the first. -/
def groupColon (first : Bool) (text : List Char) : Option (List Char) :=
  if first then some text else (char ':' text).map Prod.snd

/-- The two groups of an address of version four. -/
def groupsOfOctets : List Nat → List Nat
  | [a, b, c, d] => [a * 256 + b, c * 256 + d]
  | _ => []

/-- As many groups as there are, at most `limit`, and whether they end in an address of
version four. -/
def groups : Nat → Bool → List Char → List Nat × Bool × List Char
  | 0, _, text => ([], false, text)
  | limit + 1, first, text =>
      let embedded :=
        if limit = 0 then none
        else (groupColon first text).bind (octets 4)
      match embedded with
      | some (ns, rest) => (groupsOfOctets ns, true, rest)
      | none =>
          match (groupColon first text).bind (number 16 65536 (some 4) true) with
          | some (n, rest) =>
              let (ns, embedded, rest) := groups limit false rest
              (n :: ns, embedded, rest)
          | none => ([], false, text)

/-- The eight groups of an address of version six. -/
def address6 : Reader (List Nat) := fun text =>
  let (front, embedded, rest) := groups 8 true text
  if front.length = 8 then some (front, rest)
  else if embedded then none
  else do
    let (_, rest) ← char ':' rest
    let (_, rest) ← char ':' rest
    let (back, _, rest) := groups (7 - front.length) true rest
    pure (front ++ List.replicate (8 - front.length - back.length) 0 ++ back, rest)

def scope : Reader Nat
  | '%' :: rest => number 10 (Nat.pow 2 32) none true rest
  | text => some (0, text)

def port : Reader Nat := fun text => do
  let (_, text) ← char ':' text
  number 10 65536 none true text

/-- An address of version four with its port. -/
def readV4 : Reader SocketAddress := fun text => do
  let (ns, text) ← octets 4 text
  let (p, text) ← port text
  pure (.v4 ns p, text)

/-- An address of version six with its port. -/
def readV6 : Reader SocketAddress := fun text => do
  let (_, text) ← char '[' text
  let (gs, text) ← address6 text
  let (s, text) ← scope text
  let (_, text) ← char ']' text
  let (p, text) ← port text
  pure (.v6 gs s p, text)

/-- Reads a whole text. -/
def parse? (text : String) : Option SocketAddress :=
  match (readV4 text.toList).orElse fun _ => readV6 text.toList with
  | some (a, []) => some a
  | _ => none

/-- Four octets with points between them. -/
def octetsText (ns : List Nat) : String := ".".intercalate (ns.map Digits.decimal)

/-- Groups with colons between them. -/
def groupsText (gs : List Nat) : String := ":".intercalate (gs.map Digits.hexShort)

/-- The length of the run of zeros in front of a list. -/
def zerosInFront (gs : List Nat) : Nat := (gs.takeWhile (· = 0)).length

/-- The start and the length of the first longest run of zeros. -/
def longestZeros : List Nat → Nat → Nat × Nat → Nat × Nat
  | [], _, best => best
  | g :: gs, index, best =>
      longestZeros gs (index + 1)
        (if best.2 < zerosInFront (g :: gs) then (index, zerosInFront (g :: gs)) else best)

def address6Text (gs : List Nat) : String :=
  match gs with
  | [0, 0, 0, 0, 0, 0xFFFF, a, b] =>
      "::ffff:" ++ octetsText [a / 256, a % 256, b / 256, b % 256]
  | _ =>
      let (start, length) := longestZeros gs 0 (0, 0)
      if 1 < length then groupsText (gs.take start) ++ "::" ++ groupsText (gs.drop (start + length))
      else groupsText gs

def text : SocketAddress → String
  | .v4 ns p => octetsText ns ++ ":" ++ Digits.decimal p
  | .v6 gs s p =>
      "[" ++ address6Text gs ++ (if s = 0 then "" else "%" ++ Digits.decimal s) ++ "]:"
        ++ Digits.decimal p

end SocketAddress
end LiveNotebooks
