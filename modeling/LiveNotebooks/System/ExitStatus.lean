import LiveNotebooks.Text.Digits

/-!
# How processes end

The system tells the end of a process by one number.  Its lowest seven bits are zero after
an exit, whose code stands in the second byte, and the number of the signal otherwise; the
eighth bit tells of a core dump.  Two numbers beside these tell that a process goes on or
is only stopped.
-/

namespace LiveNotebooks

namespace Signal

def names : List String :=
  ["HUP", "INT", "QUIT", "ILL", "TRAP", "ABRT", "BUS", "FPE", "KILL", "USR1", "SEGV", "USR2",
    "PIPE", "ALRM", "TERM", "STKFLT", "CHLD", "CONT", "STOP", "TSTP", "TTIN", "TTOU", "URG",
    "XCPU", "XFSZ", "VTALRM", "PROF", "WINCH", "IO", "PWR", "SYS"]

def name? (n : Nat) : Option String :=
  match n with
  | 0 => none
  | k + 1 => names[k]?

end Signal

/-- How a process ended, or what else the system tells of it. -/
inductive ExitStatus where
  | code (n : Nat)
  | signal (n : Nat) (coreDumped : Bool)
  | stopped (signal : Nat)
  | continued
  | unknown (word : Int)
  deriving DecidableEq

namespace ExitStatus

/-- A word of 32 bits, read with a sign. -/
def signedWord (n : Nat) : Int := if n < Nat.pow 2 31 then n else n - Nat.pow 2 32

/-- Reads the number that the system tells. -/
def ofWaitStatus (word : Nat) : ExitStatus :=
  let low := word % 128
  let second := word / 256 % 256
  if low = 0 then .code second
  else if low < 127 then .signal low (word / 128 % 2 = 1)
  else if word % 256 = 127 then .stopped second
  else if word = 0xFFFF then .continued
  else .unknown (signedWord word)

/-- The number after an exit with a code, which may be any number. -/
def exitWord (code : Int) : Nat := (code % 256).toNat * 256

/-- The number after the end by a signal. -/
def signalWord (signal : Int) (coreDumped : Bool) : Nat :=
  (signal % Nat.pow 2 32).toNat ||| (if coreDumped then 128 else 0)

def ofCode (code : Int) : ExitStatus := ofWaitStatus (exitWord code)

def ofSignal (signal : Int) (coreDumped : Bool) : ExitStatus :=
  ofWaitStatus (signalWord signal coreDumped)

def signalName (n : Nat) : String :=
  match Signal.name? n with
  | some name => " (SIG" ++ name ++ ")"
  | none => ""

/-- A word in hexadecimal digits. -/
def wordText (word : Int) : String :=
  "0x" ++ Digits.hexShort (word % Nat.pow 2 32).toNat

def describe : ExitStatus → String
  | .code n => "exit status: " ++ Digits.decimal n
  | .signal n core =>
      "signal: " ++ Digits.decimal n ++ signalName n ++ (if core then " (core dumped)" else "")
  | .stopped n => "stopped (not terminated) by signal: " ++ Digits.decimal n ++ signalName n
  | .continued => "continued (WIFCONTINUED)"
  | .unknown word => "unrecognised wait status: " ++ Digits.signed word ++ " " ++ wordText word

/-- Did the process end well? -/
def isSuccess (s : ExitStatus) : Bool := s = .code 0

end ExitStatus
end LiveNotebooks
