import LiveNotebooks.CommandLine.SocketAddress
import LiveNotebooks.Configuration
import LiveNotebooks.Text.Terminal

/-!
# The command line

Ten options, each with a value, and a flag for the help text.  An option may be given by
its long name, two of them also by a letter, and every option by an environment
variable, which counts only where the option itself is absent.

**Algorithm.**  The arguments are read from left to right.  A value that is attached to its
option (`--name=value`) is looked at there and then.  A value that is an argument of its own
is looked at when the next option starts or the arguments end, so an argument that nobody
knows is reported before a bad value of this kind in front of it.  Afterwards the
environment is read, in the order of the options.

**Results.**
* `parse` answers with the settings, the help text or the reason for a refusal.
-/

namespace LiveNotebooks
namespace CommandLine

/-- The options with a value, in their order. -/
inductive Setting where
  | address
  | notebookDirectory
  | interpreter
  | converterScript
  | author
  | convertTimeout
  | convertRetries
  | scanConcurrency
  | reloadDebounce
  | staticDirectory
  deriving DecidableEq

namespace Setting

def all : List Setting :=
  [.address, .notebookDirectory, .interpreter, .converterScript, .author, .convertTimeout,
    .convertRetries, .scanConcurrency, .reloadDebounce, .staticDirectory]

def longName : Setting → String
  | .address => "addr"
  | .notebookDirectory => "notebook-dir"
  | .interpreter => "interpreter"
  | .converterScript => "converter-script"
  | .author => "author"
  | .convertTimeout => "convert-timeout"
  | .convertRetries => "convert-retries"
  | .scanConcurrency => "scan-concurrency"
  | .reloadDebounce => "reload-debounce-ms"
  | .staticDirectory => "static-dir"

def letter? : Setting → Option Char
  | .address => some 'a'
  | .notebookDirectory => some 'd'
  | _ => none

def environmentName : Setting → String
  | .address => "NOTEBOOK_ADDR"
  | .notebookDirectory => "NOTEBOOK_DIR"
  | .interpreter => "NOTEBOOK_INTERPRETER"
  | .converterScript => "NOTEBOOK_CONVERTER"
  | .author => "NOTEBOOK_AUTHOR"
  | .convertTimeout => "NOTEBOOK_CONVERT_TIMEOUT"
  | .convertRetries => "NOTEBOOK_CONVERT_RETRIES"
  | .scanConcurrency => "NOTEBOOK_SCAN_CONCURRENCY"
  | .reloadDebounce => "NOTEBOOK_RELOAD_DEBOUNCE_MS"
  | .staticDirectory => "NOTEBOOK_STATIC_DIR"

/-- What the option is for. -/
def description : Setting → String
  | .address => "Listen address"
  | .notebookDirectory => "Directory of notebook source files"
  | .interpreter => "Interpreter used to run the converter script"
  | .converterScript =>
      "Converter script, invoked as `<interpreter> <script> --infile=<path>`"
  | .author => "Author recorded on loaded notebooks"
  | .convertTimeout => "Seconds before a running conversion is killed"
  | .convertRetries => "Extra attempts for a failed conversion"
  | .scanConcurrency => "Conversions run in parallel during the startup scan"
  | .reloadDebounce =>
      "Milliseconds to wait for a burst of writes to settle before reloading"
  | .staticDirectory => "Directory served under /static"

def valueName (s : Setting) : String :=
  String.ofList (s.longName.toUpper.toList.map fun c => if c = '-' then '_' else c)

/-- The option with its value in messages. -/
def display (s : Setting) : String := "--" ++ s.longName ++ " <" ++ s.valueName ++ ">"

end Setting

structure Request where
  address : SocketAddress
  configuration : Configuration
  deriving DecidableEq

/-- Why a command line is refused. -/
inductive Refusal where
  | unknownArgument (shown : String)
  /-- An option without a value, or with an empty one where a path is needed. -/
  | missingValue (setting : Setting)
  | badValue (setting : Setting) (value : String)
  | repeated (setting : Setting)
  /-- A value for the help flag. -/
  | unwantedValue (value : String)
  | notText
  deriving DecidableEq

inductive Outcome where
  | request (request : Request)
  | help (text : String)
  | refused (reason : Refusal)

/-- The exit code of a command line that is not followed by a run of the service. -/
def Outcome.exitCode : Outcome → Nat
  | .request _ | .help _ => 0
  | .refused _ => 2

abbrev Environment := List (String × Bytes)

/-! ## Values -/

/-- The decimal number in a text, a plus sign allowed. -/
def unsigned? (s : List Char) : Option Nat :=
  let digits := if s.head? = some '+' then s.tail else s
  match SocketAddress.digits 10 digits with
  | some (d :: ds, []) => some ((d :: ds).foldl (fun n d => n * 10 + d) 0)
  | _ => none

/-- The decimal number in a text, either sign allowed. -/
def signed? (s : List Char) : Option Int :=
  match s with
  | '-' :: rest =>
      if rest.head? = some '+' then none else (unsigned? rest).map fun n => -(n : Int)
  | _ => (unsigned? s).map fun n => (n : Int)

/-- A natural number below a bound. -/
def natural (setting : Setting) (bound : Nat) (s : String) : Except Refusal Nat :=
  match unsigned? s.toList with
  | some n => if n < bound then .ok n else .error (.badValue setting s)
  | none => .error (.badValue setting s)

/-- A natural number below a bound that may be written with a minus sign if it is zero. -/
def ranged (setting : Setting) (bound : Nat) (s : String) : Except Refusal Nat :=
  match signed? s.toList with
  | some n => if 0 ≤ n && n < bound then .ok n.toNat else .error (.badValue setting s)
  | none => .error (.badValue setting s)

def textValue (value : Bytes) : Except Refusal String :=
  match Utf8.decode? value with
  | some s => .ok s
  | none => .error .notText

def pathValue (setting : Setting) (value : Bytes) : Except Refusal Path :=
  if value = [] then .error (.missingValue setting) else .ok value

def addressValue (value : Bytes) : Except Refusal SocketAddress :=
  match textValue value with
  | .error e => .error e
  | .ok s =>
      match SocketAddress.parse? s with
      | some a => .ok a
      | none => .error (.badValue .address s)

/-- The request with a setting. -/
def assign (r : Request) (setting : Setting) (value : Bytes) : Except Refusal Request :=
  let c := r.configuration
  let configured (c : Configuration) : Request := { r with configuration := c }
  match setting with
  | .address => (addressValue value).map fun a => { r with address := a }
  | .notebookDirectory =>
      (pathValue setting value).map fun p => configured { c with notebookDirectory := p }
  | .interpreter => (textValue value).map fun s => configured { c with interpreter := s }
  | .converterScript =>
      (pathValue setting value).map fun p => configured { c with converterScript := p }
  | .author => (textValue value).map fun s => configured { c with author := s }
  | .convertTimeout =>
      ((textValue value).bind (natural setting (Nat.pow 2 64))).map fun n =>
        configured { c with convertTimeout := some n }
  | .convertRetries =>
      ((textValue value).bind (ranged setting (Nat.pow 2 32))).map fun n =>
        configured { c with convertRetries := n }
  | .scanConcurrency =>
      ((textValue value).bind (natural setting (Nat.pow 2 64))).map fun n =>
        configured { c with scanConcurrency := n }
  | .reloadDebounce =>
      ((textValue value).bind (natural setting (Nat.pow 2 64))).map fun n =>
        configured { c with reloadDebounce := n }
  | .staticDirectory =>
      (pathValue setting value).map fun p => configured { c with staticDirectory := some p }

/-! ## Arguments -/

structure Progress where
  request : Request
  /-- The options whose values have been looked at. -/
  given : List Setting
  /-- The option that was read last, with its value if there is one. -/
  pending : Option (Setting × Option Bytes)

/-- The settings without any argument. -/
def defaults : Request := ⟨.v4 [127, 0, 0, 1] 8080, {}⟩

/-- Looks at the value of the option that was read last. -/
def Progress.settle (p : Progress) : Except Refusal Progress :=
  match p.pending with
  | none => .ok p
  | some (setting, none) => .error (.missingValue setting)
  | some (setting, some value) =>
      if p.given.contains setting then .error (.repeated setting)
      else
        match assign p.request setting value with
        | .ok request => .ok ⟨request, setting :: p.given, none⟩
        | .error e => .error e

/-- What an argument leads to. -/
inductive Next where
  | goOn (p : Progress)
  /-- All later arguments are values of no option. -/
  | onlyValues (p : Progress)
  | help
  | refuse (reason : Refusal)

/-- Starts an option after the one before it is settled.  With an attached value the option
is settled at once. -/
def start (p : Progress) (setting : Setting) (value : Option Bytes) : Next :=
  match p.settle with
  | .error e => .refuse e
  | .ok p =>
      let started : Progress := { p with pending := some (setting, value) }
      match value with
      | none => .goOn started
      | some _ =>
          match started.settle with
          | .ok p => .goOn p
          | .error e => .refuse e

/-- Asks for the help text after the option before it is settled. -/
def startHelp (p : Progress) : Next :=
  match p.settle with
  | .ok _ => .help
  | .error e => .refuse e

/-- The byte before an attached value. -/
def equals : UInt8 := 0x3D

/-- An argument behind two dashes. -/
def longArgument (p : Progress) (body : Bytes) : Next :=
  let name := body.takeWhile (· ≠ equals)
  let value := if body.contains equals then some (body.drop (name.length + 1)) else none
  match Setting.all.find? fun s => Utf8.encode s.longName = name with
  | some setting => start p setting value
  | none =>
      if name = Utf8.encode "help" then
        match value with
        | none => startHelp p
        | some v => .refuse (.unwantedValue (Utf8.decodeLossy v))
      else .refuse (.unknownArgument ("--" ++ Utf8.decodeLossy name))

/-- The value attached to a letter, an equals sign between them allowed. -/
def attached (rest : Bytes) : Option Bytes :=
  match rest with
  | [] => none
  | b :: after => if b = equals then some after else some rest

/-- An argument behind one dash. -/
def shortArgument (p : Progress) (first : UInt8) (rest : Bytes) : Next :=
  match Utf8.piece first rest with
  | (.broken _, _) => .refuse (.unknownArgument ("-" ++ Utf8.decodeLossy (first :: rest)))
  | (.character c, rest) =>
      match Setting.all.find? fun s => s.letter? = some c with
      | some setting => start p setting (attached rest)
      | none =>
          if c = 'h' then startHelp p
          else .refuse (.unknownArgument ("-" ++ c.toString))

/-- An argument that is no option: the value of the option before it, if that has none. -/
def plainArgument (p : Progress) (value : Bytes) : Next :=
  match p.pending with
  | some (setting, none) => .goOn { p with pending := some (setting, some value) }
  | _ => .refuse (.unknownArgument (Utf8.decodeLossy value))

/-- The byte in front of options. -/
def dash : UInt8 := 0x2D

def argument (p : Progress) : Bytes → Next
  | [] => plainArgument p []
  | [b] => plainArgument p [b]
  | a :: b :: rest =>
      if a ≠ dash then plainArgument p (a :: b :: rest)
      else if b ≠ dash then shortArgument p b rest
      else if rest = [] then .onlyValues p
      else longArgument p rest

/-- The end of the arguments before the environment is read. -/
inductive Reading where
  | done (p : Progress)
  | help
  | refused (reason : Refusal)

def readArguments : List Bytes → Progress → Reading
  | [], p =>
      match p.settle with
      | .ok p => .done p
      | .error e => .refused e
  | arg :: args, p =>
      match argument p arg with
      | .goOn p => readArguments args p
      | .help => .help
      | .refuse e => .refused e
      | .onlyValues p =>
          match args with
          | value :: _ => .refused (.unknownArgument (Utf8.decodeLossy value))
          | [] =>
              match p.settle with
              | .ok p => .done p
              | .error e => .refused e

/-- Reads the variables of the options that were not given. -/
def readEnvironment (env : Environment) : List Setting → Progress → Except Refusal Request
  | [], p => .ok p.request
  | setting :: rest, p =>
      match (if p.given.contains setting then none else env.lookup setting.environmentName) with
      | none => readEnvironment env rest p
      | some value =>
          match assign p.request setting value with
          | .ok request => readEnvironment env rest { p with request := request }
          | .error e => .error e

/-! ## Help -/

/-- The value of a variable in the help text, where later lines are indented. -/
def shownVariable (env : Environment) (setting : Setting) : String :=
  let value := match env.lookup setting.environmentName with
    | some v => Utf8.decodeLossy v
    | none => ""
  "[env: " ++ setting.environmentName ++ "="
    ++ String.join (value.toList.map fun c => if c = '\n' then "\n          " else c.toString)
    ++ "]"

/-- A name that stands for itself. -/
def literal (s : String) : String := Terminal.bold ++ s ++ Terminal.plain

def title (s : String) : String := Terminal.bold ++ Terminal.underline ++ s ++ Terminal.plain

def optionHelp (env : Environment) (setting : Setting) : String :=
  let names := match setting.letter? with
    | some c => "  " ++ literal ("-" ++ c.toString) ++ ", "
    | none => "      "
  let default := match setting with
    | .address => " [default: " ++ defaults.address.text ++ "]"
    | _ => ""
  names ++ literal ("--" ++ setting.longName) ++ " <" ++ setting.valueName ++ ">\n          "
    ++ setting.description ++ " " ++ shownVariable env setting ++ default ++ "\n"

/-- The help text for a terminal. -/
def styledHelp (env : Environment) : String :=
  "Serve a directory of notebooks over HTTP and reload them as they change\n\n"
    ++ title "Usage:" ++ " " ++ literal "notebook-hub" ++ " [OPTIONS]\n\n"
    ++ title "Options:" ++ "\n" ++ String.join (Setting.all.map (optionHelp env))
    ++ "  " ++ literal "-h" ++ ", " ++ literal "--help" ++ "\n          Print help\n"

/-- The help text.  A value with an unfinished control sequence hides what follows it up to
the next name. -/
def helpText (env : Environment) : String := Terminal.visible (styledHelp env)

def parse (args : List Bytes) (env : Environment) : Outcome :=
  match readArguments args ⟨defaults, [], none⟩ with
  | .help => .help (helpText env)
  | .refused e => .refused e
  | .done p =>
      match readEnvironment env Setting.all p with
      | .ok request => .request request
      | .error e => .refused e

end CommandLine
end LiveNotebooks
