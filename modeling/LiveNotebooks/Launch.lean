import LiveNotebooks.CommandLine
import LiveNotebooks.Startup

/-!
# Launching the program

A launch reads the command line and finds the interpreter.  It ends at once with the help
text, with a refusal of the command line, or with the news that the interpreter is missing;
otherwise the service is ready to start.

**Results.**
* `Launch.begin` is what a launch comes to.
-/

namespace LiveNotebooks

/-- What a launch comes to. -/
inductive Launch where
  /-- The program has ended; what it has written to its two outputs. -/
  | ended (exitCode : Nat) (output errorOutput : String)
  /-- The service can start. -/
  | ready (request : CommandLine.Request) (interpreter : Path)

namespace CommandLine.Refusal

def message : Refusal → String
  | .unknownArgument shown => "unexpected argument '" ++ shown ++ "' found"
  | .missingValue setting =>
      "a value is required for '" ++ setting.display ++ "' but none was supplied"
  | .badValue setting value => "invalid value '" ++ value ++ "' for '" ++ setting.display ++ "'"
  | .repeated setting =>
      "the argument '" ++ setting.display ++ "' cannot be used multiple times"
  | .unwantedValue value =>
      "unexpected value '" ++ value ++ "' for '--help' found; no more were expected"
  | .notText => "invalid UTF-8 was detected in one or more arguments"

def text (r : Refusal) : String :=
  "error: " ++ r.message ++ "\n\nFor more information, try '--help'.\n"

end CommandLine.Refusal

namespace Launch

/-- What is printed when the service cannot listen at its address. -/
def listenFailureText (e : SystemError) : String := "Error: " ++ e.describe ++ "\n"

/-- The variables about styles: one forbids them, the other forces them. -/
def styleVariables : List String := ["NO_COLOR", "CLICOLOR_FORCE"]

/-- Do the variables ask for styles although the output goes to no terminal? -/
def forcesStyles (env : CommandLine.Environment) : Bool :=
  (env.lookup "NO_COLOR").getD [] = []
    && (env.lookup "CLICOLOR_FORCE").getD (Utf8.encode "0") ≠ Utf8.encode "0"

/-- The help text as it is printed. -/
def helpOutput (env : CommandLine.Environment) (text : String) : String :=
  if forcesStyles env then CommandLine.styledHelp env else text

/-- Begins a launch: reads the command line and finds the interpreter. -/
def begin (files : Files) (searchPath : Option Bytes) (args : List Bytes)
    (env : CommandLine.Environment) : Launch :=
  let outcome := CommandLine.parse args env
  match outcome with
  | .help text => .ended outcome.exitCode (helpOutput env text) ""
  | .refused reason => .ended outcome.exitCode "" reason.text
  | .request request =>
      match files.locate searchPath request.configuration.interpreter with
      | .error e => .ended 1 "" (Startup.failureText e)
      | .ok interpreter => .ready request interpreter

end Launch
end LiveNotebooks
