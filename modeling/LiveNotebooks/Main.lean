import LiveNotebooks.Launch

/-!
# The program

Reads the arguments, the environment and the places where the interpreter may be, and
prints what the launch comes to.  The program has no sockets of its own, so a service that
is ready to start fails to listen.
-/

namespace LiveNotebooks
namespace Program

/-- The variables that count. -/
def variableNames : List String :=
  CommandLine.Setting.all.map (·.environmentName) ++ Launch.styleVariables

/-- Those of the variables that are set. -/
def environment : IO CommandLine.Environment :=
  variableNames.filterMapM fun name => do
    let value ← IO.getEnv name
    pure (value.map fun v => (name, Utf8.encode v))

/-- Can the file at a path be read? -/
def canRead (path : Path) : IO Bool := do
  try
    let handle ← IO.FS.Handle.mk (Path.display path) .read
    let _ ← handle.read 1
    pure true
  catch _ => pure false

def programFiles (files : Files) (places : List Path) : IO Files :=
  places.foldlM
    (fun files path => do
      if ← canRead path then pure (files.create path (.file [] 0o755)) else pure files)
    files

/-- The places at which the interpreter of a command line may be. -/
def places (files : Files) (searchPath : Option Bytes) : CommandLine.Outcome → List Path
  | .request r =>
      match files.candidates searchPath (Utf8.encode r.configuration.interpreter) with
      | .ok places => places
      | .error _ => []
  | .help _ | .refused _ => []

/-- The operation is not supported. -/
def unsupported : SystemError := ⟨95⟩

/-- Launches the program and prints what comes of it. -/
def run (args : List String) : IO UInt32 := do
  let args := args.map Utf8.encode
  let env ← environment
  let searchPath ← IO.getEnv "PATH"
  let searchPath := searchPath.map Utf8.encode
  let here := Path.parts (Utf8.encode (← IO.currentDir).toString)
  let known : Files := ⟨[], here, 0⟩
  let files ← programFiles known (places known searchPath (CommandLine.parse args env))
  match Launch.begin files searchPath args env with
  | .ended exitCode output errorOutput =>
      (← IO.getStdout).putStr output
      (← IO.getStderr).putStr errorOutput
      pure exitCode.toUInt32
  | .ready _ _ =>
      (← IO.getStderr).putStr (Launch.listenFailureText unsupported)
      pure 1

end Program
end LiveNotebooks

/-- The program. -/
def main (args : List String) : IO UInt32 := LiveNotebooks.Program.run args
