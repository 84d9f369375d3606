import LiveNotebooks.Conversion.Error
import LiveNotebooks.Json.Reader
import LiveNotebooks.Text.Blank

/-!
# The output of a converter

A converter process writes the contents of the notebook as one JSON object to its standard
output.  Whatever else comes of it is an error that shows both outputs.
-/

namespace LiveNotebooks

/-- The result of a conversion. -/
abbrev ConversionResult := Except ConversionError Json.Value

/-- What a finished process leaves behind. -/
structure ProcessOutput where
  status : ExitStatus
  standardOutput : Bytes
  standardError : Bytes

namespace ProcessOutput

/-- Both outputs, each as a text of its own, without white space at the end. -/
def combined (o : ProcessOutput) : String :=
  Blank.trimEnd (Utf8.decodeLossy o.standardOutput ++ Utf8.decodeLossy o.standardError)

/-- The contents that the process has written. -/
def contents (o : ProcessOutput) : ConversionResult :=
  if !o.status.isSuccess then .error (.exit o.status o.combined)
  else
    match Json.parse o.standardOutput with
    | .ok v => if v.isObject then .ok v else .error (.notObject o.combined)
    | .error e => .error (.malformed e o.combined)

end ProcessOutput
end LiveNotebooks
