import LiveNotebooks.Json.Record
import LiveNotebooks.System.Path
import LiveNotebooks.Time.Span

/-!
# Configuration

Nine settings tell where the notebooks are, how they are converted and how soon changes
are picked up.  Every setting has a default.  A configuration is read from a JSON object,
or from a list of the values in the order of the settings.
-/

namespace LiveNotebooks

/-- The settings of the service. -/
structure Configuration where
  notebookDirectory : Path := Utf8.encode "../notebooks"
  interpreter : String := "python"
  converterScript : Path := Utf8.encode "../src/parser.py"
  author : String := "unknown"
  /-- In seconds. -/
  convertTimeout : Option Nat := none
  convertRetries : Nat := 0
  scanConcurrency : Nat := 4
  /-- In milliseconds. -/
  reloadDebounce : Nat := 100
  staticDirectory : Option Path := none
  deriving DecidableEq

namespace Configuration

/-- The time after which a conversion is given up. -/
def timeoutSpan (c : Configuration) : Option Span := c.convertTimeout.map Span.ofSeconds

/-- The time for which a burst of writes has to be quiet. -/
def debounceSpan (c : Configuration) : Span := .ofMillis c.reloadDebounce

/-- A configuration under construction, and the settings that have been given. -/
structure Draft where
  settings : Configuration := {}
  given : List String := []

open Json

/-- A field that replaces the default of a setting. -/
def setting {α : Type} (name : String) (reader : PartReader α)
    (set : Configuration → α → Configuration) : Json.Field Draft where
  name := name
  isGiven d := d.given.contains name
  read d := fun fuel levels text =>
    (reader fuel levels text).map fun r => (⟨set d.settings r.1, name :: d.given⟩, r.2)

def readPath : PartReader Path :=
  readDenoting "path string" fun s => .ok (Utf8.encode s)

/-- Reads a natural number below `2 ^ 64`. -/
def readU64 : PartReader Nat := readNatural "u64" (Nat.pow 2 64)

/-- Reads a natural number below `2 ^ 32`. -/
def readU32 : PartReader Nat := readNatural "u32" (Nat.pow 2 32)

def readSize : PartReader Nat := readNatural "usize" (Nat.pow 2 64)

/-- How a configuration is read. -/
def schema : Schema Draft Configuration where
  title := "struct NotebookConfig"
  fields :=
    [setting "notebook_dir" readPath fun c v => { c with notebookDirectory := v },
      setting "interpreter" (readString "a string") fun c v => { c with interpreter := v },
      setting "converter_script" readPath fun c v => { c with converterScript := v },
      setting "author" (readString "a string") fun c v => { c with author := v },
      setting "convert_timeout_secs" (readOptional readU64) fun c v =>
        { c with convertTimeout := v },
      setting "convert_retries" readU32 fun c v => { c with convertRetries := v },
      setting "scan_concurrency" readSize fun c v => { c with scanConcurrency := v },
      setting "reload_debounce_ms" readU64 fun c v => { c with reloadDebounce := v },
      setting "static_dir" (readOptional readPath) fun c v => { c with staticDirectory := v }]
  blank := {}
  finish d := .ok d.settings

def parse (text : Bytes) : Except Json.Error Configuration := schema.parse text

end Configuration
end LiveNotebooks
