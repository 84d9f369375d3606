import LiveNotebooks.Conversion.Output
import LiveNotebooks.ErrorPage
import LiveNotebooks.Store
import LiveNotebooks.Trace

/-!
# Conversions

A converted file is stored under its name, with the contents that the converter made of
it, or with a page that shows why there are none. A failed conversion still yields a
document. -/

namespace LiveNotebooks

/-- A finished conversion that is not yet stored. -/
structure Conversion where
  identifier : String
  result : ConversionResult

namespace Conversion

/-- What storing a conversion came to. -/
structure Outcome where
  identifier : String
  /-- Does the document show an error? -/
  isFallback : Bool
  deriving DecidableEq

/-- Did the conversion fail? -/
def isFallback (c : Conversion) : Bool :=
  match c.result with
  | .ok _ => false
  | .error _ => true

def contents (c : Conversion) : Json.Value :=
  match c.result with
  | .ok v => v
  | .error e => ErrorPage.contents e.message

/-- The document to store. -/
def notebook (c : Conversion) (author : String) (now : Instant) : Notebook :=
  ⟨c.identifier, c.identifier, author, c.contents, now⟩

def lines (path : Path) (result : ConversionResult) : List LogLine :=
  match result with
  | .ok _ => []
  | .error e =>
      [.warning ("failed to convert " ++ Path.display path ++ ": " ++ e.message)]

/-- What storing the conversion comes to. -/
def outcome (c : Conversion) : Outcome := ⟨c.identifier, c.isFallback⟩

/-- The line on a stored conversion. -/
def loadedLines (c : Conversion) : List LogLine :=
  if c.isFallback then [] else [.debug ("loaded " ++ c.identifier)]

/-- Stores a conversion. -/
def commit (c : Conversion) (author : String) (now : Instant) (store : Store) : Store × Trace :=
  let (store, event) := store.put (c.notebook author now)
  (store, ⟨[event], c.loadedLines⟩)

end Conversion
end LiveNotebooks
