import LiveNotebooks.Json.Value
import LiveNotebooks.Time.Instant

/-!
# Notebooks

A notebook is a document with an identifier, a title, an author, contents that are JSON,
and the moment of its last change.  Its summary is everything but the contents.
-/

namespace LiveNotebooks

/-- A stored document. -/
structure Notebook where
  identifier : String
  title : String
  author : String
  contents : Json.Value
  updatedAt : Instant

/-- A document without its contents. -/
structure Summary where
  identifier : String
  title : String
  author : String
  updatedAt : Instant
  deriving DecidableEq

def Notebook.summary (n : Notebook) : Summary :=
  ⟨n.identifier, n.title, n.author, n.updatedAt⟩

end LiveNotebooks
