import LiveNotebooks.Json.Value

/-!
# The page shown for a failed conversion

The contents of a notebook that could not be converted are one page with one cell.  The
cell shows the message in a code block, fenced by more backticks than stand together
anywhere in the message, and by three at least.
-/

namespace LiveNotebooks
namespace ErrorPage

/-- The fence character. -/
def backtick : Char := '\x60'

/-- The length of the longest run of backticks, given the length of the run that ends
here and the longest one so far. -/
def longestRunFrom : List Char → Nat → Nat → Nat
  | [], _, longest => longest
  | c :: rest, current, longest =>
      if c = backtick then longestRunFrom rest (current + 1) (max longest (current + 1))
      else longestRunFrom rest 0 longest

/-- The length of the longest run of backticks. -/
def longestRun (message : List Char) : Nat := longestRunFrom message 0 0

def fence (message : String) : String :=
  String.ofList (List.replicate (max (longestRun message.toList) 2 + 1) backtick)

def heading : String := "# Conversion failed"

/-- The text of the cell. -/
def source (message : String) : String :=
  heading ++ "\n\n" ++ fence message ++ "\n" ++ message ++ "\n" ++ fence message

def cell (text : String) : Json.Value :=
  .object
    [("id", .number (.integer 1)), ("cell_type", .text "markdown"), ("subtype", .text "view"),
      ("source", .text text), ("outputs", .array [])]

def contents (message : String) : Json.Value :=
  .object [("cells", .array [.array [cell (source message)]])]

end ErrorPage
end LiveNotebooks
