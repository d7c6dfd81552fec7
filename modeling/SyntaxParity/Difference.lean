import SyntaxParity.Location

namespace SyntaxParity

/-- A disagreement of two nodes at one place: of their kinds, of their texts, or
of the counts of named children they report. A disagreement of the texts keeps
the kind that the two nodes share. -/
inductive Difference where
  | kinds (place : Location) (expected actual : Text)
  | texts (place : Location) (kind expected actual : Text)
  | counts (place : Location) (expected actual : Int)
deriving DecidableEq

namespace Difference

def previewLength : Nat := 50

def place : Difference → Location
  | .kinds place .. => place
  | .texts place .. => place
  | .counts place .. => place

def render : Difference → Text
  | .kinds place expected actual =>
    .concat
      ["Node type mismatch at ", place.render, ": expected \"", expected, "\", got \"", actual,
       "\""]
  | .texts place kind expected actual =>
    .concat
      ["Node text mismatch at ", place.render, " (", kind, "):\n  Expected: \"",
       expected.preview previewLength, "\"\n  Actual:   \"", actual.preview previewLength, "\""]
  | .counts place expected actual =>
    .concat
      ["Child count mismatch at ", place.render, ": expected ", .ofInt expected, ", got ",
       .ofInt actual]

end Difference

end SyntaxParity
