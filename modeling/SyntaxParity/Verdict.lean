import SyntaxParity.Text.Blank

namespace SyntaxParity

structure Verdict where
  differences : List Text
deriving DecidableEq

namespace Verdict

def isEqual (v : Verdict) : Bool :=
  v.differences.isEmpty

def report (v : Verdict) : Text :=
  .joinLines v.differences

end Verdict

/-- What is reported of two texts that could not be compared as trees and whose
words differ. -/
def Text.wordsDiffer : Text :=
  "String comparison (language not supported for AST): texts differ"

def Text.compareWords (expected actual : Text) : List Text :=
  if expected.collapse = actual.collapse then [] else [wordsDiffer]

end SyntaxParity
