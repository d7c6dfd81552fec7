import SyntaxParity.Text.Lowercase
import SyntaxParity.Argument

/-!
Paths: a root and the components below it. A path is written with single
slashes and without `.` components, whatever it was read from; `..` stays. The
suffix of the last component tells the language of a source file.
-/

namespace SyntaxParity

namespace CodePoint

def slash : CodePoint := ofNat 0x2f

def dot : CodePoint := ofNat 0x2e

end CodePoint

/-- A path. The root is empty for a relative path, and one or two slashes
otherwise. -/
structure Path where
  root : Text
  components : List Text
deriving DecidableEq

namespace Path

/-- The root of a written path: exactly two slashes at the front are a root of
their own, any other number of them counts as one. -/
def rootOf (t : Text) : Text :=
  match (t.takeWhile (· == .slash)).length with
  | 0 => ""
  | 2 => "//"
  | _ => "/"

/-- The path that a text writes. Empty components and single dots are left
out. -/
def ofText (t : Text) : Path where
  root := rootOf t
  components := (t.splitOnP (· == .slash)).filter fun c => !c.isEmpty && c != [.dot]

/-- The written form of a path; an empty one is a single dot. -/
def render (p : Path) : Text :=
  if p.root.isEmpty && p.components.isEmpty then "."
  else p.root ++ .joinWith "/" p.components

def name (p : Path) : Text :=
  p.components.getLast?.getD []

/-- The suffix of a path: the part of its name from the last dot on, if that dot
is neither the first nor the last sign of the name. -/
def suffix (p : Path) : Text :=
  let afterDot := (p.name.reverse.takeWhile (· != .dot)).reverse
  let stem := p.name.length - afterDot.length - 1
  if afterDot.isEmpty || stem = 0 then [] else .dot :: afterDot

def languagesBySuffix : List (Text × Text) :=
  [(".js", "javascript"), (".ts", "typescript"), (".jsx", "javascriptreact"),
   (".tsx", "typescriptreact"), (".py", "python"), (".java", "java"), (".cs", "csharp"),
   (".cpp", "cpp"), (".c", "c")]

def defaultLanguage : Text := "plaintext"

def language (p : Path) : Text :=
  (languagesBySuffix.lookup p.suffix.lowercase).getD defaultLanguage

end Path

def Argument.path : Argument → Except Misuse Path
  | .text t => .ok (.ofText t)
  | .bytes _ => .error .bytesPath
  | .other typeName => .error (.notPath typeName)

end SyntaxParity
