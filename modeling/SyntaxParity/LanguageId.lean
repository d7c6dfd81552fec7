import SyntaxParity.Argument
import SyntaxParity.Text.Lowercase

namespace SyntaxParity

/-- The normal form of a language id: no blanks at the ends, lower case. -/
def Text.languageKey (t : Text) : Text :=
  t.trim.lowercase

/-- The normal form of a language id of bytes. Only ASCII blanks and letters
count here. -/
def Bytes.languageKey (bytes : Bytes) : Bytes :=
  let isBlank (b : UInt8) : Bool := (0x9 ≤ b && b ≤ 0xd) || b == 0x20
  let lower (b : UInt8) : UInt8 := if 0x41 ≤ b && b ≤ 0x5a then b + 0x20 else b
  (((bytes.dropWhile isBlank).reverse.dropWhile isBlank).reverse).map lower

inductive LanguageId where
  | text (text : Text)
  | bytes (bytes : Bytes)
deriving DecidableEq

namespace LanguageId

def key : LanguageId → LanguageId
  | .text t => .text t.languageKey
  | .bytes b => .bytes b.languageKey

def quoted : LanguageId → Text
  | .text t => t.quoted
  | .bytes b => b.quoted

end LanguageId

def Argument.languageId : Argument → Except Misuse LanguageId
  | .text t => .ok (.text t)
  | .bytes b => .ok (.bytes b)
  | .other typeName => .error (.notStrippable typeName)

end SyntaxParity
