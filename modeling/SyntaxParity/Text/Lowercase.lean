import SyntaxParity.Text.Letters

namespace SyntaxParity

namespace CodePoint

/-- The lower-case form of a code point that stands alone. The capital I with a
dot above becomes a small i and a combining dot. -/
def lowercase (c : CodePoint) : Text :=
  if c.val = 0x130 then
    [ofNat 0x69, ofNat 0x307]
  else
    match lowercaseFamilies.find? (·.has c.val) with
    | some family => [ofNat (family.lower c.val)]
    | none => [c]

end CodePoint

namespace Text

def beginsWithLetter (t : Text) : Bool :=
  match t.dropWhile (·.isCaseIgnorable) with
  | [] => false
  | c :: _ => c.isCased

/-- The lower-case form of the code point `c` between the text before it, read
backwards, and the text after it. -/
def lowercaseBetween (before : Text) (c : CodePoint) (after : Text) : Text :=
  if c.val = 0x3a3 && beginsWithLetter before && !beginsWithLetter after then
    [CodePoint.ofNat 0x3c2]
  else
    c.lowercase

/-- The lower-case form of a text that stands behind `before`, which is read
backwards. -/
def lowercaseAfter (before : Text) : Text → Text
  | [] => []
  | c :: rest => lowercaseBetween before c rest ++ lowercaseAfter (c :: before) rest

def lowercase (t : Text) : Text :=
  lowercaseAfter [] t

end Text

end SyntaxParity
