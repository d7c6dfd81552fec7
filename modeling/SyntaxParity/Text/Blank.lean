import SyntaxParity.Text

namespace SyntaxParity

def CodePoint.blankRanges : List (Nat × Nat) :=
  [(0x9, 0xd), (0x1c, 0x20), (0x85, 0x85), (0xa0, 0xa0), (0x1680, 0x1680),
   (0x2000, 0x200a), (0x2028, 0x2029), (0x202f, 0x202f), (0x205f, 0x205f),
   (0x3000, 0x3000)]

def CodePoint.isBlank (c : CodePoint) : Bool :=
  c.isIn blankRanges

namespace Text

def dense (t : Text) : Text :=
  t.filter (!·.isBlank)

def trim (t : Text) : Text :=
  ((t.dropWhile (·.isBlank)).reverse.dropWhile (·.isBlank)).reverse

/-- The text with one space for each run of blanks. The flag tells whether a
blank stands right before the text, whose run then has its space already. -/
def squeeze (afterBlank : Bool) : Text → Text
  | [] => []
  | c :: rest =>
    if c.isBlank then
      if afterBlank then squeeze true rest else (' ' : CodePoint) :: squeeze true rest
    else
      c :: squeeze false rest

/-- The text with each run of blanks collapsed to one space and none at the
ends. -/
def collapse (t : Text) : Text :=
  trim (squeeze false t)

/-- The words of a text: its maximal runs of code points that are not blank. -/
def words (t : Text) : List Text :=
  (t.splitOnP (·.isBlank)).filter (!·.isEmpty)

end Text

end SyntaxParity
