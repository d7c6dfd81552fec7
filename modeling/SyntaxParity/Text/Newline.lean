import SyntaxParity.Text

namespace SyntaxParity

namespace CodePoint

def newline : CodePoint := ofNat 0xa

def carriageReturn : CodePoint := ofNat 0xd

end CodePoint

namespace Text

/-- The text with one newline for each line ending. The flag tells whether a
carriage return stands right before the text, and so ended the line already. -/
def unifyNewlinesAfter (afterReturn : Bool) : Text → Text
  | [] => []
  | c :: rest =>
    if c = .carriageReturn then .newline :: unifyNewlinesAfter true rest
    else if c = .newline && afterReturn then unifyNewlinesAfter false rest
    else c :: unifyNewlinesAfter false rest

def unifyNewlines (t : Text) : Text :=
  unifyNewlinesAfter false t

end Text

end SyntaxParity
