import SyntaxParity.Text.Printable

/-!
The quoted form of a text, in which every code point can be told apart: quotes
around it, and an escape for the quote itself, the backslash and whatever may
not stand for itself.
-/

namespace SyntaxParity

namespace CodePoint

def singleQuote : CodePoint := ofNat 0x27

def doubleQuote : CodePoint := ofNat 0x22

def backslash : CodePoint := ofNat 0x5c

end CodePoint

def Text.hex (width n : Nat) : Text :=
  (List.range width).reverse.map fun i => CodePoint.ofChar (Nat.digitChar (n / Nat.pow 16 i % 16))

/-- The quote around a text in quoted form: the single one, unless the text
holds single quotes and no double ones. -/
def Text.quoteFor (t : Text) : CodePoint :=
  if t.contains .singleQuote && !t.contains .doubleQuote then .doubleQuote else .singleQuote

namespace CodePoint

/-- An escape by number has two, four or eight digits, as few as suffice. -/
def escaped (c : CodePoint) : Text :=
  if c.val < 0x100 then "\\x" ++ Text.hex 2 c.val
  else if c.val < 0x10000 then "\\u" ++ Text.hex 4 c.val
  else "\\U" ++ Text.hex 8 c.val

/-- How a code point stands between two quotes, when the code points that
satisfy `plain` may stand for themselves. -/
def quoted (plain : CodePoint → Bool) (quote c : CodePoint) : Text :=
  if c = quote ∨ c = backslash then [backslash, c]
  else if c = ofChar '\t' then "\\t"
  else if c = ofChar '\n' then "\\n"
  else if c = ofChar '\r' then "\\r"
  else if plain c then [c]
  else c.escaped

end CodePoint

namespace Text

def quotedWith (plain : CodePoint → Bool) (t : Text) : Text :=
  let quote := t.quoteFor
  quote :: t.flatMap (CodePoint.quoted plain quote) ++ [quote]

def quoted (t : Text) : Text :=
  t.quotedWith CodePoint.isPrintable

end Text

end SyntaxParity
