import SyntaxParity.Text.Quoted

namespace SyntaxParity

abbrev Bytes := List UInt8

namespace Bytes

/-- The text whose code points are the bytes. -/
def toText (bytes : Bytes) : Text :=
  bytes.map fun b => CodePoint.ofNat b.toNat

/-- The quoted form of bytes: the letter b, then the quoted form of the bytes
as code points, of which only the printable ones below 128 stand for
themselves. -/
def quoted (bytes : Bytes) : Text :=
  "b" ++ bytes.toText.quotedWith fun c => c.isPrintable && c.val < 0x80

def slice (bytes : Bytes) (start stop : Nat) : Bytes :=
  (bytes.take stop).drop start

end Bytes

end SyntaxParity
