/-!
Text as a sequence of Unicode code points. Surrogates count as code points of
their own, since the texts handled here may hold one that has no partner; such
a text has no UTF-8 form, and several answers depend on that. Literals are
written as strings and read through `Text.ofString`.
-/

namespace SyntaxParity

structure CodePoint where
  val : Nat
  lt : val < 0x110000
deriving DecidableEq

namespace CodePoint

def ofChar (c : Char) : CodePoint where
  val := c.toNat
  lt := by
    rcases c.valid with h | h
    · exact Nat.lt_trans h (by decide)
    · exact h.2

/-- The code point with this number, or the replacement character when the
number lies outside the code space. -/
def ofNat (n : Nat) : CodePoint :=
  if h : n < 0x110000 then ⟨n, h⟩ else ⟨0xfffd, by decide⟩

instance : Coe Char CodePoint := ⟨ofChar⟩

/-- A surrogate stands for half of a pair in another encoding and names no
character. -/
def isSurrogate (c : CodePoint) : Bool :=
  0xd800 ≤ c.val && c.val ≤ 0xdfff

def toChar? (c : CodePoint) : Option Char :=
  if c.isSurrogate then none else some (Char.ofNat c.val)

def isIn (c : CodePoint) (ranges : List (Nat × Nat)) : Bool :=
  ranges.any fun (first, last) => first ≤ c.val && c.val ≤ last

theorem ofNat_val (c : CodePoint) : ofNat c.val = c := by
  simp [ofNat, c.lt]

theorem val_ofNat {n : Nat} (h : n < 0x110000) : (ofNat n).val = n := by
  rw [ofNat, dif_pos h]

end CodePoint

abbrev Text := List CodePoint

namespace Text

def ofString (s : String) : Text :=
  s.toList.map CodePoint.ofChar

instance : Coe String Text := ⟨ofString⟩

/-- The string with the same characters; a text with a surrogate has none. -/
def toString? (t : Text) : Option String :=
  (t.mapM CodePoint.toChar?).map String.ofList

def concat (pieces : List Text) : Text :=
  pieces.flatten

def joinWith (separator : Text) (pieces : List Text) : Text :=
  separator.intercalate pieces

def joinLines (lines : List Text) : Text :=
  joinWith "\n" lines

def printLines (lines : List Text) : Text :=
  lines.flatMap (· ++ "\n")

def ofNat (n : Nat) : Text :=
  (Nat.toDigits 10 n).map CodePoint.ofChar

def ofInt : Int → Text
  | .ofNat n => ofNat n
  | .negSucc n => "-" ++ ofNat (n + 1)

/-- The first `length` code points; a negative length drops that many from the
end instead. -/
def firstPart (t : Text) (length : Int) : Text :=
  match length with
  | .ofNat n => t.take n
  | .negSucc n => t.take (t.length - (n + 1))

/-- The first part of a text followed by three dots, whether or not anything
was cut off. -/
def preview (t : Text) (length : Int) : Text :=
  t.firstPart length ++ "..."

def le (s t : Text) : Bool :=
  match s, t with
  | [], _ => true
  | _ :: _, [] => false
  | c :: s', d :: t' => c.val < d.val || (c == d && le s' t')

end Text

end SyntaxParity
