import SyntaxParity.Bytes

/-!
UTF-8 in both directions. Writing refuses a text with surrogates and says where
the first run of them stands. Reading cuts the bytes into pieces, each either
the bytes of one code point or a longest beginning of such bytes that goes no
further; the strict reading refuses at the first flawed piece, and the lenient
one puts a replacement character in its place.
-/

namespace SyntaxParity.Utf8

/-- The bytes of one code point. A surrogate gets three bytes too; no text with
surrogates is ever written. -/
def encodeOne (c : CodePoint) : Bytes :=
  let low (n : Nat) : UInt8 := UInt8.ofNat (0x80 + n % 64)
  if c.val < 0x80 then
    [UInt8.ofNat c.val]
  else if c.val < 0x800 then
    [UInt8.ofNat (0xc0 + c.val / 64), low c.val]
  else if c.val < 0x10000 then
    [UInt8.ofNat (0xe0 + c.val / 4096), low (c.val / 64), low c.val]
  else
    [UInt8.ofNat (0xf0 + c.val / 262144), low (c.val / 4096), low (c.val / 64), low c.val]

/-- A run of surrogates in a text: the position of its first code point, that
code point, and the number of code points. -/
structure SurrogateRun where
  start : Nat
  first : CodePoint
  length : Nat
deriving DecidableEq

/-- The run of surrogates that begins with the first code point for which `opens`
holds. -/
def runFrom? (opens : CodePoint → Bool) (t : Text) : Option SurrogateRun :=
  match t.dropWhile (!opens ·) with
  | [] => none
  | c :: rest =>
    some
      { start := (t.takeWhile (!opens ·)).length
        first := c
        length := (rest.takeWhile (·.isSurrogate)).length + 1 }

def surrogateRun? (t : Text) : Option SurrogateRun :=
  runFrom? CodePoint.isSurrogate t

def encode (t : Text) : Except SurrogateRun Bytes :=
  match surrogateRun? t with
  | some run => .error run
  | none => .ok (t.flatMap encodeOne)

def SurrogateRun.message (run : SurrogateRun) : Text :=
  if run.length = 1 then
    .concat
      ["'utf-8' codec can't encode character ", Text.quoted [run.first], " in position ",
       .ofNat run.start, ": surrogates not allowed"]
  else
    .concat
      ["'utf-8' codec can't encode characters in position ", .ofNat run.start, "-",
       .ofNat (run.start + run.length - 1), ": surrogates not allowed"]

/-- Why a piece is not the bytes of a code point: its first byte begins none,
or the next byte does not continue it, or there is no next byte. -/
inductive Flaw where
  | start
  | continuation
  | ending
deriving DecidableEq

inductive Piece where
  | sound (c : CodePoint)
  | flawed (bytes : Bytes) (flaw : Flaw)
deriving DecidableEq

/-- What the first byte of a code point announces: the number of bytes to come,
the bits it gives itself, and the bounds of the second byte. -/
structure Lead where
  more : Nat
  bits : Nat
  least : UInt8
  greatest : UInt8

/-- The announcement of a first byte of two, three or four. The bounds of the
second byte keep out surrogates, numbers beyond the code space and forms longer
than necessary. -/
def lead? (b : UInt8) : Option Lead :=
  if 0xc2 ≤ b && b ≤ 0xdf then some ⟨1, b.toNat - 0xc0, 0x80, 0xbf⟩
  else if b = 0xe0 then some ⟨2, 0, 0xa0, 0xbf⟩
  else if b = 0xed then some ⟨2, 0xd, 0x80, 0x9f⟩
  else if 0xe1 ≤ b && b ≤ 0xef then some ⟨2, b.toNat - 0xe0, 0x80, 0xbf⟩
  else if b = 0xf0 then some ⟨3, 0, 0x90, 0xbf⟩
  else if b = 0xf4 then some ⟨3, 4, 0x80, 0x8f⟩
  else if 0xf1 ≤ b && b ≤ 0xf3 then some ⟨3, b.toNat - 0xf0, 0x80, 0xbf⟩
  else none

/-- The piece that begins with the bytes `taken`, read backwards, when `more`
bytes are to come and `bits` is the number so far; with it the bytes left over. -/
def resume (taken : Bytes) (bits : Nat) (least greatest : UInt8) :
    (more : Nat) → Bytes → Piece × Bytes
  | 0, rest => (.sound (.ofNat bits), rest)
  | _ + 1, [] => (.flawed taken.reverse .ending, [])
  | more + 1, b :: rest =>
    if least ≤ b && b ≤ greatest then
      resume (b :: taken) (bits * 64 + (b.toNat - 0x80)) 0x80 0xbf more rest
    else
      (.flawed taken.reverse .continuation, b :: rest)

/-- The piece that begins with the byte `b`, and the bytes left over. -/
def next (b : UInt8) (rest : Bytes) : Piece × Bytes :=
  if b < 0x80 then
    (.sound (.ofNat b.toNat), rest)
  else
    match lead? b with
    | some lead => resume [b] lead.bits lead.least lead.greatest lead.more rest
    | none => (.flawed [b] .start, rest)

theorem resume_length_le (taken : Bytes) (bits : Nat) (least greatest : UInt8) (more : Nat)
    (rest : Bytes) : (resume taken bits least greatest more rest).2.length ≤ rest.length := by
  induction more generalizing taken bits least greatest rest with
  | zero => simp [resume]
  | succ more ih =>
    cases rest with
    | nil => simp [resume]
    | cons b rest =>
      simp only [resume]
      split
      · exact Nat.le_succ_of_le (ih _ _ _ _ rest)
      · exact Nat.le_refl _

theorem next_length_le (b : UInt8) (rest : Bytes) : (next b rest).2.length ≤ rest.length := by
  unfold next
  split
  · exact Nat.le_refl _
  · split
    · exact resume_length_le ..
    · exact Nat.le_refl _

def pieces : Bytes → List Piece
  | [] => []
  | b :: rest => (next b rest).1 :: pieces (next b rest).2
termination_by bytes => bytes.length
decreasing_by
  have h := next_length_le b rest
  simp only [List.length_cons]
  omega

namespace Piece

def codePoint? : Piece → Option CodePoint
  | .sound c => some c
  | .flawed .. => none

def replaced : Piece → CodePoint
  | .sound c => c
  | .flawed .. => .ofNat 0xfffd

def size : Piece → Nat
  | .sound c => (encodeOne c).length
  | .flawed bytes _ => bytes.length

def totalSize : List Piece → Nat
  | [] => 0
  | piece :: rest => piece.size + totalSize rest

end Piece

structure Malformed where
  start : Nat
  bytes : Bytes
  flaw : Flaw
deriving DecidableEq

/-- The strict reading of a byte sequence. -/
def decode (bytes : Bytes) : Except Malformed Text :=
  let all := pieces bytes
  match all.dropWhile (·.codePoint?.isSome) with
  | .flawed bytes flaw :: _ =>
    .error ⟨Piece.totalSize (all.takeWhile (·.codePoint?.isSome)), bytes, flaw⟩
  | _ => .ok (all.filterMap Piece.codePoint?)

/-- The lenient reading of a byte sequence. -/
def decodeReplacing (bytes : Bytes) : Text :=
  (pieces bytes).map Piece.replaced

def Flaw.name : Flaw → Text
  | .start => "invalid start byte"
  | .continuation => "invalid continuation byte"
  | .ending => "unexpected end of data"

def Malformed.message (m : Malformed) : Text :=
  match m.bytes with
  | [b] =>
    .concat
      ["'utf-8' codec can't decode byte 0x", .hex 2 b.toNat, " in position ", .ofNat m.start,
       ": ", m.flaw.name]
  | bytes =>
    .concat
      ["'utf-8' codec can't decode bytes in position ", .ofNat m.start, "-",
       .ofNat (m.start + bytes.length - 1), ": ", m.flaw.name]

end SyntaxParity.Utf8
