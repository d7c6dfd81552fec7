import Mathlib.Tactic.SplitIfs
import SyntaxParity.Node
import SyntaxParity.Proofs.Encoding

/-!
Reading back what was written in UTF-8. The first byte of a code point announces
how many bytes follow and which of them may come next, and what was written keeps
within that; so the bytes of a text are cut into the bytes of its code points,
whatever stands behind them. A part of the bytes that begins and ends between two
code points is then read as that part of the text.
-/

namespace SyntaxParity.Utf8

theorem toNat_ofNat {n : Nat} (h : n < 256) : (UInt8.ofNat n).toNat = n :=
  UInt8.toNat_ofNat_of_lt' h

theorem lead?_ofNat {n : Nat} (h : n < 256) :
    lead? (UInt8.ofNat n) =
      if 0xc2 ≤ n ∧ n ≤ 0xdf then some ⟨1, n - 0xc0, 0x80, 0xbf⟩
      else if n = 0xe0 then some ⟨2, 0, 0xa0, 0xbf⟩
      else if n = 0xed then some ⟨2, 0xd, 0x80, 0x9f⟩
      else if 0xe1 ≤ n ∧ n ≤ 0xef then some ⟨2, n - 0xe0, 0x80, 0xbf⟩
      else if n = 0xf0 then some ⟨3, 0, 0x90, 0xbf⟩
      else if n = 0xf4 then some ⟨3, 4, 0x80, 0x8f⟩
      else if 0xf1 ≤ n ∧ n ≤ 0xf3 then some ⟨3, n - 0xf0, 0x80, 0xbf⟩
      else none := by
  simp [lead?, UInt8.le_iff_toNat_le, ← UInt8.toNat_inj, toNat_ofNat h]

/-- A first byte announces what is to come: so many more bytes, of which the
first carries the six bits `second`, behind the bits of its own. -/
structure Announces (b : UInt8) (more bits second : Nat) : Prop where
  large : 0x80 ≤ b.toNat
  lead : ∃ least greatest, lead? b = some ⟨more, bits, least, greatest⟩ ∧
    least.toNat ≤ 0x80 + second ∧ 0x80 + second ≤ greatest.toNat

theorem announces_two {n m : Nat} (h : 2 ≤ n) (h' : n < 32) (hm : m < 64) :
    Announces (UInt8.ofNat (0xc0 + n)) 1 n m := by
  refine ⟨?_, 0x80, 0xbf, ?_, ?_⟩
  · rw [toNat_ofNat] <;> omega
  · rw [lead?_ofNat (by omega), if_pos (by omega), Nat.add_sub_cancel_left]
  · simp; omega

theorem announces_three {n m : Nat} (h : n < 16) (hm : m < 64) (long : 0 < n ∨ 32 ≤ m)
    (whole : n ≠ 13 ∨ m < 32) : Announces (UInt8.ofNat (0xe0 + n)) 2 n m := by
  refine ⟨?_, if n = 0 then 0xa0 else 0x80, if n = 13 then 0x9f else 0xbf, ?_, ?_⟩
  · rw [toNat_ofNat] <;> omega
  · rw [lead?_ofNat (by omega), if_neg (by omega)]
    grind
  · split_ifs <;> simp <;> omega

theorem announces_four {n m : Nat} (h : n < 5) (hm : m < 64) (long : 0 < n ∨ 16 ≤ m)
    (inside : n ≠ 4 ∨ m < 16) : Announces (UInt8.ofNat (0xf0 + n)) 3 n m := by
  refine ⟨?_, if n = 0 then 0x90 else 0x80, if n = 4 then 0x8f else 0xbf, ?_, ?_⟩
  · rw [toNat_ofNat] <;> omega
  · rw [lead?_ofNat (by omega)]
    grind
  · split_ifs <;> simp <;> omega

theorem resume_low (taken : Bytes) (bits more n : Nat) {least greatest : UInt8} (rest : Bytes)
    (h : least.toNat ≤ 0x80 + n % 64) (h' : 0x80 + n % 64 ≤ greatest.toNat) :
    resume taken bits least greatest (more + 1) (UInt8.ofNat (0x80 + n % 64) :: rest) =
      resume (UInt8.ofNat (0x80 + n % 64) :: taken) (bits * 64 + n % 64) 0x80 0xbf more rest := by
  have value : (UInt8.ofNat (0x80 + n % 64)).toNat = 0x80 + n % 64 := toNat_ofNat (by omega)
  have inside : (decide (least ≤ UInt8.ofNat (0x80 + n % 64)) &&
      decide (UInt8.ofNat (0x80 + n % 64) ≤ greatest)) = true := by
    simp only [UInt8.le_iff_toNat_le, value, h, h', decide_true, Bool.and_self]
  rw [resume, if_pos inside, value, Nat.add_sub_cancel_left]

theorem resume_continuation (taken : Bytes) (bits more n : Nat) (rest : Bytes) :
    resume taken bits 0x80 0xbf (more + 1) (UInt8.ofNat (0x80 + n % 64) :: rest) =
      resume (UInt8.ofNat (0x80 + n % 64) :: taken) (bits * 64 + n % 64) 0x80 0xbf more rest :=
  resume_low taken bits more n rest (by simp) (by simp; omega)

theorem next_of_announces {b : UInt8} {more bits n : Nat} (h : Announces b (more + 1) bits (n % 64))
    (rest : Bytes) :
    next b (UInt8.ofNat (0x80 + n % 64) :: rest) =
      resume [UInt8.ofNat (0x80 + n % 64), b] (bits * 64 + n % 64) 0x80 0xbf more rest := by
  obtain ⟨large, least, greatest, lead, low, high⟩ := h
  have notAscii : ¬ b < 0x80 := by
    rw [UInt8.lt_iff_toNat_lt]
    exact Nat.not_lt.mpr large
  rw [next, if_neg notAscii, lead]
  exact resume_low [b] bits more n rest low high

theorem resume_zero (taken : Bytes) {bits : Nat} (least greatest : UInt8) (rest : Bytes)
    {c : CodePoint} (h : bits = c.val) :
    resume taken bits least greatest 0 rest = (.sound c, rest) := by
  rw [resume, h, CodePoint.ofNat_val]

theorem next_encodeOne {c : CodePoint} (h : c.isSurrogate = false) (rest : Bytes) :
    ∃ b tail, encodeOne c = b :: tail ∧ next b (tail ++ rest) = (.sound c, rest) := by
  have bound := c.lt
  simp only [CodePoint.isSurrogate, Bool.and_eq_false_iff, decide_eq_false_iff_not] at h
  unfold encodeOne
  -- by the number of bytes; a surrogate is the one thing that three bytes would not read back
  split_ifs with one two three
  · refine ⟨_, _, rfl, ?_⟩
    have value := toNat_ofNat (n := c.val) (by omega)
    have ascii : UInt8.ofNat c.val < 0x80 := by
      rw [UInt8.lt_iff_toNat_lt, value]
      exact one
    rw [List.nil_append, next, if_pos ascii, value, CodePoint.ofNat_val]
  · refine ⟨_, _, rfl, ?_⟩
    have lead := announces_two (n := c.val / 64) (m := c.val % 64) (by omega) (by omega) (by omega)
    rw [List.cons_append, List.nil_append, next_of_announces lead, resume_zero]
    omega
  · refine ⟨_, _, rfl, ?_⟩
    have lead := announces_three (n := c.val / 4096) (m := c.val / 64 % 64)
      (by omega) (by omega) (by omega) (by omega)
    rw [List.cons_append, next_of_announces lead, List.cons_append, List.nil_append,
      resume_continuation, resume_zero]
    omega
  · refine ⟨_, _, rfl, ?_⟩
    have lead := announces_four (n := c.val / 262144) (m := c.val / 4096 % 64)
      (by omega) (by omega) (by omega) (by omega)
    rw [List.cons_append, next_of_announces lead, List.cons_append, resume_continuation,
      List.cons_append, List.nil_append, resume_continuation, resume_zero]
    omega

/-- The bytes of a text are read as its code points, whatever follows them. -/
theorem pieces_encode {t : Text} (h : t.Encodable) (rest : Bytes) :
    pieces (t.flatMap encodeOne ++ rest) = t.map .sound ++ pieces rest := by
  induction t with
  | nil => rfl
  | cons c t ih =>
    have ih := ih fun d member => h d (List.mem_cons_of_mem c member)
    obtain ⟨b, tail, bytes, read⟩ :=
      next_encodeOne (h c List.mem_cons_self) (t.flatMap encodeOne ++ rest)
    rw [List.flatMap_cons, bytes, List.append_assoc, List.cons_append, pieces, read, ih]
    rfl

theorem decodeReplacing_encode {t : Text} (h : t.Encodable) :
    decodeReplacing (t.flatMap encodeOne) = t := by
  have read := pieces_encode h []
  rw [List.append_nil, pieces, List.append_nil] at read
  rw [decodeReplacing, read, List.map_map]
  exact List.map_id t

theorem take_append_between {α : Type} (items : List α) {i j : Nat} (h : i ≤ j) :
    items.take i ++ (items.take j).drop i = items.take j := by
  have first : items.take i = (items.take j).take i := by rw [List.take_take, min_eq_left h]
  rw [first, List.take_append_drop]

def offset (t : Text) (position : Nat) : Nat :=
  ((t.take position).flatMap encodeOne).length

theorem slice_encode (t : Text) {i j : Nat} (h : i ≤ j) :
    Bytes.slice (t.flatMap encodeOne) (offset t i) (offset t j) =
      ((t.take j).drop i).flatMap encodeOne := by
  have whole : t.flatMap encodeOne =
      (t.take j).flatMap encodeOne ++ (t.drop j).flatMap encodeOne := by
    rw [← List.flatMap_append, List.take_append_drop]
  have front : (t.take j).flatMap encodeOne =
      (t.take i).flatMap encodeOne ++ ((t.take j).drop i).flatMap encodeOne := by
    rw [← List.flatMap_append, take_append_between t h]
  unfold Bytes.slice offset
  rw [whole, List.take_left, front, List.drop_left]

end SyntaxParity.Utf8

namespace SyntaxParity.Node

/-- A node spans the part of a source between two positions: its text are the
bytes there. -/
def Spans (n : Node) (source : Text) (i j : Nat) : Prop :=
  n.content = .bytes
    (Bytes.slice (source.flatMap Utf8.encodeOne) (Utf8.offset source i) (Utf8.offset source j))

theorem Spans.text {n : Node} {source : Text} {i j : Nat} (h : n.Spans source i j) (le : i ≤ j)
    (encodable : source.Encodable) : n.text = (source.take j).drop i := by
  have inside : Text.Encodable ((source.take j).drop i) :=
    fun c member => encodable c (List.mem_of_mem_take (List.mem_of_mem_drop member))
  rw [Node.text, h, Content.toText, Utf8.slice_encode source le, Utf8.decodeReplacing_encode inside]

end SyntaxParity.Node
