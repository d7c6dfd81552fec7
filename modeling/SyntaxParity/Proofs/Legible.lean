import Mathlib.Data.List.Basic
import Mathlib.Tactic.Ring
import Mathlib.Tactic.SplitIfs
import SyntaxParity.Text.Newline
import SyntaxParity.Text.Quoted

/-!
What is written can be read again. Decimal numbers tell the integer they write,
quoted forms tell the text they quote, and lines that hold no newline can be told
from their joined form. Quoted forms are read one code point after the other, an
escape by the sign behind its backslash.
-/

namespace SyntaxParity

namespace Text

/-- What stands before the first occurrence of a code point can be told, and so
can what stands behind it. -/
theorem append_stop_inj {c : CodePoint} {x y rest rest' : Text} (hx : c ∉ x) (hy : c ∉ y)
    (h : x ++ c :: rest = y ++ c :: rest') : x = y ∧ rest = rest' := by
  induction x generalizing y with
  | nil =>
    cases y with
    | nil => exact ⟨rfl, (List.cons.inj h).2⟩
    | cons d y => exact (hy (by rw [(List.cons.inj h).1]; exact List.mem_cons_self)).elim
  | cons d x ih =>
    cases y with
    | nil => exact (hx (by rw [← (List.cons.inj h).1]; exact List.mem_cons_self)).elim
    | cons d' y =>
      obtain ⟨rfl, tails⟩ := List.cons.inj h
      obtain ⟨rfl, rests⟩ :=
        ih (fun m => hx (List.mem_cons_of_mem d m)) (fun m => hy (List.mem_cons_of_mem d m)) tails
      exact ⟨rfl, rests⟩

/-- If each item can be read back in front of any text, a sequence of items can. -/
theorem flatMap_injective {α : Type} {write : α → Text} {read : Text → Option (α × Text)}
    (empty : read [] = none) (front : ∀ a rest, read (write a ++ rest) = some (a, rest)) :
    Function.Injective (List.flatMap write) := by
  intro x
  induction x with
  | nil =>
    intro y h
    cases y with
    | nil => rfl
    | cons b y =>
      have first := front b (y.flatMap write)
      rw [← List.flatMap_cons, ← h, List.flatMap_nil, empty] at first
      cases first
  | cons a x ih =>
    intro y h
    have first := front a (x.flatMap write)
    rw [← List.flatMap_cons, h] at first
    cases y with
    | nil =>
      rw [List.flatMap_nil, empty] at first
      cases first
    | cons b y =>
      rw [List.flatMap_cons, front, Option.some.injEq, Prod.mk.injEq] at first
      obtain ⟨rfl, tails⟩ := first
      rw [ih tails.symm]

end Text

namespace CodePoint

theorem ofChar_injective : Function.Injective ofChar := by
  intro c d h
  exact Char.toNat_inj.mp (congrArg val h)

def IsNumeric (c : CodePoint) : Prop :=
  c = ofChar '-' ∨ (0x30 ≤ c.val ∧ c.val ≤ 0x39)

instance (c : CodePoint) : Decidable c.IsNumeric :=
  inferInstanceAs (Decidable (_ ∨ _))

end CodePoint

namespace Text

theorem ofNat_injective : Function.Injective ofNat := by
  intro n m h
  have digits := List.map_injective_iff.mpr CodePoint.ofChar_injective h
  rw [← Nat.ofDigitChars_toDigits (b := 10) (n := n) (by decide) (by decide), digits,
    Nat.ofDigitChars_toDigits (by decide) (by decide)]

theorem digit_of_mem_ofNat {n : Nat} {c : CodePoint} (h : c ∈ ofNat n) :
    0x30 ≤ c.val ∧ c.val ≤ 0x39 := by
  obtain ⟨d, member, rfl⟩ := List.mem_map.mp h
  have digit := Nat.isDigit_of_mem_toDigits (by decide) (by decide) member
  exact Char.isDigit_iff_toNat.mp digit

theorem isNumeric_of_mem_ofInt {i : Int} {c : CodePoint} (h : c ∈ ofInt i) : c.IsNumeric := by
  cases i with
  | ofNat n => exact .inr (digit_of_mem_ofNat h)
  | negSucc n =>
    rcases List.mem_cons.mp h with sign | digit
    · exact .inl sign
    · exact .inr (digit_of_mem_ofNat digit)

theorem notMem_ofInt {i : Int} {c : CodePoint} (h : ¬ c.IsNumeric) : c ∉ ofInt i :=
  fun member => h (isNumeric_of_mem_ofInt member)

theorem ofNat_ne_negative (n : Nat) (digits : Text) : ofNat n ≠ .ofChar '-' :: digits := by
  intro h
  have member : CodePoint.ofChar '-' ∈ ofNat n := by
    rw [h]
    exact List.mem_cons_self
  exact absurd (digit_of_mem_ofNat member).1 (by decide)

theorem ofInt_injective : Function.Injective ofInt := by
  intro i j h
  cases i with
  | ofNat n =>
    cases j with
    | ofNat m => exact congrArg Int.ofNat (ofNat_injective h)
    | negSucc m => exact (ofNat_ne_negative n _ h).elim
  | negSucc n =>
    cases j with
    | ofNat m => exact (ofNat_ne_negative m _ h.symm).elim
    | negSucc m =>
      have numbers := ofNat_injective (List.cons.inj h).2
      exact congrArg Int.negSucc (Nat.succ.inj numbers)

end Text

namespace CodePoint

def hexValue (c : CodePoint) : Nat :=
  if c.val < 0x3a then c.val - 0x30 else c.val - 0x57

theorem hexValue_digitChar {n : Nat} (h : n < 16) : (ofChar (Nat.digitChar n)).hexValue = n := by
  revert n
  decide

end CodePoint

namespace Text

/-- The number that hexadecimal digits write, when `n` is written before them. -/
def unhex (n : Nat) (digits : Text) : Nat :=
  digits.foldl (fun n c => n * 16 + c.hexValue) n

theorem unhex_hex (width n k : Nat) : unhex k (hex width n) = k * 16 ^ width + n % 16 ^ width := by
  induction width generalizing k with
  | zero => simp [hex, unhex, Nat.mod_one]
  | succ width ih =>
    have digits : hex (width + 1) n =
        CodePoint.ofChar (Nat.digitChar (n / 16 ^ width % 16)) :: hex width n := by
      simp [hex, List.range_succ]
    have value := CodePoint.hexValue_digitChar (Nat.mod_lt (n / 16 ^ width) (by decide : 16 > 0))
    have parts : n % 16 ^ (width + 1) = n % 16 ^ width + 16 ^ width * (n / 16 ^ width % 16) :=
      Nat.mod_pow_succ
    rw [digits]
    simp only [unhex, List.foldl_cons, value] at ih ⊢
    rw [ih, parts, Nat.pow_succ]
    ring

theorem length_hex (width n : Nat) : (hex width n).length = width := by
  simp [hex]

end Text

namespace CodePoint

/-- What the sign behind a backslash stands for, and what is left of the text
behind it. A sign that opens no escape stands for itself. -/
def readEscape (sign : CodePoint) (rest : Text) : CodePoint × Text :=
  let numbered (width : Nat) : CodePoint × Text :=
    (ofNat (Text.unhex 0 (rest.take width)), rest.drop width)
  if sign = ofChar 't' then (ofChar '\t', rest)
  else if sign = ofChar 'n' then (ofChar '\n', rest)
  else if sign = ofChar 'r' then (ofChar '\r', rest)
  else if sign = ofChar 'x' then numbered 2
  else if sign = ofChar 'u' then numbered 4
  else if sign = ofChar 'U' then numbered 8
  else (sign, rest)

def readQuoted : Text → Option (CodePoint × Text)
  | [] => none
  | c :: rest =>
    if c = backslash then
      match rest with
      | [] => none
      | sign :: rest => some (readEscape sign rest)
    else some (c, rest)

theorem numbered_hex (width : Nat) {c : CodePoint} (h : c.val < 16 ^ width) (rest : Text) :
    (ofNat (Text.unhex 0 ((Text.hex width c.val ++ rest).take width)),
      (Text.hex width c.val ++ rest).drop width) = (c, rest) := by
  have length := Text.length_hex width c.val
  rw [List.take_left' length, List.drop_left' length, Text.unhex_hex, Nat.zero_mul, Nat.zero_add,
    Nat.mod_eq_of_lt h, ofNat_val]

theorem readQuoted_escaped (c : CodePoint) (rest : Text) :
    readQuoted (c.escaped ++ rest) = some (c, rest) := by
  have bound := c.lt
  unfold escaped
  split_ifs with two four
  · exact congrArg some (numbered_hex 2 two rest)
  · exact congrArg some (numbered_hex 4 four rest)
  · exact congrArg some (numbered_hex 8 (by omega) rest)

/-- Whatever stands behind it, a quoted code point is read again. -/
theorem readQuoted_quoted (plain : CodePoint → Bool) {quote : CodePoint}
    (isQuote : quote = singleQuote ∨ quote = doubleQuote) (c : CodePoint) (rest : Text) :
    readQuoted (quoted plain quote c ++ rest) = some (c, rest) := by
  unfold quoted
  split_ifs with itself tab line ret alone
  · rcases itself with rfl | rfl
    · rcases isQuote with rfl | rfl <;> rfl
    · rfl
  · rw [tab]
    rfl
  · rw [line]
    rfl
  · rw [ret]
    rfl
  · have opens : c ≠ backslash := fun h => itself (.inr h)
    simp [readQuoted, opens]
  · exact readQuoted_escaped c rest

end CodePoint

namespace Text

theorem quoteFor_eq (t : Text) : t.quoteFor = .singleQuote ∨ t.quoteFor = .doubleQuote := by
  unfold quoteFor
  split_ifs
  · exact .inr rfl
  · exact .inl rfl

/-- The quoted form tells the text, whatever may stand for itself in it. -/
theorem quotedWith_injective (plain : CodePoint → Bool) :
    Function.Injective (quotedWith plain) := by
  intro s t h
  simp only [quotedWith, List.cons_append, List.cons.injEq] at h
  obtain ⟨quotes, bodies⟩ := h
  rw [quotes, List.append_cancel_right_eq] at bodies
  exact flatMap_injective rfl (CodePoint.readQuoted_quoted plain t.quoteFor_eq) bodies

theorem quoted_injective : Function.Injective quoted :=
  quotedWith_injective CodePoint.isPrintable

theorem newline_notMem_hex (width n : Nat) : CodePoint.newline ∉ hex width n := by
  intro member
  obtain ⟨i, -, digit⟩ := List.mem_map.mp member
  have solid : ∀ k < 16, CodePoint.ofChar (Nat.digitChar k) ≠ .newline := by decide
  exact solid _ (Nat.mod_lt _ (by decide)) digit

theorem newline_notMem_quotedOne (plain : CodePoint → Bool) {quote : CodePoint}
    (isQuote : quote = .singleQuote ∨ quote = .doubleQuote) (c : CodePoint) :
    CodePoint.newline ∉ CodePoint.quoted plain quote c := by
  unfold CodePoint.quoted
  split_ifs with itself tab line ret alone
  · rcases itself with rfl | rfl
    · rcases isQuote with rfl | rfl <;> decide
    · decide
  · decide
  · decide
  · decide
  · rw [List.mem_singleton]
    exact fun h => line h.symm
  · unfold CodePoint.escaped
    split_ifs <;> rw [List.mem_append, not_or] <;> exact ⟨by decide, newline_notMem_hex _ _⟩

theorem newline_notMem_quoted (t : Text) : CodePoint.newline ∉ t.quoted := by
  have solid : CodePoint.newline ≠ t.quoteFor := by
    rcases t.quoteFor_eq with h | h <;> rw [h] <;> decide
  simp only [quoted, quotedWith, List.cons_append, List.mem_cons, List.mem_append,
    List.mem_flatMap, List.not_mem_nil, or_false, not_or, not_exists, not_and]
  exact ⟨solid, fun c _ => newline_notMem_quotedOne _ t.quoteFor_eq c, solid⟩

/-- Lines without newlines can be told from their joined form. -/
theorem joinLines_injective {lines lines' : List Text} (h : ∀ l ∈ lines, CodePoint.newline ∉ l)
    (h' : ∀ l ∈ lines', CodePoint.newline ∉ l) (filled : lines ≠ []) (filled' : lines' ≠ [])
    (same : joinLines lines = joinLines lines') : lines = lines' := by
  have split := List.splitOn_intercalate CodePoint.newline h filled
  have split' := List.splitOn_intercalate CodePoint.newline h' filled'
  rw [← split, ← split']
  exact congrArg (List.splitOn CodePoint.newline) same

end Text

end SyntaxParity
