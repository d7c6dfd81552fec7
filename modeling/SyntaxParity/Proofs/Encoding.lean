import SyntaxParity.Proofs.Blank
import SyntaxParity.Utf8

namespace SyntaxParity

/-- A text without surrogates. -/
def Text.Encodable (t : Text) : Prop :=
  ∀ c ∈ t, c.isSurrogate = false

instance (t : Text) : Decidable t.Encodable :=
  inferInstanceAs (Decidable (∀ c ∈ t, c.isSurrogate = false))

theorem CodePoint.isBlank_of_isSurrogate {c : CodePoint} (h : c.isSurrogate = true) :
    c.isBlank = false := by
  simp only [isSurrogate, Bool.and_eq_true, decide_eq_true_eq] at h
  simp only [isBlank, isIn, blankRanges, List.any_cons, List.any_nil, Bool.or_false,
    Bool.or_eq_false_iff, Bool.and_eq_false_iff, decide_eq_false_iff_not]
  omega

namespace Utf8

theorem surrogateRun?_eq_none_iff {t : Text} : surrogateRun? t = none ↔ t.Encodable := by
  unfold surrogateRun? runFrom?
  constructor
  · intro h
    split at h
    · next none => simpa [Text.Encodable] using List.dropWhile_eq_nil_iff.mp none
    · cases h
  · intro h
    have none : t.dropWhile (!·.isSurrogate) = [] := by
      rw [List.dropWhile_eq_nil_iff]
      simpa [Text.Encodable] using h
    rw [none]

/-- The texts with a UTF-8 form are those without surrogates. -/
theorem encode_eq_ok_iff {t : Text} {bytes : Bytes} :
    encode t = .ok bytes ↔ t.Encodable ∧ t.flatMap encodeOne = bytes := by
  rw [← surrogateRun?_eq_none_iff]
  unfold encode
  cases surrogateRun? t with
  | none => simp
  | some run => simp

theorem exists_encode_eq_error_iff {t : Text} :
    (∃ run, encode t = .error run) ↔ ¬ t.Encodable := by
  rw [← surrogateRun?_eq_none_iff]
  unfold encode
  cases surrogateRun? t with
  | none => simp
  | some run => simp

end Utf8

/-- Surrogates are no blanks, so the text without blanks tells whether there
were any. -/
theorem Text.encodable_dense {t : Text} : t.dense.Encodable ↔ t.Encodable := by
  constructor
  · intro h c member
    by_contra surrogate
    rw [Bool.not_eq_false] at surrogate
    have kept := h c (mem_dense.mpr ⟨member, CodePoint.isBlank_of_isSurrogate surrogate⟩)
    rw [surrogate] at kept
    cases kept
  · intro h c member
    exact h c (mem_dense.mp member).1

/-- Of two texts with the same words, both have a UTF-8 form or neither has. -/
theorem Text.encodable_of_collapse_eq {x y : Text} (same : x.collapse = y.collapse) :
    x.Encodable ↔ y.Encodable := by
  rw [← encodable_dense, ← dense_collapse, same, dense_collapse, encodable_dense]

end SyntaxParity
