import SyntaxParity.Proofs.Blank
import SyntaxParity.Text.Lowercase

/-!
Lower case is reached in one step. No lower-case form of a letter has another
lower-case form, which is seen family by family: the forms of one family and the
members of another lie apart, or the members are every other number and the forms
the numbers between them. The forms lie apart from the blanks as well, so a text
has no blank at an end in lower case unless it had one there before.

Nor does it matter in which case the ASCII letters of a text stand. A capital sigma
looks at its neighbours, but all it asks of them is the same of a capital as of its
small letter. A text that is spelled in lower case with ASCII signs other than the
letters i and k has ASCII signs only.
-/

namespace SyntaxParity

namespace CodePoint

theorem isIn_eq_false {c : CodePoint} {ranges : List (Nat × Nat)}
    (apart : ∀ range ∈ ranges, c.val < range.1 ∨ range.2 < c.val) : c.isIn ranges = false := by
  rw [isIn, List.any_eq_false]
  intro range member
  have := apart range member
  simp only [Bool.and_eq_true, decide_eq_true_eq]
  omega

namespace LowercaseFamily

def isApart (f : LowercaseFamily) (first last : Nat) : Bool :=
  last.blt f.target || (f.target + (f.last - f.first)).blt first

/-- Whether no form of the family `f` is a member of the family `g`: they lie apart,
or they alternate. -/
def avoids (f g : LowercaseFamily) : Bool :=
  f.isApart g.first g.last ||
    g.step == 2 && (f.step == 2 || f.first == f.last) && (f.target + g.first) % 2 == 1

theorem lower_le {f : LowercaseFamily} {n : Nat} (member : f.has n = true) :
    f.lower n ≤ f.target + (f.last - f.first) := by
  simp only [has, Bool.and_eq_true, decide_eq_true_eq] at member
  simp only [lower]
  omega

theorem lower_apart {f : LowercaseFamily} {n first last : Nat} (member : f.has n = true)
    (apart : f.isApart first last = true) : f.lower n < first ∨ last < f.lower n := by
  have greatest := lower_le member
  have least : f.target ≤ f.lower n := Nat.le_add_right _ _
  simp only [isApart, Bool.or_eq_true, Nat.blt_eq] at apart
  omega

theorem has_lower_eq_false {f g : LowercaseFamily} {n : Nat} (member : f.has n = true)
    (avoids : f.avoids g = true) : g.has (f.lower n) = false := by
  by_contra inside
  rw [LowercaseFamily.avoids, Bool.or_eq_true] at avoids
  simp only [has, Bool.not_eq_false, Bool.and_eq_true, decide_eq_true_eq, beq_iff_eq] at inside
  rcases avoids with apart | alternate
  · have := lower_apart member apart
    omega
  · -- the form stands an odd number behind the first member of `g`
    simp only [has, Bool.and_eq_true, Bool.or_eq_true, decide_eq_true_eq, beq_iff_eq]
      at member alternate
    obtain ⟨⟨every, steps⟩, odd⟩ := alternate
    rw [every] at inside
    have even : (n - f.first) % 2 = 0 := by
      rcases steps with other | single
      · rw [← other]
        exact member.2
      · omega
    simp only [lower] at inside
    omega

end LowercaseFamily

theorem families_avoid_families :
    ∀ f ∈ lowercaseFamilies, lowercaseFamilies.all f.avoids = true := by
  decide +kernel

/-- The forms lie within the code space, and apart from the blanks and from the one
capital that belongs to no family. -/
theorem families_apart :
    ∀ f ∈ lowercaseFamilies, f.target + (f.last - f.first) < 0x110000 ∧
      (∀ range ∈ blankRanges, f.isApart range.1 range.2 = true) ∧
      f.isApart 0x130 0x130 = true := by
  decide +kernel

theorem val_lower {f : LowercaseFamily} {n : Nat} (family : f ∈ lowercaseFamilies)
    (member : f.has n = true) : (ofNat (f.lower n)).val = f.lower n := by
  have bound := LowercaseFamily.lower_le member
  have space := (families_apart f family).1
  exact val_ofNat (Nat.lt_of_le_of_lt bound space)

/-- A code point that has no lower-case form but itself. -/
theorem lowercase_eq_self {c : CodePoint} (dotted : c.val ≠ 0x130)
    (none : ∀ f ∈ lowercaseFamilies, f.has c.val = false) : c.lowercase = [c] := by
  have absent : lowercaseFamilies.find? (·.has c.val) = Option.none := by
    simpa [List.find?_eq_none] using none
  rw [lowercase, if_neg dotted, absent]

/-- The lower-case forms of a code point: those of the capital I with a dot, that of a
member of a family, or the code point itself. -/
theorem lowercase_cases (c : CodePoint) :
    (c.lowercase = [ofNat 0x69, ofNat 0x307]) ∨
      (∃ f ∈ lowercaseFamilies, f.has c.val = true ∧ c.lowercase = [ofNat (f.lower c.val)]) ∨
      (c.val ≠ 0x130 ∧ (∀ f ∈ lowercaseFamilies, f.has c.val = false) ∧ c.lowercase = [c]) := by
  by_cases dotted : c.val = 0x130
  · exact .inl (by rw [lowercase, if_pos dotted])
  cases found : lowercaseFamilies.find? (·.has c.val) with
  | some f =>
    refine .inr (.inl ⟨f, List.mem_of_find?_eq_some found, ?_, ?_⟩)
    · simpa using List.find?_some found
    · rw [lowercase, if_neg dotted, found]
  | none =>
    have absent : ∀ f ∈ lowercaseFamilies, f.has c.val = false := by
      simpa [List.find?_eq_none] using found
    exact .inr (.inr ⟨dotted, absent, lowercase_eq_self dotted absent⟩)

/-- A lower-case form has no lower-case form but itself. -/
theorem lowercase_of_mem_lowercase {c d : CodePoint} (form : d ∈ c.lowercase) :
    d.lowercase = [d] := by
  rcases c.lowercase_cases with dotted | ⟨f, family, member, lower⟩ | ⟨-, -, alone⟩
  · have small : ∀ e ∈ [ofNat 0x69, ofNat 0x307], e.lowercase = [e] := by decide +kernel
    exact small d (dotted ▸ form)
  · obtain rfl := List.mem_singleton.mp (lower ▸ form)
    have value := val_lower family member
    have apart := LowercaseFamily.lower_apart member (families_apart f family).2.2
    refine lowercase_eq_self (by omega) fun g other => ?_
    rw [value]
    exact LowercaseFamily.has_lower_eq_false member
      (List.all_eq_true.mp (families_avoid_families f family) g other)
  · obtain rfl : d = c := List.mem_singleton.mp (alone ▸ form)
    exact alone

/-- Only a blank has a blank for its lower-case form. -/
theorem solid_of_mem_lowercase {c d : CodePoint} (solid : c.isBlank = false)
    (form : d ∈ c.lowercase) : d.isBlank = false := by
  rcases c.lowercase_cases with dotted | ⟨f, family, member, lower⟩ | ⟨-, -, alone⟩
  · have small : ∀ e ∈ [ofNat 0x69, ofNat 0x307], e.isBlank = false := by decide
    exact small d (dotted ▸ form)
  · obtain rfl := List.mem_singleton.mp (lower ▸ form)
    have value := val_lower family member
    refine isIn_eq_false fun range blank => ?_
    rw [value]
    exact LowercaseFamily.lower_apart member ((families_apart f family).2.1 range blank)
  · obtain rfl : d = c := List.mem_singleton.mp (alone ▸ form)
    exact solid

theorem lowercase_ne_nil (c : CodePoint) : c.lowercase ≠ [] := by
  rcases c.lowercase_cases with dotted | ⟨f, -, -, lower⟩ | ⟨-, -, alone⟩
  · simp [dotted]
  · simp [lower]
  · simp [alone]

def IsAsciiLetter (c : CodePoint) : Prop :=
  (0x41 ≤ c.val ∧ c.val ≤ 0x5a) ∨ (0x61 ≤ c.val ∧ c.val ≤ 0x7a)

theorem IsAsciiLetter.isBlank {c : CodePoint} (letter : c.IsAsciiLetter) : c.isBlank = false := by
  have apart : ∀ range ∈ blankRanges, range.2 < 0x41 ∨ 0x7a < range.1 := by decide
  refine isIn_eq_false fun range member => ?_
  have := apart range member
  unfold IsAsciiLetter at letter
  omega

theorem IsAsciiLetter.isCased {c : CodePoint} (letter : c.IsAsciiLetter) : c.isCased = true := by
  have ranges : (0x41, 0x5a) ∈ casedRanges ∧ (0x61, 0x7a) ∈ casedRanges := by decide
  rw [CodePoint.isCased, isIn, List.any_eq_true]
  rcases letter with capital | small
  · exact ⟨_, ranges.1, by simpa using capital⟩
  · exact ⟨_, ranges.2, by simpa using small⟩

theorem IsAsciiLetter.isCaseIgnorable {c : CodePoint} (letter : c.IsAsciiLetter) :
    c.isCaseIgnorable = false := by
  -- the circumflex and the grave accent stand between the capitals and the small letters
  have apart : ∀ range ∈ caseIgnorableRanges,
      range.2 < 0x41 ∨ (0x5a < range.1 ∧ range.2 < 0x61) ∨ 0x7a < range.1 := by
    decide +kernel
  refine isIn_eq_false fun range member => ?_
  have := apart range member
  unfold IsAsciiLetter at letter
  omega

theorem lowercase_capital {c : CodePoint} (capital : 0x41 ≤ c.val ∧ c.val ≤ 0x5a) :
    c.lowercase = [ofNat (c.val + 0x20)] := by
  have member : LowercaseFamily.has ⟨0x41, 0x5a, 1, 0x61⟩ c.val = true := by
    simp [LowercaseFamily.has, capital, Nat.mod_one]
  have found : lowercaseFamilies.find? (·.has c.val) = some ⟨0x41, 0x5a, 1, 0x61⟩ :=
    List.find?_cons_of_pos member
  rw [lowercase, if_neg (by omega), found]
  simp only [LowercaseFamily.lower]
  rw [show 0x61 + (c.val - 0x41) = c.val + 0x20 by omega]

def asciiLower (c : CodePoint) : CodePoint :=
  if 0x41 ≤ c.val ∧ c.val ≤ 0x5a then ofNat (c.val + 0x20) else c

/-- Two code points that are the same in all that trimming and lower case ask of one. -/
structure Alike (c d : CodePoint) : Prop where
  blank : c.isBlank = d.isBlank
  cased : c.isCased = d.isCased
  ignorable : c.isCaseIgnorable = d.isCaseIgnorable
  sigma : c.val = 0x3a3 ↔ d.val = 0x3a3
  lowercase : c.lowercase = d.lowercase

theorem asciiLower_alike (c : CodePoint) : Alike c.asciiLower c := by
  unfold asciiLower
  split
  · next capital =>
    have value := val_ofNat (show c.val + 0x20 < 0x110000 by omega)
    have letter : c.IsAsciiLetter := .inl capital
    have small : (ofNat (c.val + 0x20)).IsAsciiLetter := .inr (by omega)
    have lower := lowercase_capital capital
    refine ⟨?_, ?_, ?_, by omega, ?_⟩
    · rw [small.isBlank, letter.isBlank]
    · rw [small.isCased, letter.isCased]
    · rw [small.isCaseIgnorable, letter.isCaseIgnorable]
    · rw [lower, lowercase_of_mem_lowercase (lower ▸ List.mem_singleton_self _)]
  · exact ⟨rfl, rfl, rfl, .rfl, rfl⟩

/-- A sign in front of the letters is no lower-case form but its own. -/
theorem asciiLower_eq_iff {c d : CodePoint} (sign : d.val < 0x41) : c.asciiLower = d ↔ c = d := by
  unfold asciiLower
  split
  · next capital =>
    have value := val_ofNat (show c.val + 0x20 < 0x110000 by omega)
    constructor
    · rintro rfl
      omega
    · rintro rfl
      omega
  · exact Iff.rfl

/-- The capitals of ASCII and the sign of the kelvin are the members of families that have
an ASCII letter for their form. -/
theorem families_ascii :
    ∀ f ∈ lowercaseFamilies, (f.first = 0x41 ∧ f.last = 0x5a) ∨ f.target = 0x6b ∨
      0x80 ≤ f.target := by
  decide +kernel

theorem family_kelvin : ∀ f ∈ lowercaseFamilies, f.target = 0x6b → f.first = f.last := by
  decide +kernel

/-- If the lower case of a code point has an ASCII sign other than the letters i and k, the
code point is an ASCII sign itself. -/
theorem lowercase_eq_asciiLower {c d : CodePoint} (form : d ∈ c.lowercase) (ascii : d.val < 0x80)
    (notI : d.val ≠ 0x69) (notK : d.val ≠ 0x6b) : c.lowercase = [c.asciiLower] := by
  rcases c.lowercase_cases with dotted | ⟨f, family, member, lower⟩ | ⟨-, absent, alone⟩
  · have others : ∀ e ∈ [ofNat 0x69, ofNat 0x307], e.val = 0x69 ∨ 0x80 ≤ e.val := by decide
    have := others d (dotted ▸ form)
    omega
  · have value := val_lower family member
    have only : d = ofNat (f.lower c.val) := List.mem_singleton.mp (lower ▸ form)
    rw [← only] at value
    have bounds := member
    simp only [LowercaseFamily.has, Bool.and_eq_true, decide_eq_true_eq] at bounds
    simp only [LowercaseFamily.lower] at value
    rcases families_ascii f family with ⟨first, last⟩ | kelvin | high
    · have capital : 0x41 ≤ c.val ∧ c.val ≤ 0x5a := by omega
      rw [lowercase_capital capital, asciiLower, if_pos capital]
    · have single := family_kelvin f family kelvin
      omega
    · omega
  · have small : ¬ (0x41 ≤ c.val ∧ c.val ≤ 0x5a) := by
      intro capital
      have capitals : (⟨0x41, 0x5a, 1, 0x61⟩ : LowercaseFamily) ∈ lowercaseFamilies :=
        List.mem_cons_self
      have other := absent _ capitals
      simp [LowercaseFamily.has, capital, Nat.mod_one] at other
    rw [alone, asciiLower, if_neg small]

end CodePoint

namespace Text

/-- What a code point between two texts becomes has no lower-case form but itself. -/
theorem lowercase_of_mem_between {before after : Text} {c d : CodePoint}
    (form : d ∈ lowercaseBetween before c after) : d.lowercase = [d] := by
  unfold lowercaseBetween at form
  split at form
  · have final : ∀ e ∈ [CodePoint.ofNat 0x3c2], e.lowercase = [e] := by decide +kernel
    exact final d form
  · exact CodePoint.lowercase_of_mem_lowercase form

theorem solid_of_mem_between {before after : Text} {c d : CodePoint} (solid : c.isBlank = false)
    (form : d ∈ lowercaseBetween before c after) : d.isBlank = false := by
  unfold lowercaseBetween at form
  split at form
  · have final : ∀ e ∈ [CodePoint.ofNat 0x3c2], e.isBlank = false := by decide
    exact final d form
  · exact CodePoint.solid_of_mem_lowercase solid form

theorem lowercaseBetween_ne_nil (before : Text) (c : CodePoint) (after : Text) :
    lowercaseBetween before c after ≠ [] := by
  unfold lowercaseBetween
  split
  · exact List.cons_ne_nil _ _
  · exact c.lowercase_ne_nil

theorem lowercase_of_mem_after {before t : Text} {d : CodePoint}
    (form : d ∈ lowercaseAfter before t) : d.lowercase = [d] := by
  induction t generalizing before with
  | nil => cases form
  | cons c t ih =>
    rcases List.mem_append.mp form with here | behind
    · exact lowercase_of_mem_between here
    · exact ih behind

/-- A code point that has no lower-case form but itself stays, wherever it stands. -/
theorem lowercaseBetween_of_eq_self {c : CodePoint} (self : c.lowercase = [c])
    (before after : Text) : lowercaseBetween before c after = [c] := by
  have other : c.val ≠ 0x3a3 := by
    intro sigma
    obtain rfl : c = CodePoint.ofNat 0x3a3 := by rw [← sigma, CodePoint.ofNat_val]
    revert self
    decide +kernel
  rw [lowercaseBetween, if_neg (by simp [other]), self]

theorem lowercaseAfter_of_eq_self {t : Text} (self : ∀ c ∈ t, c.lowercase = [c])
    (before : Text) : lowercaseAfter before t = t := by
  induction t generalizing before with
  | nil => rfl
  | cons c t ih =>
    obtain ⟨here, behind⟩ := List.forall_mem_cons.mp self
    rw [lowercaseAfter, lowercaseBetween_of_eq_self here, ih behind]
    rfl

/-- Lower case has no lower case but itself, although the form of a capital sigma
depends on what stands beside it. -/
theorem lowercase_lowercase (t : Text) : t.lowercase.lowercase = t.lowercase :=
  lowercaseAfter_of_eq_self (fun _ => lowercase_of_mem_after) []

theorem first_lowercaseAfter {before t : Text} (first : ∀ c ∈ t.head?, c.isBlank = false) :
    ∀ d ∈ (lowercaseAfter before t).head?, d.isBlank = false := by
  intro d here
  cases t with
  | nil => cases here
  | cons c t =>
    rw [lowercaseAfter, List.head?_append_of_ne_nil _ (lowercaseBetween_ne_nil before c t)] at here
    exact solid_of_mem_between (first c rfl) (List.mem_of_mem_head? here)

theorem lowercaseAfter_ne_nil (before : Text) {t : Text} (filled : t ≠ []) :
    lowercaseAfter before t ≠ [] := by
  cases t with
  | nil => exact (filled rfl).elim
  | cons c t => exact List.append_ne_nil_of_left_ne_nil (lowercaseBetween_ne_nil before c t) _

theorem last_lowercaseAfter {before t : Text} (last : ∀ c ∈ t.getLast?, c.isBlank = false) :
    ∀ d ∈ (lowercaseAfter before t).getLast?, d.isBlank = false := by
  induction t generalizing before with
  | nil => exact nofun
  | cons c t ih =>
    intro d here
    cases t with
    | nil =>
      rw [lowercaseAfter, lowercaseAfter, List.append_nil] at here
      exact solid_of_mem_between (last c rfl) (List.mem_of_mem_getLast? here)
    | cons c' t =>
      rw [lowercaseAfter,
        List.getLast?_append_of_ne_nil _ (lowercaseAfter_ne_nil _ (List.cons_ne_nil c' t))] at here
      rw [List.getLast?_cons_cons] at last
      exact ih last d here

/-- Lower case brings no blank to an end. -/
theorem trim_lowercase_trim (t : Text) : t.trim.lowercase.trim = t.trim.lowercase := by
  have ends : trim ([] ++ (t.trim.lowercase ++ [])) = t.trim.lowercase :=
    trim_of_solid_ends nofun nofun (first_lowercaseAfter (first_trim t))
      (last_lowercaseAfter (last_trim t))
  rwa [List.nil_append, List.append_nil] at ends

def asciiLower (t : Text) : Text :=
  t.map CodePoint.asciiLower

theorem dropWhile_asciiLower {p : CodePoint → Bool}
    (same : ∀ c : CodePoint, p c.asciiLower = p c) (t : Text) :
    t.asciiLower.dropWhile p = asciiLower (t.dropWhile p) := by
  have all : p ∘ CodePoint.asciiLower = p := funext same
  rw [asciiLower, List.dropWhile_map, all, asciiLower]

theorem reverse_asciiLower (t : Text) : t.asciiLower.reverse = asciiLower t.reverse :=
  List.map_reverse.symm

theorem trim_asciiLower (t : Text) : t.asciiLower.trim = t.trim.asciiLower := by
  have front := dropWhile_asciiLower fun c => c.asciiLower_alike.blank
  rw [trim, front, reverse_asciiLower, front, reverse_asciiLower, trim]

theorem beginsWithLetter_asciiLower (t : Text) :
    t.asciiLower.beginsWithLetter = t.beginsWithLetter := by
  rw [beginsWithLetter, beginsWithLetter,
    dropWhile_asciiLower fun c => c.asciiLower_alike.ignorable]
  cases t.dropWhile (·.isCaseIgnorable) with
  | nil => rfl
  | cons c rest => exact c.asciiLower_alike.cased

theorem lowercaseBetween_asciiLower (before : Text) (c : CodePoint) (after : Text) :
    lowercaseBetween before.asciiLower c.asciiLower after.asciiLower =
      lowercaseBetween before c after := by
  simp only [lowercaseBetween, beginsWithLetter_asciiLower, c.asciiLower_alike.sigma,
    c.asciiLower_alike.lowercase]

theorem lowercaseAfter_asciiLower (before t : Text) :
    lowercaseAfter before.asciiLower t.asciiLower = lowercaseAfter before t := by
  induction t generalizing before with
  | nil => rfl
  | cons c t ih =>
    have here := lowercaseBetween_asciiLower before c t
    have behind := ih (c :: before)
    simp only [asciiLower, List.map_cons, lowercaseAfter] at here behind ⊢
    rw [here, behind]

/-- The case of ASCII letters has no bearing on lower case, neither on their own nor on
that of their neighbours. -/
theorem lowercase_asciiLower (t : Text) : t.asciiLower.lowercase = t.lowercase :=
  lowercaseAfter_asciiLower [] t

theorem lowercaseBetween_eq_asciiLower {before after : Text} {c : CodePoint}
    (plain : ∀ d ∈ lowercaseBetween before c after,
      d.val < 0x80 ∧ d.val ≠ 0x69 ∧ d.val ≠ 0x6b) :
    lowercaseBetween before c after = [c.asciiLower] := by
  unfold lowercaseBetween at plain ⊢
  split_ifs at plain ⊢ with sigma
  · have final := plain _ List.mem_cons_self
    exact absurd final.1 (by decide)
  · obtain ⟨d, rest, forms⟩ := List.exists_cons_of_ne_nil c.lowercase_ne_nil
    have form : d ∈ c.lowercase := forms ▸ List.mem_cons_self
    obtain ⟨ascii, notI, notK⟩ := plain d form
    exact CodePoint.lowercase_eq_asciiLower form ascii notI notK

/-- A text whose lower case is spelled with ASCII signs other than the letters i and k has
it from its ASCII letters. -/
theorem lowercaseAfter_eq_asciiLower {before t : Text}
    (plain : ∀ d ∈ lowercaseAfter before t, d.val < 0x80 ∧ d.val ≠ 0x69 ∧ d.val ≠ 0x6b) :
    lowercaseAfter before t = t.asciiLower := by
  induction t generalizing before with
  | nil => rfl
  | cons c t ih =>
    obtain ⟨here, behind⟩ := List.forall_mem_append.mp plain
    rw [lowercaseAfter, lowercaseBetween_eq_asciiLower here, ih behind]
    simp [asciiLower]

theorem asciiLower_eq_nil_iff {t : Text} : t.asciiLower = [] ↔ t = [] :=
  List.map_eq_nil_iff

section
variable {sign : CodePoint} (before : sign.val < 0x41)
include before

theorem asciiLower_eq_singleton_iff {t : Text} : t.asciiLower = [sign] ↔ t = [sign] := by
  simp [asciiLower, List.map_eq_singleton_iff, CodePoint.asciiLower_eq_iff before]

theorem mem_asciiLower_iff {t : Text} : sign ∈ t.asciiLower ↔ sign ∈ t := by
  simp [asciiLower, CodePoint.asciiLower_eq_iff before]

theorem asciiLower_append_cons (x y : Text) :
    asciiLower (x ++ sign :: y) = x.asciiLower ++ sign :: y.asciiLower := by
  have same : sign.asciiLower = sign := (CodePoint.asciiLower_eq_iff before).mpr rfl
  rw [asciiLower, List.map_append, List.map_cons, same]
  rfl

end

end Text

end SyntaxParity
