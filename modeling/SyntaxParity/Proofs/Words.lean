import Mathlib.Data.List.Chain
import SyntaxParity.Proofs.Blank
import SyntaxParity.Verdict

/-!
The words of a text. A word is a longest run of code points that are not blank, and
all readings of a text without regard to its blanks are told by its words: the text
without blanks has them one after the other, the collapsed text has them with a
space between neighbours, and a comparison by words finds a difference if and only
if the words differ.
-/

namespace SyntaxParity.Text

/-- The words of a text, from its start. A text of blanks has none. In any other
text a run of other code points stands behind the blanks at its start and reaches to
its end or to a blank; this is the first word, and the others are those of the rest. -/
inductive HasWords : Text → List Text → Prop where
  | none {t : Text} (blank : ∀ c ∈ t, c.isBlank = true) : HasWords t []
  | cons {gap word rest : Text} {others : List Text} (blank : ∀ c ∈ gap, c.isBlank = true)
    (filled : word ≠ []) (solid : ∀ c ∈ word, c.isBlank = false)
    (ends : ∀ c ∈ rest.head?, c.isBlank = true) (behind : HasWords rest others) :
    HasWords (gap ++ (word ++ rest)) (word :: others)

theorem words_append_blank {c : CodePoint} (blank : c.isBlank = true) (x y : Text) :
    words (x ++ c :: y) = x.words ++ y.words := by
  rw [words, List.splitOnP_append_cons x y blank, List.filter_append]
  rfl

theorem words_cons_blank {c : CodePoint} (blank : c.isBlank = true) (t : Text) :
    words (c :: t) = t.words :=
  words_append_blank blank [] t

theorem words_blank_append {gap : Text} (blank : ∀ c ∈ gap, c.isBlank = true) (t : Text) :
    words (gap ++ t) = t.words := by
  induction gap with
  | nil => rfl
  | cons c gap ih =>
    obtain ⟨first, others⟩ := List.forall_mem_cons.mp blank
    rw [List.cons_append, words_cons_blank first, ih others]

theorem words_of_solid {word : Text} (filled : word ≠ []) (solid : ∀ c ∈ word, c.isBlank = false) :
    word.words = [word] := by
  rw [words, List.splitOnP_eq_singleton solid]
  simp [filled]

theorem HasWords.words_eq {t : Text} {ws : List Text} (h : t.HasWords ws) : t.words = ws := by
  induction h with
  | @none t blank =>
    have none := words_blank_append blank []
    rwa [List.append_nil] at none
  | @cons gap word rest others blank filled solid ends _ ih =>
    rw [words_blank_append blank]
    cases rest with
    | nil =>
      obtain rfl : [] = others := ih
      rw [List.append_nil, words_of_solid filled solid]
    | cons c rest =>
      have stop : c.isBlank = true := ends c rfl
      rw [words_cons_blank stop] at ih
      rw [words_append_blank stop, words_of_solid filled solid, ih]
      rfl

theorem HasWords.cons_blank {c : CodePoint} {t : Text} {ws : List Text} (blank : c.isBlank = true)
    (h : t.HasWords ws) : HasWords (c :: t) ws := by
  cases h with
  | none others => exact .none (List.forall_mem_cons.mpr ⟨blank, others⟩)
  | @cons gap word rest others gapBlank filled solid ends behind =>
    have wider : ∀ d ∈ c :: gap, d.isBlank = true := List.forall_mem_cons.mpr ⟨blank, gapBlank⟩
    exact .cons wider filled solid ends behind

/-- A code point that is not blank makes a word of its own in front of a blank, and
otherwise belongs to the word that it stands before. -/
theorem HasWords.exists_cons_solid {c : CodePoint} {t : Text} {ws : List Text}
    (solid : c.isBlank = false) (h : t.HasWords ws) : ∃ ws', HasWords (c :: t) ws' := by
  have nothing : ∀ d ∈ ([] : Text), d.isBlank = true := by simp
  have alone (ends : ∀ d ∈ t.head?, d.isBlank = true) : ∃ ws', HasWords (c :: t) ws' :=
    ⟨[c] :: ws, .cons nothing (List.cons_ne_nil c []) (List.forall_mem_singleton.mpr solid) ends h⟩
  cases h with
  | none blank => exact alone fun d first => blank d (List.mem_of_mem_head? first)
  | @cons gap word rest others blank filled wordSolid ends behind =>
    cases gap with
    | nil =>
      have longer : ∀ d ∈ c :: word, d.isBlank = false :=
        List.forall_mem_cons.mpr ⟨solid, wordSolid⟩
      exact ⟨(c :: word) :: others, .cons nothing (List.cons_ne_nil c word) longer ends behind⟩
    | cons d gap =>
      apply alone
      intro d' first
      obtain rfl := Option.some.inj first
      exact blank d List.mem_cons_self

theorem exists_hasWords (t : Text) : ∃ ws, t.HasWords ws := by
  induction t with
  | nil => exact ⟨[], .none (by simp)⟩
  | cons c t ih =>
    obtain ⟨ws, h⟩ := ih
    cases blank : c.isBlank with
    | true => exact ⟨ws, h.cons_blank blank⟩
    | false => exact h.exists_cons_solid blank

/-- Splitting a text at its blanks finds its words. -/
theorem hasWords_iff {t : Text} {ws : List Text} : t.HasWords ws ↔ t.words = ws := by
  constructor
  · exact HasWords.words_eq
  · rintro rfl
    obtain ⟨ws, h⟩ := exists_hasWords t
    rwa [h.words_eq]

theorem hasWords_words (t : Text) : t.HasWords t.words :=
  hasWords_iff.mpr rfl

theorem HasWords.solid_of_mem {t : Text} {ws : List Text} (h : t.HasWords ws) :
    ∀ w ∈ ws, w ≠ [] ∧ ∀ c ∈ w, c.isBlank = false := by
  induction h with
  | none => simp
  | cons _ filled solid _ _ ih => exact List.forall_mem_cons.mpr ⟨⟨filled, solid⟩, ih⟩

theorem HasWords.dense_eq {t : Text} {ws : List Text} (h : t.HasWords ws) :
    t.dense = ws.flatten := by
  induction h with
  | none blank => exact dense_eq_nil_iff.mpr blank
  | @cons gap word rest others blank _ solid _ _ ih =>
    have kept : word.dense = word := List.filter_eq_self.mpr (by simpa using solid)
    rw [dense_append, dense_append, dense_eq_nil_iff.mpr blank, kept, ih]
    rfl

theorem joinWith_cons {separator word : Text} {others : List Text} (filled : others ≠ []) :
    joinWith separator (word :: others) = word ++ (separator ++ joinWith separator others) := by
  rw [joinWith, List.intercalate_cons_of_ne_nil filled, List.append_assoc]
  rfl

theorem joinWith_singleton (separator word : Text) : joinWith separator [word] = word :=
  List.intercalate_singleton

theorem squeeze_blank_append {gap : Text} (blank : ∀ c ∈ gap, c.isBlank = true) (t : Text) :
    squeeze true (gap ++ t) = squeeze true t := by
  induction gap with
  | nil => rfl
  | cons c gap ih =>
    obtain ⟨first, others⟩ := List.forall_mem_cons.mp blank
    rw [List.cons_append, squeeze, if_pos first, if_pos rfl, ih others]

theorem squeeze_solid_append {word : Text} (filled : word ≠ [])
    (solid : ∀ c ∈ word, c.isBlank = false) (afterBlank : Bool) (t : Text) :
    squeeze afterBlank (word ++ t) = word ++ squeeze false t := by
  induction word generalizing afterBlank with
  | nil => exact (filled rfl).elim
  | cons c word ih =>
    obtain ⟨first, others⟩ := List.forall_mem_cons.mp solid
    rw [List.cons_append, squeeze, if_neg (by simp [first])]
    cases word with
    | nil => rfl
    | cons d word =>
      rw [ih (List.cons_ne_nil d word) others false]
      rfl

/-- Behind a blank, what squeezing leaves of a text are its words with single spaces
between them, and a space if it ends in a blank. -/
theorem HasWords.exists_squeeze_eq {t : Text} {ws : List Text} (h : t.HasWords ws) :
    ∃ trail, (∀ c ∈ trail, c.isBlank = true) ∧ squeeze true t = joinWith " " ws ++ trail := by
  induction h with
  | @none t blank =>
    have none := squeeze_blank_append blank []
    rw [List.append_nil] at none
    exact ⟨[], by simp, none⟩
  | @cons gap word rest others blank filled solid ends behind ih =>
    obtain ⟨trail, trailBlank, squeezed⟩ := ih
    rw [squeeze_blank_append blank, squeeze_solid_append filled solid]
    cases rest with
    | nil =>
      obtain rfl : [] = others := behind.words_eq
      exact ⟨[], by simp, by rw [joinWith_singleton]; rfl⟩
    | cons c rest =>
      have stop : c.isBlank = true := ends c rfl
      have space : squeeze false (c :: rest) = " " ++ squeeze true (c :: rest) := by
        rw [squeeze, if_pos stop, squeeze, if_pos stop]
        rfl
      rw [space, squeezed]
      cases others with
      | nil =>
        have blanks : ∀ d ∈ (" " : Text) ++ trail, d.isBlank = true :=
          List.forall_mem_cons.mpr ⟨by decide, trailBlank⟩
        exact ⟨" " ++ trail, blanks, by rw [joinWith_singleton]; rfl⟩
      | cons word' others =>
        refine ⟨trail, trailBlank, ?_⟩
        rw [joinWith_cons (List.cons_ne_nil word' others), List.append_assoc, List.append_assoc]

theorem exists_squeeze_false_eq (t : Text) :
    ∃ lead, (∀ c ∈ lead, c.isBlank = true) ∧ squeeze false t = lead ++ squeeze true t := by
  cases t with
  | nil => exact ⟨[], by simp, rfl⟩
  | cons c t =>
    by_cases blank : c.isBlank = true
    · refine ⟨" ", by decide, ?_⟩
      rw [squeeze, if_pos blank, squeeze, if_pos blank]
      rfl
    · refine ⟨[], by simp, ?_⟩
      rw [squeeze, if_neg blank, squeeze, if_neg blank]
      rfl

/-- Texts whose blanks only keep words apart: none stands at an end, no two stand side
by side, and none is other than the space. -/
structure Tidy (t : Text) : Prop where
  first : ∀ c ∈ t.head?, c.isBlank = false
  last : ∀ c ∈ t.getLast?, c.isBlank = false
  single : t.IsChain fun c d => c.isBlank = false ∨ d.isBlank = false
  space : ∀ c ∈ t, c.isBlank = true → c = ' '

theorem tidy_of_solid {word : Text} (solid : ∀ c ∈ word, c.isBlank = false) : word.Tidy where
  first c first := solid c (List.mem_of_mem_head? first)
  last c last := solid c (List.mem_of_mem_getLast? last)
  single := (List.pairwise_of_forall_mem_list fun c member _ _ => .inl (solid c member)).isChain
  space c member blank := by
    rw [solid c member] at blank
    cases blank

/-- A word, a space and a tidy text make a tidy text. -/
theorem Tidy.word_append {word t : Text} (filled : word ≠ [])
    (solid : ∀ c ∈ word, c.isBlank = false) (tidy : t.Tidy) (further : t ≠ []) :
    Tidy (word ++ (" " ++ t)) where
  first c first := by
    rw [List.head?_append_of_ne_nil _ filled] at first
    exact solid c (List.mem_of_mem_head? first)
  last c last := by
    rw [List.getLast?_append_of_ne_nil _ (List.append_ne_nil_of_right_ne_nil _ further),
      List.getLast?_append_of_ne_nil _ further] at last
    exact tidy.last c last
  single := by
    refine List.isChain_append.mpr ⟨(tidy_of_solid solid).single, ?_, ?_⟩
    · exact List.isChain_cons.mpr ⟨fun d first => .inr (tidy.first d first), tidy.single⟩
    · intro c last d _
      exact .inl (solid c (List.mem_of_mem_getLast? last))
  space c member blank := by
    rcases List.mem_append.mp member with inside | member
    · exact (tidy_of_solid solid).space c inside blank
    · rcases List.mem_cons.mp member with space | member
      · exact space
      · exact tidy.space c member blank

theorem joinWith_ne_nil {separator word : Text} (filled : word ≠ []) (others : List Text) :
    joinWith separator (word :: others) ≠ [] := by
  cases others with
  | nil => rwa [joinWith_singleton]
  | cons word' others =>
    rw [joinWith_cons (List.cons_ne_nil word' others)]
    exact List.append_ne_nil_of_left_ne_nil filled _

theorem tidy_joinWith {ws : List Text} (h : ∀ w ∈ ws, w ≠ [] ∧ ∀ c ∈ w, c.isBlank = false) :
    (joinWith " " ws).Tidy := by
  induction ws with
  | nil => exact tidy_of_solid (List.forall_mem_nil _)
  | cons word others ih =>
    obtain ⟨⟨filled, solid⟩, h⟩ := List.forall_mem_cons.mp h
    cases others with
    | nil =>
      rw [joinWith_singleton]
      exact tidy_of_solid solid
    | cons word' others =>
      rw [joinWith_cons (List.cons_ne_nil word' others)]
      exact (ih h).word_append filled solid (joinWith_ne_nil (h word' List.mem_cons_self).1 others)

theorem HasWords.collapse_eq {t : Text} {ws : List Text} (h : t.HasWords ws) :
    t.collapse = joinWith " " ws := by
  obtain ⟨lead, leadBlank, front⟩ := exists_squeeze_false_eq t
  obtain ⟨trail, trailBlank, squeezed⟩ := h.exists_squeeze_eq
  have tidy := tidy_joinWith h.solid_of_mem
  rw [collapse, front, squeezed, trim_of_solid_ends leadBlank trailBlank tidy.first tidy.last]

/-- Words with a space between neighbours are the words of the text that they make. -/
theorem hasWords_joinWith {ws : List Text} (h : ∀ w ∈ ws, w ≠ [] ∧ ∀ c ∈ w, c.isBlank = false) :
    (joinWith " " ws).HasWords ws := by
  have nothing : ∀ d ∈ ([] : Text), d.isBlank = true := by simp
  have space : CodePoint.isBlank ' ' = true := by decide
  induction ws with
  | nil => exact .none nothing
  | cons word others ih =>
    obtain ⟨⟨filled, solid⟩, h⟩ := List.forall_mem_cons.mp h
    cases others with
    | nil =>
      have whole : HasWords ([] ++ (word ++ [])) [word] :=
        .cons nothing filled solid (by simp) (.none nothing)
      rw [List.nil_append, List.append_nil] at whole
      rwa [joinWith_singleton]
    | cons word' others =>
      have ends : ∀ c ∈ (" " ++ joinWith " " (word' :: others) : Text).head?, c.isBlank = true := by
        intro c first
        obtain rfl := Option.some.inj first
        exact space
      rw [joinWith_cons (List.cons_ne_nil word' others)]
      exact .cons nothing filled solid ends ((ih h).cons_blank space)

theorem words_collapse (t : Text) : t.collapse.words = t.words := by
  have own := t.hasWords_words
  rw [own.collapse_eq]
  exact (hasWords_joinWith own.solid_of_mem).words_eq

theorem collapse_eq_iff {x y : Text} : x.collapse = y.collapse ↔ x.words = y.words := by
  constructor
  · intro same
    rw [← words_collapse, same, words_collapse]
  · intro same
    rw [x.hasWords_words.collapse_eq, same, ← y.hasWords_words.collapse_eq]

/-- What the readings of texts tell of their words. Splitting a text at its blanks
finds its words. A comparison by words finds nothing if the words are the same, and
otherwise the one difference that it can report. The collapsed text is the words with
single spaces between them, is tidy, and is left as it is when it is collapsed again;
the text without blanks is the words one after the other, before and after the text
is collapsed. -/
theorem words_determine_readings (x y : Text) :
    (∀ ws, x.HasWords ws ↔ x.words = ws) ∧
      (x.compareWords y = [] ↔ x.words = y.words) ∧
      (x.compareWords y = [wordsDiffer] ↔ x.words ≠ y.words) ∧
      x.collapse = joinWith " " x.words ∧ x.collapse.Tidy ∧ x.collapse.collapse = x.collapse ∧
      x.dense = concat x.words ∧ x.collapse.dense = x.dense := by
  have own := x.hasWords_words
  have tidy : x.collapse.Tidy := by
    rw [own.collapse_eq]
    exact tidy_joinWith own.solid_of_mem
  have again : x.collapse.collapse = x.collapse := collapse_eq_iff.mpr x.words_collapse
  refine ⟨fun ws => hasWords_iff, ?_, ?_, own.collapse_eq, tidy, again, own.dense_eq,
    dense_collapse x⟩
  · rw [compareWords, ← collapse_eq_iff]
    split
    · next same => simp [same]
    · next differ => simp [differ]
  · rw [compareWords, ne_eq, ← collapse_eq_iff]
    split
    · next same => simp [same]
    · next differ => simp [differ]

end SyntaxParity.Text
