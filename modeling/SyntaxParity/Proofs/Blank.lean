import Mathlib.Data.List.DropRight
import SyntaxParity.Text.Blank

namespace SyntaxParity.Text

theorem mem_dense {t : Text} {c : CodePoint} : c ∈ t.dense ↔ c ∈ t ∧ c.isBlank = false := by
  simp [dense]

theorem dense_cons (c : CodePoint) (t : Text) :
    dense (c :: t) = if c.isBlank then t.dense else c :: t.dense := by
  cases h : c.isBlank <;> simp [dense, h]

theorem dense_append (s t : Text) : dense (s ++ t) = s.dense ++ t.dense :=
  List.filter_append s t

theorem dense_eq_nil_iff {t : Text} : t.dense = [] ↔ ∀ c ∈ t, c.isBlank = true := by
  simp [dense, List.filter_eq_nil_iff]

theorem dense_reverse (t : Text) : dense t.reverse = t.dense.reverse :=
  List.filter_reverse

theorem dense_dropWhile (t : Text) : dense (t.dropWhile (·.isBlank)) = t.dense := by
  induction t with
  | nil => rfl
  | cons c rest ih =>
    rw [List.dropWhile_cons, dense_cons]
    split
    · exact ih
    · next solid => rw [dense_cons, if_neg solid]

theorem dense_trim (t : Text) : t.trim.dense = t.dense := by
  rw [trim, dense_reverse, dense_dropWhile, dense_reverse, List.reverse_reverse, dense_dropWhile]

theorem dense_squeeze (afterBlank : Bool) (t : Text) : (squeeze afterBlank t).dense = t.dense := by
  induction t generalizing afterBlank with
  | nil => rfl
  | cons c rest ih =>
    have space : (CodePoint.ofChar ' ').isBlank = true := by decide
    rw [squeeze, dense_cons]
    split
    · split
      · exact ih true
      · rw [dense_cons, if_pos space, ih true]
    · next solid => rw [dense_cons, if_neg solid, ih false]

theorem dense_collapse (t : Text) : t.collapse.dense = t.dense := by
  rw [collapse, dense_trim, dense_squeeze]

/-- A text is blank throughout if trimming leaves nothing of it. -/
theorem trim_eq_nil_iff {t : Text} : t.trim = [] ↔ ∀ c ∈ t, c.isBlank = true := by
  constructor
  · intro h
    have none : t.dense = [] := by rw [← dense_trim, h]; rfl
    exact dense_eq_nil_iff.mp none
  · intro blank
    have start : t.dropWhile (·.isBlank) = [] := List.dropWhile_eq_nil_iff.mpr blank
    rw [trim, start]
    rfl

theorem trim_ne_nil_iff {t : Text} : t.trim ≠ [] ↔ ∃ c ∈ t, c.isBlank = false := by
  rw [ne_eq, trim_eq_nil_iff]
  simp

theorem dropWhile_gap {gap t : Text} (blank : ∀ c ∈ gap, c.isBlank = true)
    (first : ∀ c ∈ t.head?, c.isBlank = false) : (gap ++ t).dropWhile (·.isBlank) = t := by
  rw [List.dropWhile_append_of_pos blank]
  cases t with
  | nil => rfl
  | cons c t => rw [List.dropWhile_cons_of_neg (by simp [first c rfl])]

/-- A text that neither begins nor ends in a blank is what trimming leaves of it
between blanks. -/
theorem trim_of_solid_ends {lead t trail : Text} (leadBlank : ∀ c ∈ lead, c.isBlank = true)
    (trailBlank : ∀ c ∈ trail, c.isBlank = true) (first : ∀ c ∈ t.head?, c.isBlank = false)
    (last : ∀ c ∈ t.getLast?, c.isBlank = false) : trim (lead ++ (t ++ trail)) = t := by
  cases t with
  | nil =>
    apply trim_eq_nil_iff.mpr
    intro c member
    exact (List.mem_append.mp member).elim (leadBlank c) (trailBlank c)
  | cons c t =>
    have front : (lead ++ (c :: t ++ trail)).dropWhile (·.isBlank) = c :: t ++ trail :=
      dropWhile_gap leadBlank first
    have back : (trail.reverse ++ (c :: t).reverse).dropWhile (·.isBlank) = (c :: t).reverse := by
      apply dropWhile_gap
      · exact fun d member => trailBlank d (List.mem_reverse.mp member)
      · rw [List.head?_reverse]
        exact last
    rw [trim, front, List.reverse_append, back, List.reverse_reverse]

theorem trim_eq (t : Text) :
    t.trim = (t.dropWhile (·.isBlank)).rdropWhile (·.isBlank) :=
  rfl

/-- What trimming leaves of a text stands in it between blanks. -/
theorem exists_eq_trim (t : Text) :
    ∃ lead trail : Text, t = lead ++ (t.trim ++ trail) ∧ (∀ c ∈ lead, c.isBlank = true) ∧
      ∀ c ∈ trail, c.isBlank = true := by
  refine ⟨t.takeWhile (·.isBlank), (t.dropWhile (·.isBlank)).rtakeWhile (·.isBlank), ?_,
    fun c => List.mem_takeWhile_imp, fun c => List.mem_rtakeWhile_imp⟩
  rw [trim_eq, List.rdropWhile_append_rtakeWhile, List.takeWhile_append_dropWhile]

theorem first_trim (t : Text) : ∀ c ∈ t.trim.head?, c.isBlank = false := by
  intro c first
  rw [trim_eq, Option.mem_def] at first
  obtain ⟨rest, front⟩ := List.rdropWhile_prefix (·.isBlank) (t.dropWhile (·.isBlank))
  have stop := List.head?_dropWhile_not (·.isBlank) t
  rwa [← front, List.head?_append, first, Option.some_or] at stop

theorem last_trim (t : Text) : ∀ c ∈ t.trim.getLast?, c.isBlank = false := by
  intro c last
  rw [trim_eq] at last
  obtain ⟨filled, rfl⟩ := List.mem_getLast?_eq_getLast last
  simpa using List.rdropWhile_last_not (·.isBlank) (t.dropWhile (·.isBlank)) filled

/-- Blanks that are added to the ends of a text are trimmed with those that stand there. -/
theorem trim_padded {lead trail : Text} (leadBlank : ∀ c ∈ lead, c.isBlank = true)
    (trailBlank : ∀ c ∈ trail, c.isBlank = true) (t : Text) :
    trim (lead ++ (t ++ trail)) = t.trim := by
  obtain ⟨front, back, parts, frontBlank, backBlank⟩ := exists_eq_trim t
  have joined : lead ++ (t ++ trail) = (lead ++ front) ++ (t.trim ++ (back ++ trail)) := by
    conv_lhs => rw [parts]
    simp only [List.append_assoc]
  rw [joined]
  refine trim_of_solid_ends ?_ ?_ (first_trim t) (last_trim t)
  · exact fun c member => (List.mem_append.mp member).elim (leadBlank c) (frontBlank c)
  · exact fun c member => (List.mem_append.mp member).elim (backBlank c) (trailBlank c)

end SyntaxParity.Text
