import Mathlib.Data.List.Forall2
import SyntaxParity.Proofs.Legible
import SyntaxParity.Proofs.Shape

/-!
An outline is faithful: of two trees with the same outline, as many nodes are
visited, and one after the other they agree in all that a line shows. A line is
read from the left. Its margin ends at a kind without spaces, numbers end at signs
that write no number, and what is left is nothing or the quoted text of a leaf.
Texts that are cut off are longer than any that are not, so they cannot be taken
for one that ends in dots.
-/

namespace SyntaxParity

def Point.writtenBefore (p : Point) (stop : CodePoint) (rest : Text) : Text :=
  Text.ofInt p.row ++ .ofChar ':' :: (Text.ofInt p.column ++ stop :: rest)

theorem Point.writtenBefore_inj {p q : Point} {stop : CodePoint} {rest rest' : Text}
    (h : ¬ stop.IsNumeric) (same : p.writtenBefore stop rest = q.writtenBefore stop rest') :
    p = q ∧ rest = rest' := by
  have colon : ¬ (CodePoint.ofChar ':').IsNumeric := by decide
  obtain ⟨rows, places⟩ :=
    Text.append_stop_inj (Text.notMem_ofInt colon) (Text.notMem_ofInt colon) same
  obtain ⟨columns, rests⟩ :=
    Text.append_stop_inj (Text.notMem_ofInt h) (Text.notMem_ofInt h) places
  obtain ⟨row, column⟩ := p
  obtain ⟨row', column'⟩ := q
  obtain rfl : row = row' := Text.ofInt_injective rows
  obtain rfl : column = column' := Text.ofInt_injective columns
  exact ⟨rfl, rests⟩

namespace Visit

/-- A visit of a node whose kind has neither a space nor a newline. -/
def PlainKind (v : Visit) : Prop :=
  .ofChar ' ' ∉ v.node.kind ∧ .newline ∉ v.node.kind

/-- Visits that agree in what an outline shows. The texts of leaves agree, if they
are not long, and in the part that is shown, if they are. -/
structure Resembles (v w : Visit) : Prop where
  depth : v.depth = w.depth
  kind : v.node.kind = w.node.kind
  start : v.node.start = w.node.start
  stop : v.node.stop = w.node.stop
  leaf : v.node.childCount = 0 ↔ w.node.childCount = 0
  text : v.node.childCount = 0 →
    (v.node.text = w.node.text ∧ v.node.text.length ≤ 100) ∨
      (100 < v.node.text.length ∧ 100 < w.node.text.length ∧
        v.node.text.take 100 = w.node.text.take 100)

theorem leafText_of_long {v : Visit} (h : 100 < v.node.text.length) :
    v.leafText = v.node.text.take 100 ++ "..." := by
  have long : v.node.text.length > previewLength := h
  rw [leafText, if_pos long]
  rfl

theorem leafText_of_short {v : Visit} (h : v.node.text.length ≤ 100) :
    v.leafText = v.node.text := by
  have short : ¬ v.node.text.length > previewLength := Nat.not_lt.mpr h
  rw [leafText, if_neg short]

theorem length_leafText_of_long {v : Visit} (h : 100 < v.node.text.length) :
    v.leafText.length = 103 := by
  have dots : (("..." : Text)).length = 3 := by decide
  rw [leafText_of_long h, List.length_append, List.length_take, dots]
  omega

/-- What is shown of two leaves tells their texts, as far as it shows them. -/
theorem texts_of_leafText_eq {v w : Visit} (same : v.leafText = w.leafText) :
    (v.node.text = w.node.text ∧ v.node.text.length ≤ 100) ∨
      (100 < v.node.text.length ∧ 100 < w.node.text.length ∧
        v.node.text.take 100 = w.node.text.take 100) := by
  -- with its dots a text that is cut off is longer than any that is shown as a whole
  have lengths := congrArg List.length same
  rcases Nat.lt_or_ge 100 v.node.text.length with longV | shortV
  · rw [length_leafText_of_long longV] at lengths
    rcases Nat.lt_or_ge 100 w.node.text.length with longW | shortW
    · rw [leafText_of_long longV, leafText_of_long longW, List.append_cancel_right_eq] at same
      exact .inr ⟨longV, longW, same⟩
    · rw [leafText_of_short shortW] at lengths
      omega
  · rw [leafText_of_short shortV] at same lengths
    rcases Nat.lt_or_ge 100 w.node.text.length with longW | shortW
    · rw [length_leafText_of_long longW] at lengths
      omega
    · rw [leafText_of_short shortW] at same
      exact .inl ⟨same, shortV⟩

def ending (v : Visit) : Text :=
  if v.node.childCount = 0 then .ofChar ' ' :: v.leafText.quoted else []

theorem line_eq (v : Visit) :
    v.line = v.indentation ++ (v.node.kind ++ .ofChar ' ' :: .ofChar '[' ::
      v.node.start.writtenBefore (.ofChar ' ') (.ofChar '-' :: .ofChar ' ' ::
        v.node.stop.writtenBefore (.ofChar ']') v.ending)) := by
  have ending : (if v.node.childCount = 0 then " " ++ v.leafText.quoted else "" : Text) =
      v.ending := by
    unfold Visit.ending
    split_ifs <;> rfl
  rw [line, ending]
  simp [Text.concat, Point.writtenBefore, Text.ofString]

theorem leaf_of_ending_eq {v w : Visit} (same : v.ending = w.ending) :
    (v.node.childCount = 0 ↔ w.node.childCount = 0) ∧
      (v.node.childCount = 0 → v.leafText = w.leafText) := by
  unfold ending at same
  split_ifs at same with leafV leafW leafW
  · have texts := Text.quoted_injective (List.cons.inj same).2
    exact ⟨⟨fun _ => leafW, fun _ => leafV⟩, fun _ => texts⟩
  · exact ⟨⟨fun h => (leafV h).elim, fun h => (leafW h).elim⟩, fun h => (leafV h).elim⟩

theorem margin_succ (n : Nat) (t : Text) :
    Text.concat (List.replicate (n + 1) "  ") ++ t =
      .ofChar ' ' :: .ofChar ' ' :: (Text.concat (List.replicate n "  ") ++ t) := by
  simp [Text.concat, List.replicate_succ, Text.ofString]

/-- No margin begins at a kind without spaces, even at an empty one: the space
behind it is followed by a bracket. -/
theorem kind_ne_margin {kind rest t : Text} (h : .ofChar ' ' ∉ kind) :
    kind ++ .ofChar ' ' :: .ofChar '[' :: rest ≠ .ofChar ' ' :: .ofChar ' ' :: t := by
  intro same
  cases kind with
  | nil =>
    have bracket : CodePoint.ofChar '[' = .ofChar ' ' := (List.cons.inj (List.cons.inj same).2).1
    revert bracket
    decide
  | cons c kind =>
    apply h
    rw [(List.cons.inj same).1]
    exact List.mem_cons_self

/-- A kind without spaces shows where the margin ends. -/
theorem margin_inj {depth depth' : Nat} {kind kind' rest rest' : Text}
    (hk : .ofChar ' ' ∉ kind) (hk' : .ofChar ' ' ∉ kind')
    (h : Text.concat (List.replicate depth "  ") ++ (kind ++ .ofChar ' ' :: .ofChar '[' :: rest) =
      Text.concat (List.replicate depth' "  ") ++ (kind' ++ .ofChar ' ' :: .ofChar '[' :: rest')) :
    depth = depth' ∧ kind = kind' ∧ rest = rest' := by
  induction depth generalizing depth' with
  | zero =>
    cases depth' with
    | zero =>
      obtain ⟨kinds, rests⟩ := Text.append_stop_inj hk hk' h
      exact ⟨rfl, kinds, (List.cons.inj rests).2⟩
    | succ depth' =>
      rw [margin_succ] at h
      exact (kind_ne_margin hk h).elim
  | succ depth ih =>
    cases depth' with
    | zero =>
      rw [margin_succ] at h
      exact (kind_ne_margin hk' h.symm).elim
    | succ depth' =>
      rw [margin_succ, margin_succ, List.cons.injEq, List.cons.injEq] at h
      obtain ⟨depths, kinds, rests⟩ := ih h.2.2
      exact ⟨congrArg Nat.succ depths, kinds, rests⟩

theorem resembles_of_line_eq {v w : Visit} (hv : v.PlainKind) (hw : w.PlainKind)
    (same : v.line = w.line) : v.Resembles w := by
  rw [line_eq, line_eq] at same
  obtain ⟨depth, kind, places⟩ := margin_inj hv.1 hw.1 same
  obtain ⟨start, places⟩ := Point.writtenBefore_inj (by decide) places
  obtain ⟨stop, endings⟩ :=
    Point.writtenBefore_inj (by decide) (List.cons.inj (List.cons.inj places).2).2
  obtain ⟨leaf, texts⟩ := leaf_of_ending_eq endings
  exact ⟨depth, kind, start, stop, leaf, fun h => texts_of_leafText_eq (texts h)⟩

theorem newline_notMem_margin (n : Nat) :
    CodePoint.newline ∉ Text.concat (List.replicate n "  ") := by
  intro member
  obtain ⟨step, repeated, member⟩ := List.mem_flatten.mp member
  obtain rfl := List.eq_of_mem_replicate repeated
  revert member
  decide

/-- The part of a line behind the kind holds no newline. -/
theorem exists_line_eq (v : Visit) :
    ∃ behind, CodePoint.newline ∉ behind ∧ v.line = v.indentation ++ (v.node.kind ++ behind) := by
  have number (i : Int) : CodePoint.newline ∉ Text.ofInt i := Text.notMem_ofInt (by decide)
  have ending : CodePoint.newline ∉ v.ending := by
    unfold Visit.ending
    split_ifs
    · rw [List.mem_cons, not_or]
      exact ⟨by decide, Text.newline_notMem_quoted _⟩
    · exact List.not_mem_nil
  have sign (c : Char) (other : c ≠ '\n') : CodePoint.newline ≠ .ofChar c :=
    fun same => other (CodePoint.ofChar_injective same.symm)
  refine ⟨_, ?_, v.line_eq⟩
  simp only [Point.writtenBefore, List.mem_append, List.mem_cons, not_or]
  simp [number, ending, sign]

theorem newline_notMem_line {v : Visit} (h : v.PlainKind) : CodePoint.newline ∉ v.line := by
  obtain ⟨behind, solid, line⟩ := v.exists_line_eq
  rw [line, List.mem_append, List.mem_append]
  exact not_or.mpr ⟨newline_notMem_margin v.depth, not_or.mpr ⟨h.2, solid⟩⟩

theorem forall₂_resembles {x y : List Visit} (hx : ∀ v ∈ x, v.PlainKind) (hy : ∀ v ∈ y, v.PlainKind)
    (same : x.map line = y.map line) : List.Forall₂ Resembles x y := by
  induction x generalizing y with
  | nil =>
    obtain rfl := List.map_eq_nil_iff.mp same.symm
    exact .nil
  | cons v x ih =>
    cases y with
    | nil => cases same
    | cons w y =>
      obtain ⟨first, others⟩ := List.cons.inj same
      have head := resembles_of_line_eq (hx v List.mem_cons_self) (hy w List.mem_cons_self) first
      exact .cons head (ih (fun u m => hx u (List.mem_cons_of_mem v m))
        (fun u m => hy u (List.mem_cons_of_mem w m)) others)

theorem depths_eq_of_resembles {x y : List Visit} (h : List.Forall₂ Resembles x y) :
    x.map Visit.depth = y.map Visit.depth := by
  rw [← List.forall₂_eq_eq_eq, List.forall₂_map_left_iff, List.forall₂_map_right_iff]
  exact h.imp fun _ _ resembles => resembles.depth

end Visit

namespace Node

theorem visits_ne_nil (scope : Scope) (n : Node) : n.visits scope ≠ [] := by
  rw [visits_eq, visitsByRecursion_eq]
  exact List.cons_ne_nil _ _

/-- Two complete trees whose kinds have no spaces and no newlines, whatever the
texts of their leaves, have the same outline only if as many nodes are visited in
both and the visits agree one after the other: in depth, kind and places, in
whether the node is a leaf, and in the texts of leaves as far as these are shown.
Then the visited trees have the same shape, too. -/
theorem outline_faithful (scope : Scope) (s t : Node) (wholeS : s.isComplete scope = true)
    (wholeT : t.isComplete scope = true) (namedS : ∀ v ∈ s.visits scope, v.PlainKind)
    (namedT : ∀ v ∈ t.visits scope, v.PlainKind) (same : s.outline scope = t.outline scope) :
    List.Forall₂ Visit.Resembles (s.visits scope) (t.visits scope) ∧
      s.shape scope = t.shape scope := by
  have lines : ∀ {n : Node}, (∀ v ∈ n.visits scope, v.PlainKind) →
      ∀ l ∈ (n.visits scope).map Visit.line, CodePoint.newline ∉ l := by
    intro n named l member
    obtain ⟨v, visit, rfl⟩ := List.mem_map.mp member
    exact Visit.newline_notMem_line (named v visit)
  have filled (n : Node) : (n.visits scope).map Visit.line ≠ [] := by
    rw [ne_eq, List.map_eq_nil_iff]
    exact n.visits_ne_nil scope
  rw [outline, if_pos wholeS, outline, if_pos wholeT, Except.ok.injEq] at same
  have same := Text.joinLines_injective (lines namedS) (lines namedT) (filled s) (filled t) same
  have visits := Visit.forall₂_resembles namedS namedT same
  exact ⟨visits, shape_eq_of_depths (Visit.depths_eq_of_resembles visits)⟩

def longName (last : CodePoint) : Node where
  kind := "identifier"
  content := .text (List.replicate 100 (.ofChar 'a') ++ [last])
  named := []
  namedCount := 0
  children := []
  childCount := 0
  start := ⟨0, 0⟩
  stop := ⟨0, 101⟩

def ofLongName (last : CodePoint) : Node where
  kind := "module"
  content := .text (List.replicate 100 (.ofChar 'a') ++ [last])
  named := [some (longName last)]
  namedCount := 1
  children := [some (longName last)]
  childCount := 1
  start := ⟨0, 0⟩
  stop := ⟨1, 0⟩

theorem visits_ofLongName (last : CodePoint) :
    (ofLongName last).visits .named = [⟨ofLongName last, 0⟩, ⟨longName last, 1⟩] := by
  have below : (ofLongName last).childrenIn .named = [longName last] := rfl
  have none : (longName last).childrenIn .named = [] := rfl
  rw [visits_eq, visitsByRecursion_eq, below, List.flatMap_singleton, visitsByRecursion_eq, none]
  rfl

/-- Two long names that differ in their last signs have the same outline. -/
theorem outline_faithful_longName :
    (∀ c, (ofLongName c).isComplete .named = true) ∧
      (∀ c, ∀ v ∈ (ofLongName c).visits .named, v.PlainKind) ∧
      (ofLongName 'x').outline .named = (ofLongName 'y').outline .named ∧
      List.Forall₂ Visit.Resembles ((ofLongName 'x').visits .named)
        ((ofLongName 'y').visits .named) ∧
      (ofLongName 'x').shape .named = (ofLongName 'y').shape .named := by
  have whole (c : CodePoint) : (ofLongName c).isComplete .named = true := by
    rw [isComplete, visits_ofLongName]
    rfl
  have named (c : CodePoint) : ∀ v ∈ (ofLongName c).visits .named, v.PlainKind := by
    intro v member
    rw [visits_ofLongName, List.mem_cons, List.mem_singleton] at member
    have kind : v.node.kind = "module" ∨ v.node.kind = "identifier" :=
      member.imp (fun h => by rw [h]; rfl) (fun h => by rw [h]; rfl)
    rcases kind with kind | kind <;> rw [Visit.PlainKind, kind] <;> decide
  have same : (ofLongName 'x').outline .named = (ofLongName 'y').outline .named := by
    rw [outline, if_pos (whole 'x'), outline, if_pos (whole 'y'), visits_ofLongName,
      visits_ofLongName]
    decide +kernel
  exact ⟨whole, named, same,
    outline_faithful .named (ofLongName 'x') (ofLongName 'y') (whole 'x') (whole 'y') (named 'x')
      (named 'y') same⟩

end Node

end SyntaxParity
