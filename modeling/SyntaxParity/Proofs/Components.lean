import SyntaxParity.Path
import SyntaxParity.Proofs.Lowercase

/-!
The components of a path. All that is said of them follows from one equation: the
components on both sides of a slash, one after the other, are those of the whole. The
last component is also described without splitting, by what may stand before it and
behind it in the written path.
-/

namespace SyntaxParity.Path

/-- The components on both sides of a slash are those of the whole. -/
theorem components_slash (x y : Text) :
    (ofText (x ++ .slash :: y)).components =
      (ofText x).components ++ (ofText y).components := by
  simp only [ofText]
  rw [List.splitOnP_append_cons x y (by simp), List.filter_append]

theorem components_nil : (ofText []).components = [] := by
  simp [ofText, List.splitOnP_nil]

/-- A text without a slash is a component, unless it is empty or a single dot. -/
theorem components_single {c : Text} (single : .slash ∉ c) :
    (ofText c).components = if c = [] ∨ c = [.dot] then [] else [c] := by
  have whole : c.splitOnP (· == .slash) = [c] := by
    apply List.splitOnP_eq_singleton
    intro d member
    simp only [beq_eq_false_iff_ne]
    rintro rfl
    exact single member
  simp only [ofText, whole]
  by_cases empty : c = []
  · simp [empty]
  by_cases dot : c = [.dot]
  · simp [dot]
  · simp [empty, dot]

theorem components_dot : (ofText [.dot]).components = [] := by
  rw [components_single (by decide), if_pos (.inr rfl)]

/-- Slashes in front of a path add no component. -/
theorem components_slashes (n : Nat) (t : Text) :
    (ofText (List.replicate n .slash ++ t)).components = (ofText t).components := by
  induction n with
  | zero => rfl
  | succ n ih =>
    have parts := components_slash [] (List.replicate n .slash ++ t)
    rw [components_nil, List.nil_append, List.nil_append, ih] at parts
    exact parts

/-- What holds of a text without a slash, and of a text behind a slash if it holds of what
follows the first one, holds of every text. -/
@[elab_as_elim]
theorem slash_induction {motive : Text → Prop} (single : ∀ t, .slash ∉ t → motive t)
    (step : ∀ x y, .slash ∉ x → motive y → motive (x ++ .slash :: y)) (t : Text) : motive t := by
  induction h : t.length using Nat.strongRecOn generalizing t with
  | ind length ih =>
    by_cases slash : .slash ∈ t
    · obtain ⟨x, y, rfl, first⟩ := List.eq_append_cons_of_mem slash
      apply step x y first
      refine ih y.length ?_ y rfl
      rw [← h, List.length_append, List.length_cons]
      omega
    · exact single t slash

/-- A component holds no slash, and is neither empty nor a single dot. -/
theorem proper_of_mem_components {t c : Text} (member : c ∈ (ofText t).components) :
    .slash ∉ c ∧ c ≠ [] ∧ c ≠ [.dot] := by
  induction t using slash_induction with
  | single t single =>
    rw [components_single single] at member
    split_ifs at member with dropped
    · cases member
    · obtain rfl := List.mem_singleton.mp member
      exact ⟨single, not_or.mp dropped⟩
  | step x y single ih =>
    rw [components_slash, components_single single, List.mem_append] at member
    rcases member with front | back
    · split_ifs at front with dropped
      · cases front
      · obtain rfl := List.mem_singleton.mp front
        exact ⟨single, not_or.mp dropped⟩
    · exact ih back

theorem components_joinWith {components : List Text}
    (proper : ∀ c ∈ components, .slash ∉ c ∧ c ≠ [] ∧ c ≠ [.dot]) :
    (ofText (.joinWith "/" components)).components = components := by
  induction components with
  | nil => exact components_nil
  | cons c rest ih =>
    obtain ⟨⟨single, filled, other⟩, properRest⟩ := List.forall_mem_cons.mp proper
    have alone : (ofText c).components = [c] := by
      rw [components_single single, if_neg (not_or.mpr ⟨filled, other⟩)]
    cases rest with
    | nil => simpa [Text.joinWith] using alone
    | cons c' rest =>
      have joined : Text.joinWith "/" (c :: c' :: rest) =
          c ++ .slash :: Text.joinWith "/" (c' :: rest) := by
        rw [Text.joinWith, List.intercalate_cons_cons, List.append_assoc]
        rfl
      rw [joined, components_slash, alone, ih properRest]
      rfl

theorem exists_rootOf_eq (t : Text) : ∃ n, rootOf t = List.replicate n .slash := by
  unfold rootOf
  split
  · exact ⟨0, rfl⟩
  · exact ⟨2, rfl⟩
  · exact ⟨1, rfl⟩

/-- The written form of a path has the components of the path. -/
theorem components_render (t : Text) :
    (ofText (ofText t).render).components = (ofText t).components := by
  obtain ⟨n, root⟩ := exists_rootOf_eq t
  unfold render
  split
  · next empty =>
    rw [Bool.and_eq_true, List.isEmpty_iff, List.isEmpty_iff] at empty
    rw [empty.2]
    exact components_dot
  · have written : (ofText t).root = List.replicate n .slash := root
    rw [written, components_slashes,
      components_joinWith fun c member => proper_of_mem_components member]

theorem components_asciiLower (t : Text) :
    (ofText t.asciiLower).components = (ofText t).components.map Text.asciiLower := by
  have slash : CodePoint.slash.val < 0x41 := by decide
  have dot : CodePoint.dot.val < 0x41 := by decide
  have alone {t : Text} (single : .slash ∉ t) : (ofText t.asciiLower).components =
      (ofText t).components.map Text.asciiLower := by
    rw [components_single (fun member => single ((Text.mem_asciiLower_iff slash).mp member)),
      components_single single]
    simp only [Text.asciiLower_eq_nil_iff, Text.asciiLower_eq_singleton_iff dot]
    split_ifs
    · rfl
    · rfl
  induction t using slash_induction with
  | single t single => exact alone single
  | step x y single ih =>
    rw [Text.asciiLower_append_cons slash, components_slash, components_slash, alone single, ih,
      List.map_append]

/-- What can stand behind the last component of a written path: slashes, and single dots
behind any of them. -/
inductive Trail : Text → Prop where
  | nil : Trail []
  | slash {t : Text} (rest : Trail t) : Trail (.slash :: t)
  | dot {t : Text} (rest : Trail t) : Trail (.slash :: .dot :: t)

/-- The last component of a written path, those that are empty or a single dot apart: it
stands at the front or behind a slash, and nothing but such components stands behind it. -/
structure LastComponent (t name : Text) : Prop where
  filled : name ≠ []
  other : name ≠ [.dot]
  single : .slash ∉ name
  placed : ∃ front back, t = front ++ (name ++ back) ∧
    (front = [] ∨ front.getLast? = some .slash) ∧ Trail back

theorem components_trail {back : Text} (trail : Trail back) (t : Text) :
    (ofText (t ++ back)).components = (ofText t).components := by
  induction trail generalizing t with
  | nil => rw [List.append_nil]
  | @slash back rest ih =>
    have none := ih []
    rw [List.nil_append, components_nil] at none
    rw [components_slash, none, List.append_nil]
  | @dot back rest ih =>
    have none := ih [.dot]
    rw [components_dot] at none
    rw [components_slash, ← List.singleton_append, none, List.append_nil]

theorem trail_slashes (n : Nat) : Trail (List.replicate n .slash) := by
  induction n with
  | zero => exact .nil
  | succ n ih => exact .slash ih

theorem LastComponent.name_eq {t name : Text} (h : LastComponent t name) :
    (ofText t).name = name := by
  obtain ⟨front, back, rfl, start, trail⟩ := h.placed
  have alone : (ofText (name ++ back)).components = [name] := by
    rw [components_trail trail, components_single h.single,
      if_neg (not_or.mpr ⟨h.filled, h.other⟩)]
  rcases start with rfl | ends
  · simp [Path.name, alone]
  · obtain ⟨above, rfl⟩ := List.getLast?_eq_some_iff.mp ends
    rw [List.append_assoc, List.singleton_append]
    simp [Path.name, components_slash, alone]

theorem LastComponent.below {t name : Text} (h : LastComponent t name) (directory : Text) :
    LastComponent (directory ++ .slash :: t) name := by
  obtain ⟨front, back, rfl, start, trail⟩ := h.placed
  refine ⟨h.filled, h.other, h.single, directory ++ .slash :: front, back, by simp, ?_, trail⟩
  right
  rw [List.getLast?_append, List.getLast?_cons]
  rcases start with rfl | ends
  · rfl
  · rw [ends]
    rfl

/-- A path has a last component, or its written form is nothing but a trail. -/
theorem exists_lastComponent (t : Text) :
    (∃ name, LastComponent t name) ∨ ((ofText t).components = [] ∧ Trail (.slash :: t)) := by
  have alone {x back : Text} (single : .slash ∉ x) (trail : Trail back) :
      (∃ name, LastComponent (x ++ back) name) ∨
        ((ofText x).components = [] ∧ Trail (.slash :: (x ++ back))) := by
    by_cases empty : x = []
    · rw [empty]
      exact .inr ⟨components_nil, trail.slash⟩
    by_cases dot : x = [.dot]
    · rw [dot]
      exact .inr ⟨components_dot, trail.dot⟩
    · exact .inl ⟨x, empty, dot, single, [], back, rfl, .inl rfl, trail⟩
  induction t using slash_induction with
  | single t single => simpa using alone single .nil
  | step x y single ih =>
    rcases ih with ⟨name, last⟩ | ⟨none, trail⟩
    · exact .inl ⟨name, last.below x⟩
    · rw [components_slash, none, List.append_nil]
      exact alone single trail

theorem name_eq_nil_or (t : Text) : (ofText t).name = [] ∨ LastComponent t (ofText t).name := by
  rcases exists_lastComponent t with ⟨name, last⟩ | ⟨none, -⟩
  · rw [last.name_eq]
    exact .inr last
  · left
    rw [name, none]
    rfl

end SyntaxParity.Path
