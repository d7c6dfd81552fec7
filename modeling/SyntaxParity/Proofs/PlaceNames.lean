import SyntaxParity.Proofs.Equivalence
import SyntaxParity.Proofs.Legible
import SyntaxParity.Proofs.Position

/-!
The written form of a place tells the position, below one start text. A label can be read
from the front: its kind ends at the first opening bracket, since kinds hold none, and its
slot at the closing bracket behind that, since digits are none. Dots and closing brackets
may stand in the kinds, and anything in the start text.
-/

namespace SyntaxParity

def CodePoint.bracket : CodePoint := .ofChar '['

/-- A label whose kind holds no opening bracket. -/
def Label.IsPlain (l : Label) : Prop :=
  .bracket ∉ l.kind

namespace Label

theorem render_append (l : Label) (rest : Text) :
    l.render ++ rest =
      .ofChar '.' :: (l.kind ++ .bracket :: (Text.ofNat l.slot ++ .ofChar ']' :: rest)) := by
  simp [render, Text.concat, Text.ofString, CodePoint.bracket]

/-- A label can be told from what stands behind it. -/
theorem render_append_inj {l m : Label} (plainL : l.IsPlain) (plainM : m.IsPlain)
    {rest rest' : Text} (same : l.render ++ rest = m.render ++ rest') : l = m ∧ rest = rest' := by
  have digits (n : Nat) : .ofChar ']' ∉ Text.ofNat n := by
    intro member
    have bound := (Text.digit_of_mem_ofNat member).2
    revert bound
    decide
  rw [render_append, render_append] at same
  obtain ⟨kinds, slots⟩ := Text.append_stop_inj plainL plainM (List.cons.inj same).2
  obtain ⟨numbers, rests⟩ := Text.append_stop_inj (digits l.slot) (digits m.slot) slots
  refine ⟨?_, rests⟩
  rcases l with ⟨kind, slot⟩
  rcases m with ⟨kind', slot'⟩
  obtain rfl : kind = kind' := kinds
  obtain rfl : slot = slot' := Text.ofNat_injective numbers
  rfl

theorem render_ne_nil (l : Label) : l.render ≠ [] := by
  intro none
  have written := l.render_append []
  rw [none] at written
  cases written

theorem flatMap_render_inj {labels labels' : List Label} (plain : ∀ l ∈ labels, l.IsPlain)
    (plain' : ∀ l ∈ labels', l.IsPlain)
    (same : labels.flatMap render = labels'.flatMap render) : labels = labels' := by
  induction labels generalizing labels' with
  | nil =>
    cases labels' with
    | nil => rfl
    | cons m labels' =>
      rw [List.flatMap_nil, List.flatMap_cons] at same
      exact (m.render_ne_nil (List.append_eq_nil_iff.mp same.symm).1).elim
  | cons l labels ih =>
    cases labels' with
    | nil =>
      rw [List.flatMap_nil, List.flatMap_cons] at same
      exact (l.render_ne_nil (List.append_eq_nil_iff.mp same).1).elim
    | cons m labels' =>
      obtain ⟨plainL, plainRest⟩ := List.forall_mem_cons.mp plain
      obtain ⟨plainM, plainRest'⟩ := List.forall_mem_cons.mp plain'
      rw [List.flatMap_cons, List.flatMap_cons] at same
      obtain ⟨rfl, rests⟩ := render_append_inj plainL plainM same
      rw [ih plainRest plainRest' rests]

end Label

/-- The condition on kinds is needed: a kind with an opening bracket can write the labels of
two steps. -/
example : Location.render ⟨"root", [⟨"b", 1⟩, ⟨"a", 0⟩]⟩ =
    Location.render ⟨"root", [⟨"a[0].b", 1⟩]⟩ := by decide

/-- Two places below one start text that are written alike are one place. -/
theorem Location.eq_of_render_eq {place place' : Location} (origin : place.origin = place'.origin)
    (plain : ∀ l ∈ place.labels, l.IsPlain) (plain' : ∀ l ∈ place'.labels, l.IsPlain)
    (same : place.render = place'.render) : place = place' := by
  rcases place with ⟨start, labels⟩
  rcases place' with ⟨start', labels'⟩
  obtain rfl : start = start' := origin
  have written := List.append_cancel_left same
  have reversed : labels.reverse = labels'.reverse :=
    Label.flatMap_render_inj (fun l member => plain l (List.mem_reverse.mp member))
      (fun l member => plain' l (List.mem_reverse.mp member)) written
  rw [List.reverse_inj.mp reversed]

namespace Node

def PlainBelow (n : Node) : Prop :=
  ∀ q x, q ≠ [] → n.descend q = some x → .bracket ∉ x.kind

theorem PlainBelow.child {n c : Node} {i : Nat} (plain : n.PlainBelow)
    (child : n.child? i = some c) :
    .bracket ∉ c.kind ∧ c.PlainBelow := by
  constructor
  · exact plain [i] c (List.cons_ne_nil i []) (by simp [descend, child])
  · intro q x filled found
    exact plain (i :: q) x (List.cons_ne_nil i q) (by simp [descend, child, found])

theorem PlainBelow.whole {kind : Text} {bytes : Bytes} {children : List Node}
    (plain : ∀ c ∈ children, .bracket ∉ c.kind ∧ c.PlainBelow) :
    (Node.whole kind bytes children).PlainBelow := by
  intro q x filled found
  cases q with
  | nil => exact (filled rfl).elim
  | cons i q =>
    obtain ⟨c, child, found⟩ := Option.bind_eq_some_iff.mp found
    rw [child?_whole] at child
    obtain ⟨here, below⟩ := plain c (List.mem_of_getElem? child)
    cases q with
    | nil =>
      obtain rfl := Option.some.inj found
      exact here
    | cons j q => exact below (j :: q) x (List.cons_ne_nil j q) found

theorem origin_placeOf (start : Location) (n : Node) (q : List Nat) :
    (n.placeOf start q).origin = start.origin := by
  induction q generalizing n start with
  | nil => rfl
  | cons i q ih =>
    rw [placeOf]
    cases n.child? i with
    | none => rfl
    | some c => exact ih (start.child c.kind i) c

/-- The labels on the way to a position are plain, if those on the way to the start are. -/
theorem PlainBelow.placeOf {n : Node} (plain : n.PlainBelow) {start : Location}
    (front : ∀ l ∈ start.labels, l.IsPlain) (q : List Nat) :
    ∀ l ∈ (n.placeOf start q).labels, l.IsPlain := by
  induction q generalizing n start with
  | nil => exact front
  | cons i q ih =>
    rw [Node.placeOf]
    cases found : n.child? i with
    | none => exact front
    | some c =>
      obtain ⟨here, below⟩ := plain.child found
      exact ih below (List.forall_mem_cons.mpr ⟨here, front⟩)

/-- The written form of the place of a position tells the position. -/
theorem PlainBelow.position_eq {n x y : Node} (plain : n.PlainBelow) {q q' : List Nat}
    (found : n.descend q = some x) (found' : n.descend q' = some y) (origin : Text)
    (same : (n.placeOf (.root origin) q).render = (n.placeOf (.root origin) q').render) :
    q = q' := by
  have places : n.placeOf (.root origin) q = n.placeOf (.root origin) q' :=
    Location.eq_of_render_eq (by rw [origin_placeOf, origin_placeOf])
      (plain.placeOf (List.forall_mem_nil _) q)
      (plain.placeOf (List.forall_mem_nil _) q') same
  have slots := congrArg Location.slots places
  rwa [slots_placeOf _ found, slots_placeOf _ found', List.append_cancel_left_eq] at slots

end Node

def Event.visited? : Event → Option Location
  | .visiting place _ => some place
  | _ => none

theorem Pair.filterMap_visited? (p : Pair) :
    p.events.filterMap Event.visited? = p.visited.map Pair.place := by
  have one (r : Pair) : r.report.filterMap Event.visited? = [r.place] := by
    unfold report
    cases r.difference? with
    | some d => rfl
    | none => simp [Event.visited?, List.filterMap_map, Function.comp_def]
  rw [p.events_eq_visited, List.filterMap_flatMap, List.map_eq_flatMap]
  simp only [one]

/-- The written places of a comparison tell its visits and its differences apart. Let no node
below the expected one have a kind with an opening bracket; dots and closing brackets may stand
anywhere, the start text and the actual tree are arbitrary. Then two positions that are
reached jointly and whose places are written alike are one position, also where one lies below
the other. So no two visits of one comparison are at places that are written alike, and no two
of its differences name one place. -/
theorem written_places_differ {e : Node} (plain : e.PlainBelow) (a : Node) (origin : Text) :
    let p : Pair := ⟨e, a, .root origin⟩
    (∀ q q' x y x' y', e.Reaches a q x y → e.Reaches a q' x' y' →
      (e.placeOf (.root origin) q).render = (e.placeOf (.root origin) q').render → q = q') ∧
    (p.events.filterMap Event.visited?).Pairwise (fun l l' => l.render ≠ l'.render) ∧
    p.differences.Pairwise (fun d d' => d.place.render ≠ d'.place.render) := by
  intro p
  have apart {q q' : List Nat} {x y x' y' : Node} (reach : e.Reaches a q x y)
      (reach' : e.Reaches a q' x' y')
      (less : (e.placeOf (.root origin) q).slots < (e.placeOf (.root origin) q').slots) :
      (e.placeOf (.root origin) q).render ≠ (e.placeOf (.root origin) q').render := by
    intro same
    obtain rfl := plain.position_eq reach.expected reach'.expected origin same
    exact List.lt_irrefl _ less
  refine ⟨?_, ?_, ?_⟩
  · intro q q' x y x' y' reach reach' same
    exact plain.position_eq reach.expected reach'.expected origin same
  · rw [p.filterMap_visited?, List.pairwise_map]
    apply p.visited_increasing.imp_of_mem
    intro r s visitR visitS less
    obtain ⟨q, reach, place⟩ := Pair.mem_visited_iff.mp visitR
    obtain ⟨q', reach', place'⟩ := Pair.mem_visited_iff.mp visitS
    rw [place, place'] at less ⊢
    exact apart reach reach' less
  · apply p.differences_increasing.imp_of_mem
    intro d d' reported reported' less
    obtain ⟨q, x, y, reach, failing⟩ := Pair.mem_differences_iff.mp reported
    obtain ⟨q', x', y', reach', failing'⟩ := Pair.mem_differences_iff.mp reported'
    rw [failing.place_eq, failing'.place_eq] at less ⊢
    exact apart reach reach' less

/-- A tree with three leaves, two of them below a child whose kind holds the signs that also end
a label and begin one. -/
def threeLeaves (first second third : Text) : Node :=
  .whole "a[0]" [] [.whole "b].a" [] [.whole first [] [], .whole second [] []], .whole third [] []]

/-- The leaves `c`, `a` and `a`, of which all three differ, below a start that reads like a step. -/
theorem written_places_differ_leaves :
    (threeLeaves "c" "a" "a").PlainBelow ∧
      let p : Pair := ⟨threeLeaves "c" "a" "a", threeLeaves "x" "y" "z", .root "r.a[1]"⟩
      (∀ q q' x y x' y', p.expected.Reaches p.actual q x y → p.expected.Reaches p.actual q' x' y' →
        (p.expected.placeOf (.root "r.a[1]") q).render =
          (p.expected.placeOf (.root "r.a[1]") q').render → q = q') ∧
      (p.events.filterMap Event.visited?).Pairwise (fun l l' => l.render ≠ l'.render) ∧
      p.differences.Pairwise (fun d d' => d.place.render ≠ d'.place.render) := by
  have leaf (kind : Text) : (Node.whole kind [] []).PlainBelow :=
    Node.PlainBelow.whole (List.forall_mem_nil _)
  have plain : (threeLeaves "c" "a" "a").PlainBelow := by
    apply Node.PlainBelow.whole
    simp only [List.forall_mem_cons]
    refine ⟨⟨by decide, ?_⟩, ⟨by decide, leaf "a"⟩, List.forall_mem_nil _⟩
    apply Node.PlainBelow.whole
    simp only [List.forall_mem_cons]
    exact ⟨⟨by decide, leaf "c"⟩, ⟨by decide, leaf "a"⟩, List.forall_mem_nil _⟩
  exact ⟨plain, written_places_differ plain (threeLeaves "x" "y" "z") "r.a[1]"⟩

end SyntaxParity
