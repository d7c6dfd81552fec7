import Mathlib.Data.List.Forall2
import SyntaxParity.Proofs.Equivalence
import SyntaxParity.Proofs.OutlineLines

namespace SyntaxParity

/-- An outline under way: the visits already made, the last one first, and those
still pending. -/
structure Walk where
  made : List Visit
  pending : List Visit

def Walk.turn (scope : Scope) : Walk → Walk
  | ⟨made, []⟩ => ⟨made, []⟩
  | ⟨made, v :: pending⟩ => ⟨v :: made, v.below scope ++ pending⟩

/-- One turn for each visit that is still to be made leaves none pending. -/
theorem Walk.turns_reach_visits (scope : Scope) (made pending : List Visit) :
    ∃ turns, turns + made.length = (Visit.run scope made pending).length ∧
      (turn scope)^[turns] ⟨made, pending⟩ = ⟨(Visit.run scope made pending).reverse, []⟩ := by
  induction made, pending using Visit.run.induct scope with
  | case1 made => exact ⟨0, by simp [Visit.run]⟩
  | case2 made v pending ih =>
    obtain ⟨turns, total, reached⟩ := ih
    rw [List.length_cons] at total
    rw [Visit.run]
    exact ⟨turns + 1, by omega, by rw [Function.iterate_succ_apply]; exact reached⟩

namespace Node

def childIn? (n : Node) (scope : Scope) (i : Nat) : Option Node :=
  (n.slotsIn scope)[i]?.join

/-- The node that a sequence of slots of a scope leads to, if there is a child at
each step. -/
def descendIn (scope : Scope) : Node → List Nat → Option Node
  | n, [] => some n
  | n, i :: q => (n.childIn? scope i).bind fun c => c.descendIn scope q

theorem childIn?_eq_some_iff {n c : Node} {scope : Scope} {i : Nat} :
    n.childIn? scope i = some c ↔ (n.slotsIn scope)[i]? = some (some c) := by
  rw [childIn?, Option.join_eq_some_iff]

theorem mem_childrenIn_of_childIn? {n c : Node} {scope : Scope} {i : Nat}
    (h : n.childIn? scope i = some c) : c ∈ n.childrenIn scope :=
  List.mem_filterMap.mpr ⟨some c, List.mem_of_getElem? (childIn?_eq_some_iff.mp h), rfl⟩

theorem sizeOf_lt_of_childIn? {n c : Node} {scope : Scope} {i : Nat}
    (h : n.childIn? scope i = some c) : sizeOf c < sizeOf n :=
  sizeOf_lt_of_mem_childrenIn (mem_childrenIn_of_childIn? h)

/-- What holds of a node whenever it holds of its children in a scope holds of
every node. -/
@[elab_as_elim]
theorem childIn_induction {motive : Node → Prop} (scope : Scope)
    (step : ∀ n : Node, (∀ i c, n.childIn? scope i = some c → motive c) → motive n) (n : Node) :
    motive n := by
  induction h : sizeOf n using Nat.strongRecOn generalizing n with
  | ind weight ih =>
    apply step
    intro i c child
    exact ih (sizeOf c) (h ▸ sizeOf_lt_of_childIn? child) c rfl

def positions (scope : Scope) (n : Node) : List (List Nat) :=
  [] :: (List.range (n.slotsIn scope).length).flatMap fun i =>
    match _h : n.childIn? scope i with
    | some c => (c.positions scope).map (i :: ·)
    | none => []
termination_by sizeOf n
decreasing_by exact sizeOf_lt_of_childIn? _h

theorem positions_eq (scope : Scope) (n : Node) :
    n.positions scope =
      [] :: (List.range (n.slotsIn scope).length).flatMap fun i =>
        (n.childIn? scope i).toList.flatMap fun c => (c.positions scope).map (i :: ·) := by
  rw [positions]
  refine congrArg ([] :: ·) (List.flatMap_congr fun i _ => ?_)
  split
  · next c child => rw [child, Option.toList_some, List.flatMap_singleton]
  · next none => rw [none, Option.toList_none, List.flatMap_nil]

/-- The children in a scope, slot by slot. -/
theorem flatMap_childrenIn {α : Type} (n : Node) (scope : Scope) (f : Node → List α) :
    (n.childrenIn scope).flatMap f =
      (List.range (n.slotsIn scope).length).flatMap fun i =>
        (n.childIn? scope i).toList.flatMap f := by
  unfold childrenIn childIn?
  induction n.slotsIn scope with
  | nil => rfl
  | cons slot rest ih =>
    -- the slots behind the first are those of the rest, one further on
    rw [List.length_cons, List.range_succ_eq_map, List.flatMap_cons, List.flatMap_map]
    simp only [List.getElem?_cons_succ, Nat.succ_eq_add_one, ← ih]
    cases slot with
    | none => rfl
    | some c => simp

/-- The positions of a tree are those at which there is a node. -/
theorem mem_positions_iff {scope : Scope} {n : Node} {q : List Nat} :
    q ∈ n.positions scope ↔ ∃ m, n.descendIn scope q = some m := by
  induction q generalizing n with
  | nil =>
    rw [positions_eq]
    exact ⟨fun _ => ⟨n, rfl⟩, fun _ => List.mem_cons_self⟩
  | cons i q ih =>
    rw [positions_eq]
    simp only [List.mem_cons, reduceCtorEq, List.mem_flatMap, List.mem_range, Option.mem_toList,
      List.mem_map, List.cons.injEq, false_or, descendIn, Option.bind_eq_some_iff]
    constructor
    · rintro ⟨j, -, c, child, r, member, rfl, rfl⟩
      obtain ⟨m, found⟩ := ih.mp member
      exact ⟨m, c, child, found⟩
    · rintro ⟨m, c, child, found⟩
      obtain ⟨inside, -⟩ := List.getElem?_eq_some_iff.mp (childIn?_eq_some_iff.mp child)
      exact ⟨i, inside, c, child, q, ih.mpr ⟨m, found⟩, rfl, rfl⟩

/-- The positions of a tree stand in lexicographic order, so each stands once. -/
theorem positions_increasing (scope : Scope) (n : Node) :
    (n.positions scope).Pairwise (· < ·) := by
  induction n using childIn_induction scope with
  | step n ih =>
    rw [positions_eq, List.pairwise_cons, List.pairwise_flatMap]
    refine ⟨?_, ?_, ?_⟩
    · intro q member
      simp only [List.mem_flatMap, List.mem_map] at member
      obtain ⟨i, -, c, -, r, -, rfl⟩ := member
      exact List.nil_lt_cons i r
    · intro i _
      cases child : n.childIn? scope i with
      | none => exact .nil
      | some c =>
        rw [Option.toList_some, List.flatMap_singleton, List.pairwise_map]
        exact (ih i c child).imp fun less => List.cons_lt_cons_self.mpr less
    · apply List.pairwise_lt_range.imp
      intro i j before q hq r hr
      simp only [List.mem_flatMap, List.mem_map] at hq hr
      obtain ⟨-, -, q, -, rfl⟩ := hq
      obtain ⟨-, -, r, -, rfl⟩ := hr
      exact List.cons_lt_cons_iff.mpr (.inl before)

/-- The visits of a tree are the nodes at its positions, in the order of these, and
each is as deep as its position is long. -/
theorem map_visits_eq (scope : Scope) (depth : Nat) (n : Node) :
    (n.visitsByRecursion scope depth).map (fun v => (some v.node, v.depth)) =
      (n.positions scope).map fun q => (n.descendIn scope q, depth + q.length) := by
  induction n using childIn_induction scope generalizing depth with
  | step n ih =>
    rw [positions_eq, visitsByRecursion_eq, flatMap_childrenIn, List.map_cons, List.map_cons,
      List.map_flatMap, List.map_flatMap]
    refine congrArg ((some n, depth) :: ·) (List.flatMap_congr fun i _ => ?_)
    cases child : n.childIn? scope i with
    | none => rfl
    | some c =>
      rw [Option.toList_some, List.flatMap_singleton, List.flatMap_singleton, ih i c child,
        List.map_map]
      refine List.map_congr_left fun q _ => ?_
      rw [Function.comp_apply, descendIn, child, List.length_cons]
      exact Prod.ext rfl (by omega)

/-- A property of every node of a tree that can be reached within a scope. -/
def Everywhere (n : Node) (scope : Scope) (property : Node → Prop) : Prop :=
  ∀ q m, n.descendIn scope q = some m → property m

def Filled (scope : Scope) (n : Node) : Prop :=
  none ∉ n.slotsIn scope

def Counted (n : Node) : Prop :=
  n.namedCount = n.named.length

theorem Filled.exists_childIn? {n : Node} {scope : Scope} {i : Nat} (h : n.Filled scope)
    (inside : i < (n.slotsIn scope).length) : ∃ c, n.childIn? scope i = some c := by
  cases slot : (n.slotsIn scope)[i] with
  | none => exact (h (slot ▸ List.getElem_mem inside)).elim
  | some c => exact ⟨c, childIn?_eq_some_iff.mpr (by rw [List.getElem?_eq_getElem inside, slot])⟩

section Everywhere

variable {n c : Node} {scope : Scope} {property : Node → Prop}

theorem Everywhere.here (h : n.Everywhere scope property) : property n :=
  h [] n rfl

theorem Everywhere.child {i : Nat} (h : n.Everywhere scope property)
    (child : n.childIn? scope i = some c) : c.Everywhere scope property := by
  intro q m found
  apply h (i :: q) m
  rw [descendIn, child]
  exact found

theorem everywhere_iff_visits :
    n.Everywhere scope property ↔ ∀ v ∈ n.visits scope, property v.node := by
  have same := congrArg (List.map Prod.fst) (n.map_visits_eq scope 0)
  rw [← visits_eq, List.map_map, List.map_map] at same
  constructor
  · intro h v visit
    obtain ⟨q, -, found⟩ := List.mem_map.mp (same ▸ List.mem_map_of_mem visit)
    exact h q v.node found
  · intro h q m found
    have position := mem_positions_iff.mpr ⟨m, found⟩
    obtain ⟨v, visit, here⟩ := List.mem_map.mp (same.symm ▸ List.mem_map_of_mem position)
    obtain rfl : v.node = m := Option.some.inj (here.trans found)
    exact h v visit

end Everywhere

theorem isComplete_iff {n : Node} {scope : Scope} :
    n.isComplete scope = true ↔ n.Everywhere scope (Filled scope) := by
  rw [everywhere_iff_visits, isComplete, List.all_eq_true]
  refine forall₂_congr fun v _ => ?_
  rw [List.all_eq_true, Filled]
  constructor
  · intro all empty
    cases all none empty
  · intro filled slot member
    cases slot with
    | none => exact (filled member).elim
    | some c => rfl

end Node

/-- The comparison of a tree with itself tells of one visit for each node that the
outline visits, in the same order, at a place as far below the start as the node is
deep. -/
theorem Pair.trace_itself (n : Node) (place : Location)
    (filled : n.Everywhere .named (Node.Filled .named))
    (counted : n.Everywhere .named Node.Counted) :
    List.Forall₂
      (fun v line => ∃ l : Location, l.origin = place.origin ∧ l.depth = v.depth ∧
        line = (.concat ["  Visiting ", l.render, " (", v.node.kind, ")"] : Text))
      (n.visitsByRecursion .named place.depth) (Pair.mk n n place).trace := by
  induction n using Node.childIn_induction .named generalizing place with
  | step n ih =>
    have agree : (Pair.mk n n place).difference? = none :=
      difference?_eq_none_iff.mpr ⟨rfl, rfl, rfl⟩
    have span : n.span = n.named.length := by
      rw [Node.span, counted.here, Int.toNat_natCast]
    have child (i : Nat) : (Pair.mk n n place).child? i =
        (n.childIn? .named i).map fun c => ⟨c, c, place.child c.kind i⟩ := by
      rw [child?, show n.child? i = n.childIn? .named i from rfl]
      cases n.childIn? .named i <;> rfl
    have holes : (Pair.mk n n place).holes = [] := by
      rw [Pair.holes, List.filter_eq_nil_iff]
      intro i inside
      rw [List.mem_range, span] at inside
      obtain ⟨c, found⟩ := filled.here.exists_childIn? inside
      simp [child, found]
    rw [trace_of_agreement agree, holes, Node.visitsByRecursion_eq, Node.flatMap_childrenIn,
      flatMap_children, span]
    refine .cons ⟨place, rfl, rfl, rfl⟩ ?_
    refine List.rel_flatMap (List.forall₂_same.mpr fun i _ => rfl) ?_
    rintro i _ rfl
    simp only [child]
    cases found : n.childIn? .named i with
    | none => exact .nil
    | some c =>
      rw [Option.toList_some, List.flatMap_singleton, Option.map_some, Option.toList_some,
        List.flatMap_singleton]
      exact ih i c found (place.child c.kind i) (filled.child found) (counted.child found)

namespace Node

/-- The two traversals of a tree. An outline, within the named children or within
all of them, visits in as many turns as it makes visits those of the plain recursion:
the nodes at the positions of the tree, in the lexicographic order of the positions,
each position once and as deep as it is long; and if no slot is empty, they are
listed. If the reported numbers of named children are right as well, a comparison of
the tree with itself finds no difference, and its trace has one line for each visit
of a named node, in the same order, with the kind of the node and a path that goes as
many labels beyond the start as the node is deep. -/
theorem traversals_agree (n : Node) (origin : Text) :
    (∀ scope, n.Everywhere scope (Filled scope) →
      (Walk.turn scope)^[(n.visits scope).length] ⟨[], [⟨n, 0⟩]⟩ =
          ⟨(n.visits scope).reverse, []⟩ ∧
        n.visits scope = n.visitsByRecursion scope 0 ∧
        (n.visits scope).map (fun v => (some v.node, v.depth)) =
          (n.positions scope).map (fun q => (n.descendIn scope q, q.length)) ∧
        (n.positions scope).Pairwise (· < ·) ∧
        (∀ q, q ∈ n.positions scope ↔ ∃ m, n.descendIn scope q = some m) ∧
        n.listing scope = .ok ((n.visits scope).map fun v => (v.node.kind, v.depth))) ∧
    (n.Everywhere .named (Filled .named) → n.Everywhere .named Counted →
      (Pair.mk n n (.root origin)).differences = [] ∧
        List.Forall₂
          (fun v line => ∃ l : Location, l.origin = origin ∧ l.depth = v.depth ∧
            line = (.concat ["  Visiting ", l.render, " (", v.node.kind, ")"] : Text))
          (n.visits .named) (Pair.mk n n (.root origin)).trace) := by
  constructor
  · intro scope filled
    have preorder := n.map_visits_eq scope 0
    rw [← visits_eq] at preorder
    simp only [Nat.zero_add] at preorder
    obtain ⟨turns, total, reached⟩ := Walk.turns_reach_visits scope [] [⟨n, 0⟩]
    obtain rfl : turns = (n.visits scope).length := total
    exact ⟨reached, visits_eq scope n, preorder, n.positions_increasing scope,
      fun q => mem_positions_iff, by rw [listing, if_pos (isComplete_iff.mpr filled)]⟩
  · intro filled counted
    refine ⟨Pair.differences_eq_nil_iff.mpr (.refl n), ?_⟩
    rw [visits_eq]
    exact Pair.trace_itself n (.root origin) filled counted

/-- The visits of a section that is compiled on a condition, of all its nodes and of
those that a comparison looks at. -/
theorem traversals_agree_conditional :
    conditional.Everywhere .all (Filled .all) ∧ conditional.Everywhere .named (Filled .named) ∧
      conditional.Everywhere .named Counted ∧
      (conditional.visits .all).map (fun v => (some v.node, v.depth)) =
        (conditional.positions .all).map (fun q => (conditional.descendIn .all q, q.length)) ∧
      (Pair.mk conditional conditional (.root "root")).differences = [] ∧
      List.Forall₂
        (fun v line => ∃ l : Location, l.origin = "root" ∧ l.depth = v.depth ∧
          line = (.concat ["  Visiting ", l.render, " (", v.node.kind, ")"] : Text))
        (conditional.visits .named) (Pair.mk conditional conditional (.root "root")).trace := by
  have all : conditional.Everywhere .all (Filled .all) :=
    isComplete_iff.mp (by decide +kernel)
  have named : conditional.Everywhere .named (Filled .named) :=
    isComplete_iff.mp (by decide +kernel)
  have counts : ∀ v ∈ conditional.visits .named, v.node.namedCount = v.node.named.length := by
    decide +kernel
  have counted : conditional.Everywhere .named Counted := everywhere_iff_visits.mpr counts
  obtain ⟨outline, comparison⟩ := traversals_agree conditional "root"
  obtain ⟨-, -, preorder, -⟩ := outline .all all
  obtain ⟨none, trace⟩ := comparison named counted
  exact ⟨all, named, counted, preorder, none, trace⟩

end Node

end SyntaxParity
