import SyntaxParity.Outline
import SyntaxParity.Proofs.Traversal

namespace SyntaxParity

theorem Node.visitsByRecursion_eq (scope : Scope) (depth : Nat) (n : Node) :
    n.visitsByRecursion scope depth =
      ⟨n, depth⟩ :: (n.childrenIn scope).flatMap (visitsByRecursion scope (depth + 1)) := by
  rw [visitsByRecursion]
  exact congrArg (Visit.mk n depth :: ·)
    (flatMap_attach (n.childrenIn scope) (visitsByRecursion scope (depth + 1)))

/-- The visits still to come are those of the trees below the pending nodes. -/
theorem Visit.run_eq (scope : Scope) (made pending : List Visit) :
    run scope made pending =
      made.reverse ++ pending.flatMap fun v => v.node.visitsByRecursion scope v.depth := by
  induction made, pending using run.induct scope with
  | case1 made => simp [run]
  | case2 made v pending ih =>
    have below : (v.below scope).flatMap (fun w => w.node.visitsByRecursion scope w.depth) =
        (v.node.childrenIn scope).flatMap (Node.visitsByRecursion scope (v.depth + 1)) := by
      rw [Visit.below, List.flatMap_map]
    rw [run, ih, List.flatMap_cons, List.flatMap_append, below, Node.visitsByRecursion_eq]
    simp

inductive Shape where
  | branch (children : List Shape)

namespace Node

theorem visits_eq (scope : Scope) (n : Node) : n.visits scope = n.visitsByRecursion scope 0 := by
  simp [visits, Visit.run_eq]

def shape (scope : Scope) (n : Node) : Shape :=
  .branch ((n.childrenIn scope).attach.map fun ⟨child, _⟩ => child.shape scope)
termination_by sizeOf n
decreasing_by exact sizeOf_lt_of_mem_childrenIn ‹_›

theorem shape_eq (scope : Scope) (n : Node) :
    n.shape scope = .branch ((n.childrenIn scope).map (shape scope)) := by
  rw [shape]
  exact congrArg Shape.branch List.attach_map_val

def depths (scope : Scope) (depth : Nat) (n : Node) : List Nat :=
  (n.visitsByRecursion scope depth).map Visit.depth

theorem depths_eq (scope : Scope) (depth : Nat) (n : Node) :
    n.depths scope depth = depth :: (n.childrenIn scope).flatMap (depths scope (depth + 1)) := by
  rw [depths, visitsByRecursion_eq, List.map_cons, List.map_flatMap]
  rfl

/-- Depths that do not go on at `depth` or below it. -/
def Surfaces (depth : Nat) (rest : List Nat) : Prop :=
  ∀ d ∈ rest.head?, d < depth

theorem surfaces_nil (depth : Nat) : Surfaces depth [] := by
  intro d none
  cases none

theorem not_surfaces_depths {scope : Scope} {depth : Nat} {n : Node} {rest : List Nat} :
    ¬ Surfaces depth (n.depths scope depth ++ rest) := by
  intro h
  rw [depths_eq] at h
  exact Nat.lt_irrefl depth (h depth rfl)

/-- After the children of some siblings come the siblings that follow, or what
follows all of them. -/
theorem Surfaces.deeper {scope : Scope} {depth : Nat} {rest : List Nat} (h : Surfaces depth rest)
    (siblings : List Node) :
    Surfaces (depth + 1) (siblings.flatMap (depths scope depth) ++ rest) := by
  intro d first
  cases siblings with
  | nil => exact Nat.lt_succ_of_lt (h d first)
  | cons n siblings =>
    rw [List.flatMap_cons, depths_eq] at first
    obtain rfl := Option.some.inj first
    exact Nat.lt_succ_self _

/-- Siblings whose visits have the same depths branch alike, whatever follows
them further up. -/
theorem shapes_eq_of_depths {scope : Scope} {depth : Nat} {f g : List Node} {rest rest' : List Nat}
    (h : Surfaces depth rest) (h' : Surfaces depth rest')
    (same : f.flatMap (depths scope depth) ++ rest = g.flatMap (depths scope depth) ++ rest') :
    f.map (shape scope) = g.map (shape scope) ∧ rest = rest' := by
  -- on the weight of the siblings: what comes behind a node are its children and then its
  -- siblings, and each of these two lists weighs less than both with the node
  induction size : weight f using Nat.strongRecOn generalizing depth f g rest rest' with
  | ind size ih =>
    cases f with
    | nil =>
      cases g with
      | nil => exact ⟨rfl, same⟩
      | cons m g =>
        rw [List.flatMap_nil, List.nil_append] at same
        rw [same, List.flatMap_cons, List.append_assoc] at h
        exact (not_surfaces_depths h).elim
    | cons n f =>
      cases g with
      | nil =>
        rw [List.flatMap_nil, List.nil_append] at same
        rw [← same, List.flatMap_cons, List.append_assoc] at h'
        exact (not_surfaces_depths h').elim
      | cons m g =>
        rw [List.flatMap_cons, List.flatMap_cons, depths_eq, depths_eq scope depth m,
          List.append_assoc, List.append_assoc, List.cons_append, List.cons_append,
          List.cons.injEq] at same
        have smaller := n.weight_childrenIn_lt scope
        simp only [weight] at size
        obtain ⟨children, others⟩ :=
          ih (weight (n.childrenIn scope)) (by omega) (h.deeper f) (h'.deeper g) same.2 rfl
        obtain ⟨siblings, rests⟩ := ih (weight f) (by omega) h h' others rfl
        refine ⟨?_, rests⟩
        rw [List.map_cons, List.map_cons, shape_eq, shape_eq scope m, children, siblings]

/-- The depths of the visits determine the shape of a tree. -/
theorem shape_eq_of_depths {scope : Scope} {s t : Node}
    (same : (s.visits scope).map Visit.depth = (t.visits scope).map Visit.depth) :
    s.shape scope = t.shape scope := by
  have depths : [s].flatMap (depths scope 0) ++ [] = [t].flatMap (depths scope 0) ++ [] := by
    simpa [visits_eq, depths] using same
  have shapes := (shapes_eq_of_depths (surfaces_nil 0) (surfaces_nil 0) depths).1
  exact List.head_eq_of_cons_eq shapes

end Node

end SyntaxParity
