import SyntaxParity.Node

/-!
The outline of a syntax tree: one line for each node in pre-order, indented by
depth, with the kind of the node, where it starts and ends, and the text of a
leaf. As with the comparison, the visits are given as a run over a list of
pending nodes and as a plain recursion. They pass over empty slots, but a tree
in which a visit meets one is not complete, and such a tree has no outline.
-/

namespace SyntaxParity

inductive Scope where
  | named
  | all
deriving DecidableEq

def Node.slotsIn (n : Node) : Scope → List (Option Node)
  | .named => n.named
  | .all => n.children

def Node.childrenIn (n : Node) (scope : Scope) : List Node :=
  (n.slotsIn scope).filterMap id

/-- The nodes in a list of slots weigh no more than the slots. -/
theorem weight_present_le (slots : List (Option Node)) :
    Node.weight (slots.filterMap id) ≤ sizeOf slots := by
  induction slots with
  | nil => simp [Node.weight]
  | cons slot rest ih =>
    cases slot with
    | none =>
      simp only [List.filterMap_cons, id_eq, List.cons.sizeOf_spec] at ih ⊢
      omega
    | some n =>
      simp only [List.filterMap_cons, id_eq, Node.weight, List.cons.sizeOf_spec,
        Option.some.sizeOf_spec] at ih ⊢
      omega

/-- The children in a scope weigh less than the node. -/
theorem Node.weight_childrenIn_lt (n : Node) (scope : Scope) :
    weight (n.childrenIn scope) < sizeOf n := by
  have slots := weight_present_le (n.slotsIn scope)
  rcases n with ⟨kind, content, named, namedCount, children, childCount, start, stop⟩
  cases scope <;> simp only [childrenIn, slotsIn, mk.sizeOf_spec] at slots ⊢ <;> omega

/-- A child in a scope weighs less than the node. -/
theorem Node.sizeOf_lt_of_mem_childrenIn {n c : Node} {scope : Scope}
    (h : c ∈ n.childrenIn scope) : sizeOf c < sizeOf n :=
  Nat.lt_of_le_of_lt (sizeOf_le_weight h) (n.weight_childrenIn_lt scope)

/-- A node and how far below the root it was met. -/
structure Visit where
  node : Node
  depth : Nat

namespace Visit

def below (scope : Scope) (v : Visit) : List Visit :=
  (v.node.childrenIn scope).map fun child => ⟨child, v.depth + 1⟩

theorem weight_below_lt (scope : Scope) (v : Visit) :
    Node.weight ((v.below scope).map Visit.node) < sizeOf v.node := by
  simpa only [below, List.map_map, Function.comp_def, List.map_id']
    using v.node.weight_childrenIn_lt scope

/-- The visits of a list of pending nodes, after those already made, which are
kept backwards. The first node is taken off and its children take its place. -/
def run (scope : Scope) (made : List Visit) : (pending : List Visit) → List Visit
  | [] => made.reverse
  | v :: pending => run scope (v :: made) (v.below scope ++ pending)
termination_by pending => Node.weight (pending.map Visit.node)
decreasing_by
  have h := v.weight_below_lt scope
  simp only [List.map_append, Node.weight_append, List.map_cons, Node.weight]
  omega

def previewLength : Nat := 100

/-- The text of a leaf as an outline shows it: a long one is cut off. -/
def leafText (v : Visit) : Text :=
  if v.node.text.length > previewLength then
    v.node.text.preview previewLength
  else
    v.node.text

def indentation (v : Visit) : Text :=
  .concat (List.replicate v.depth "  ")

/-- The line of an outline for one visit. A node that reports no children is a
leaf and shows its text. -/
def line (v : Visit) : Text :=
  .concat
    [v.indentation, v.node.kind, " [", .ofInt v.node.start.row, ":", .ofInt v.node.start.column,
     " - ", .ofInt v.node.stop.row, ":", .ofInt v.node.stop.column, "]",
     if v.node.childCount = 0 then " " ++ v.leafText.quoted else ""]

end Visit

inductive MissingChild where
  | kind
  | start
deriving DecidableEq

def MissingChild.message : MissingChild → Text
  | .kind => "'NoneType' object has no attribute 'type'"
  | .start => "'NoneType' object has no attribute 'start_point'"

namespace Node

def visits (scope : Scope) (n : Node) : List Visit :=
  Visit.run scope [] [⟨n, 0⟩]

/-- The visits of the tree below a node at some depth, by recursion: the node
itself, then those of its children, one after the other. -/
def visitsByRecursion (scope : Scope) (depth : Nat) (n : Node) : List Visit :=
  ⟨n, depth⟩ :: (n.childrenIn scope).attach.flatMap fun ⟨child, _⟩ =>
    child.visitsByRecursion scope (depth + 1)
termination_by sizeOf n
decreasing_by exact sizeOf_lt_of_mem_childrenIn ‹_›

/-- Whether no visited node has an empty slot in the scope. -/
def isComplete (scope : Scope) (n : Node) : Bool :=
  (n.visits scope).all fun v => (v.node.slotsIn scope).all Option.isSome

def listing (scope : Scope) (n : Node) : Except MissingChild (List (Text × Nat)) :=
  if n.isComplete scope then .ok ((n.visits scope).map fun v => (v.node.kind, v.depth))
  else .error .kind

def outline (scope : Scope) (n : Node) : Except MissingChild Text :=
  if n.isComplete scope then .ok (.joinLines ((n.visits scope).map Visit.line))
  else .error .start

end Node

end SyntaxParity
