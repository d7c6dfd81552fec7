import SyntaxParity.Utf8

/-!
Syntax trees as an outside parser hands them over. What a node reports about
itself is data of its own: its counts of children may disagree with the children
it has, and a slot among its children may be empty.
-/

namespace SyntaxParity

structure Point where
  row : Int
  column : Int
deriving DecidableEq

/-- The text that a node carries: none, the bytes of its part of the source, or
a text. -/
inductive Content where
  | absent
  | bytes (bytes : Bytes)
  | text (text : Text)
deriving DecidableEq

/-- The content as a text. Flawed bytes are replaced. -/
def Content.toText : Content → Text
  | .absent => []
  | .bytes b => Utf8.decodeReplacing b
  | .text t => t

/-- A node of a syntax tree: its kind, the text it spans, the slots of its named
children and of all of its children, the counts it reports of both, and where it
starts and ends. -/
structure Node where
  kind : Text
  content : Content
  named : List (Option Node)
  namedCount : Int
  children : List (Option Node)
  childCount : Int
  start : Point
  stop : Point

namespace Node

def text (n : Node) : Text :=
  n.content.toText

/-- The named child in slot `i`; an empty slot has none, nor has a slot beyond
the last. -/
def child? (n : Node) (i : Nat) : Option Node :=
  n.named[i]?.join

def span (n : Node) : Nat :=
  n.namedCount.toNat

noncomputable def weight : List Node → Nat
  | [] => 0
  | n :: rest => sizeOf n + weight rest

theorem weight_append (left right : List Node) :
    weight (left ++ right) = weight left + weight right := by
  induction left with
  | nil => simp [weight]
  | cons n rest ih =>
    simp only [List.cons_append, weight, ih]
    omega

theorem sizeOf_le_weight {n : Node} {nodes : List Node} (h : n ∈ nodes) :
    sizeOf n ≤ weight nodes := by
  obtain ⟨left, right, rfl⟩ := List.append_of_mem h
  simp only [weight_append, weight]
  omega

end Node

end SyntaxParity
