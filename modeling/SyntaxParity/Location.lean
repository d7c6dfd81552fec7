import SyntaxParity.Text

namespace SyntaxParity

/-- One step down: the kind of the child and the slot it stands in. -/
structure Label where
  kind : Text
  slot : Nat
deriving DecidableEq

/-- A place below a start text. The label of the last step comes first. -/
structure Location where
  origin : Text
  labels : List Label
deriving DecidableEq

def Label.render (l : Label) : Text :=
  .concat [".", l.kind, "[", .ofNat l.slot, "]"]

namespace Location

def root (origin : Text) : Location :=
  ⟨origin, []⟩

def child (p : Location) (kind : Text) (slot : Nat) : Location :=
  ⟨p.origin, ⟨kind, slot⟩ :: p.labels⟩

def depth (p : Location) : Nat :=
  p.labels.length

def render (p : Location) : Text :=
  p.origin ++ p.labels.reverse.flatMap Label.render

end Location

end SyntaxParity
