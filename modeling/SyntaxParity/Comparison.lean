import SyntaxParity.Difference
import SyntaxParity.Node
import SyntaxParity.Text.Blank

/-!
The comparison of two syntax trees. Two nodes agree when their kinds, their
texts without blanks and the counts of named children they report agree; the
first of these checks that fails makes the difference of the pair, and nothing
below the pair is looked at then. The comparison is given twice: as a run over
a list of pending pairs, whose memory does not depend on the depth of the
trees, and as a plain recursion on the pair.
-/

namespace SyntaxParity

structure Pair where
  expected : Node
  actual : Node
  place : Location

/-- What a comparison meets on its way, in order: the pairs it visits, the slots
it passes over because a child is missing there, the differences it finds. -/
inductive Event where
  | visiting (place : Location) (kind : Text)
  | skipping (place : Location) (slot : Nat)
  | found (difference : Difference)

namespace Event

def difference? : Event → Option Difference
  | .found d => some d
  | _ => none

/-- The line of the trace that tells of an event; differences are not traced. -/
def line? : Event → Option Text
  | .visiting place kind => some (.concat ["  Visiting ", place.render, " (", kind, ")"])
  | .skipping place slot =>
    some (.concat ["    Skipping missing child ", .ofNat slot, " of ", place.render])
  | .found _ => none

end Event

namespace Pair

/-- The first check that fails: kinds, then texts without blanks, then reported
counts of named children. -/
def difference? (p : Pair) : Option Difference :=
  if p.expected.kind ≠ p.actual.kind then
    some (.kinds p.place p.expected.kind p.actual.kind)
  else if p.expected.text.dense ≠ p.actual.text.dense then
    some (.texts p.place p.expected.kind p.expected.text p.actual.text)
  else if p.expected.namedCount ≠ p.actual.namedCount then
    some (.counts p.place p.expected.namedCount p.actual.namedCount)
  else
    none

def child? (p : Pair) (i : Nat) : Option Pair :=
  match p.expected.child? i, p.actual.child? i with
  | some e, some a => some ⟨e, a, p.place.child e.kind i⟩
  | _, _ => none

def children (p : Pair) : List Pair :=
  (List.range p.expected.span).filterMap p.child?

/-- The slots within the reported count where a child is missing on a side. -/
def holes (p : Pair) : List Nat :=
  (List.range p.expected.span).filter fun i => (p.child? i).isNone

/-- The pairs that are compared because this one is: none below a difference. -/
def below (p : Pair) : List Pair :=
  match p.difference? with
  | some _ => []
  | none => p.children

def report (p : Pair) : List Event :=
  .visiting p.place p.expected.kind ::
    match p.difference? with
    | some d => [.found d]
    | none => p.holes.map (.skipping p.place)

end Pair

/-- The children in some of the slots weigh no more than the slots. -/
theorem weight_slots_le (slots : List (Option Node)) (count : Nat) :
    Node.weight ((List.range count).filterMap fun i => slots[i]?.join) ≤ sizeOf slots := by
  induction slots generalizing count with
  | nil =>
    rw [List.filterMap_eq_nil_iff.2 fun i _ => by simp]
    exact Nat.zero_le _
  | cons slot rest ih =>
    cases count with
    | zero => simp [Node.weight]
    | succ count =>
      have tail := ih count
      cases slot with
      | none =>
        simp only [List.range_succ_eq_map, List.filterMap_cons, List.filterMap_map,
          Function.comp_def, List.getElem?_cons_zero, List.getElem?_cons_succ, Option.join_some,
          Nat.succ_eq_add_one, List.cons.sizeOf_spec] at tail ⊢
        omega
      | some n =>
        simp only [List.range_succ_eq_map, List.filterMap_cons, List.filterMap_map,
          Function.comp_def, List.getElem?_cons_zero, List.getElem?_cons_succ, Option.join_some,
          Nat.succ_eq_add_one, List.cons.sizeOf_spec, Option.some.sizeOf_spec,
          Node.weight] at tail ⊢
        omega

namespace Pair

/-- The pairs in some slots weigh no more than the expected children there. -/
theorem weight_filterMap_child?_le (p : Pair) (slots : List Nat) :
    Node.weight ((slots.filterMap p.child?).map Pair.expected) ≤
      Node.weight (slots.filterMap p.expected.child?) := by
  induction slots with
  | nil => simp
  | cons i rest ih =>
    cases he : p.expected.child? i with
    | none => simpa [child?, he] using ih
    | some e =>
      cases ha : p.actual.child? i with
      | none =>
        simp only [List.filterMap_cons, child?, he, ha, Node.weight] at ih ⊢
        omega
      | some a =>
        simp only [List.filterMap_cons, child?, he, ha, List.map_cons, Node.weight] at ih ⊢
        omega

/-- The pairs below a pair weigh less than the pair. -/
theorem weight_below_lt (p : Pair) :
    Node.weight (p.below.map Pair.expected) < sizeOf p.expected := by
  have slots : sizeOf p.expected.named < sizeOf p.expected := by
    rcases p with ⟨⟨⟩, actual, place⟩
    simp only [Node.mk.sizeOf_spec]
    omega
  unfold below
  split
  · exact Nat.lt_of_le_of_lt (Nat.zero_le _) slots
  · exact Nat.lt_of_le_of_lt
      (Nat.le_trans (p.weight_filterMap_child?_le _) (weight_slots_le _ _)) slots

/-- A pair below a pair weighs less. -/
theorem sizeOf_lt_of_mem_below {p q : Pair} (h : q ∈ p.below) :
    sizeOf q.expected < sizeOf p.expected :=
  Nat.lt_of_le_of_lt (Node.sizeOf_le_weight (List.mem_map_of_mem h)) p.weight_below_lt

/-- The events of a list of pending pairs, after those already met, which are
kept backwards. The first pair is taken off and the pairs below it take its
place. -/
def run (met : List Event) : (pending : List Pair) → List Event
  | [] => met.reverse
  | p :: pending => run (p.report.reverse ++ met) (p.below ++ pending)
termination_by pending => Node.weight (pending.map Pair.expected)
decreasing_by
  have h := p.weight_below_lt
  simp only [List.map_append, Node.weight_append, List.map_cons, Node.weight]
  omega

def events (p : Pair) : List Event :=
  run [] [p]

/-- The events of a comparison that starts with this pair, by recursion: those
of the pair itself, then those of the pairs below it, one after the other. -/
def eventsByRecursion (p : Pair) : List Event :=
  p.report ++ p.below.attach.flatMap fun ⟨q, _⟩ => q.eventsByRecursion
termination_by sizeOf p.expected
decreasing_by exact sizeOf_lt_of_mem_below ‹_›

def differences (p : Pair) : List Difference :=
  p.events.filterMap Event.difference?

def trace (p : Pair) : List Text :=
  p.events.filterMap Event.line?

def output (p : Pair) (verbose : Bool) : Text :=
  if verbose then .printLines p.trace else []

end Pair

end SyntaxParity
