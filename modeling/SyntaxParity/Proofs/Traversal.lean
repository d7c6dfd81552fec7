import Mathlib.Logic.Function.Iterate
import Mathlib.Data.List.Basic
import SyntaxParity.Comparison

/-!
The run over pending pairs is the plain recursion. The invariant of the run is
that the events still to come are those of the pending pairs, one pair after
the other; from it follows the equation that every later proof about a
comparison starts from. The comparison in the words of its reports, which knows
neither events nor places, is given last, and the run comes to the same.
-/

namespace SyntaxParity

/-- A recursion that carries membership along for its termination is the plain
one. -/
theorem flatMap_attach {α β : Type} (items : List α) (f : α → List β) :
    items.attach.flatMap (fun item => f item.1) = items.flatMap f := by
  simp only [List.flatMap_def, List.attach_map_val (l := items) (f := f)]

namespace Pair

/-- What holds of a pair whenever it holds of the pairs below it holds of every
pair. -/
@[elab_as_elim]
theorem below_induction {motive : Pair → Prop}
    (step : ∀ p : Pair, (∀ q ∈ p.below, motive q) → motive p) (p : Pair) : motive p := by
  induction h : sizeOf p.expected using Nat.strongRecOn generalizing p with
  | ind weight ih =>
    apply step
    intro q member
    exact ih (sizeOf q.expected) (h ▸ sizeOf_lt_of_mem_below member) q rfl

theorem eventsByRecursion_eq (p : Pair) :
    p.eventsByRecursion = p.report ++ p.below.flatMap eventsByRecursion := by
  rw [eventsByRecursion]
  exact congrArg (p.report ++ ·) (flatMap_attach p.below eventsByRecursion)

/-- The invariant of the run: what is still to come are the events of the
pending pairs. -/
theorem run_eq (met : List Event) (pending : List Pair) :
    run met pending = met.reverse ++ pending.flatMap eventsByRecursion := by
  induction met, pending using run.induct with
  | case1 met => simp [run]
  | case2 met p pending ih =>
    rw [run, ih, List.flatMap_cons, p.eventsByRecursion_eq]
    simp

theorem events_eq_eventsByRecursion (p : Pair) : p.events = p.eventsByRecursion := by
  simp [events, run_eq]

/-- The events of a comparison are those of its first pair, followed by those of
the pairs below. -/
theorem events_eq (p : Pair) : p.events = p.report ++ p.below.flatMap events := by
  have same : events = eventsByRecursion := funext events_eq_eventsByRecursion
  rw [same]
  exact p.eventsByRecursion_eq

def visited (p : Pair) : List Pair :=
  p :: p.below.attach.flatMap fun ⟨q, _⟩ => q.visited
termination_by sizeOf p.expected
decreasing_by exact sizeOf_lt_of_mem_below ‹_›

theorem visited_eq (p : Pair) : p.visited = p :: p.below.flatMap visited := by
  rw [visited]
  exact congrArg (p :: ·) (flatMap_attach p.below visited)

theorem events_eq_visited (p : Pair) : p.events = p.visited.flatMap report := by
  induction p using below_induction with
  | step p ih =>
    have below : p.below.flatMap events = (p.below.flatMap visited).flatMap report := by
      rw [List.flatMap_assoc]
      exact List.flatMap_congr ih
    rw [p.events_eq, p.visited_eq, List.flatMap_cons, below]

/-- A pair has one difference or none to report. -/
theorem filterMap_report (p : Pair) :
    p.report.filterMap Event.difference? = p.difference?.toList := by
  have skips (slots : List Nat) :
      (slots.map (Event.skipping p.place)).filterMap Event.difference? = [] := by
    rw [List.filterMap_map, List.filterMap_eq_nil_iff]
    intro slot _
    rfl
  unfold report
  cases p.difference? with
  | some d => rfl
  | none =>
    simp only [List.filterMap_cons, Event.difference?, skips]
    rfl

theorem differences_eq_visited (p : Pair) :
    p.differences = p.visited.filterMap difference? := by
  rw [differences, p.events_eq_visited, List.filterMap_flatMap, List.filterMap_eq_flatMap_toList]
  simp only [filterMap_report]

/-- The differences of a comparison: that of the pair itself if it has one, and
otherwise those of the pairs of children, in the order of their slots. -/
theorem differences_eq (p : Pair) :
    p.differences =
      match p.difference? with
      | some d => [d]
      | none => p.children.flatMap differences := by
  unfold differences
  rw [p.events_eq, List.filterMap_append, filterMap_report, List.filterMap_flatMap]
  unfold below
  cases p.difference? with
  | some d => rfl
  | none => rfl

/-- The lines of a trace: that of the visit, those of the slots passed over, and
only then those of the pairs of children, in the order of their slots. -/
theorem trace_eq (p : Pair) :
    p.trace = p.report.filterMap Event.line? ++ p.below.flatMap trace := by
  unfold trace
  rw [p.events_eq, List.filterMap_append, List.filterMap_flatMap]

end Pair

/-- A comparison under way: the events already met, the last one first, and the
pairs still pending. -/
structure Progress where
  met : List Event
  pending : List Pair

namespace Progress

def turn : Progress → Progress
  | ⟨met, []⟩ => ⟨met, []⟩
  | ⟨met, p :: pending⟩ => ⟨p.report.reverse ++ met, p.below ++ pending⟩

/-- Some number of turns leaves no pair pending, and then the events met are
those of the run. -/
theorem turns_reach_end (met : List Event) (pending : List Pair) :
    ∃ turns, turn^[turns] ⟨met, pending⟩ = ⟨(Pair.run met pending).reverse, []⟩ := by
  induction met, pending using Pair.run.induct with
  | case1 met => exact ⟨0, by simp [Pair.run]⟩
  | case2 met p pending ih =>
    obtain ⟨turns, reached⟩ := ih
    refine ⟨turns + 1, ?_⟩
    rw [Function.iterate_succ_apply, Pair.run]
    exact reached

end Progress

structure Findings where
  trace : List Text
  reports : List Text

def Findings.concat (all : List Findings) : Findings :=
  ⟨all.flatMap Findings.trace, all.flatMap Findings.reports⟩

namespace Node

theorem sizeOf_lt_of_child? {n c : Node} {i : Nat} (h : n.child? i = some c) :
    sizeOf c < sizeOf n := by
  have slot : some c ∈ n.named := by
    rw [child?, Option.join_eq_some_iff] at h
    exact List.mem_of_getElem? h
  have inside := List.sizeOf_lt_of_mem slot
  rcases n with ⟨kind, content, named, namedCount, children, childCount, start, stop⟩
  simp only [mk.sizeOf_spec, Option.some.sizeOf_spec] at inside ⊢
  omega

/-- What holds of a node whenever it holds of its children holds of every node. -/
@[elab_as_elim]
theorem child_induction {motive : Node → Prop}
    (step : ∀ n : Node, (∀ i c, n.child? i = some c → motive c) → motive n) (n : Node) :
    motive n := by
  induction h : sizeOf n using Nat.strongRecOn generalizing n with
  | ind weight ih =>
    apply step
    intro i c child
    exact ih (sizeOf c) (h ▸ sizeOf_lt_of_child? child) c rfl

/-- The comparison of two nodes at the place written `path`, in the words of its
trace and its reports. A line tells of the visit. The first check that fails, of
the kinds, the texts without blanks and the reported counts, is reported, and
nothing below the nodes is looked at. If none fails, a line tells of each slot
within the count where a side has no child, and the findings for the children
present on both sides follow in the order of their slots. -/
def findings (e a : Node) (path : Text) : Findings :=
  let visit : Text := .concat ["  Visiting ", path, " (", e.kind, ")"]
  if e.kind ≠ a.kind then
    ⟨[visit],
      [.concat
        ["Node type mismatch at ", path, ": expected \"", e.kind, "\", got \"", a.kind, "\""]]⟩
  else if e.text.dense ≠ a.text.dense then
    ⟨[visit],
      [.concat
        ["Node text mismatch at ", path, " (", e.kind, "):\n  Expected: \"", e.text.preview 50,
         "\"\n  Actual:   \"", a.text.preview 50, "\""]]⟩
  else if e.namedCount ≠ a.namedCount then
    ⟨[visit],
      [.concat
        ["Child count mismatch at ", path, ": expected ", .ofInt e.namedCount, ", got ",
         .ofInt a.namedCount]]⟩
  else
    let slots := List.range e.namedCount.toNat
    let missing := slots.filter fun i => (e.child? i).isNone || (a.child? i).isNone
    let skips : List Text := missing.map fun i =>
      .concat ["    Skipping missing child ", .ofNat i, " of ", path]
    let below := Findings.concat (slots.map fun i =>
      match _h : e.child? i, a.child? i with
      | some x, some y => x.findings y (.concat [path, ".", x.kind, "[", .ofNat i, "]"])
      | _, _ => ⟨[], []⟩)
    ⟨visit :: skips ++ below.trace, below.reports⟩
termination_by sizeOf e
decreasing_by exact sizeOf_lt_of_child? _h

end Node

/-- The written form of a child's place is that of its parent's and one label. -/
theorem Location.render_child (l : Location) (kind : Text) (slot : Nat) :
    (l.child kind slot).render = .concat [l.render, ".", kind, "[", .ofNat slot, "]"] := by
  simp [Location.render, Location.child, Label.render, Text.concat]

namespace Pair

theorem flatMap_children {α : Type} (p : Pair) (f : Pair → List α) :
    p.children.flatMap f =
      (List.range p.expected.span).flatMap fun i => (p.child? i).toList.flatMap f := by
  rw [children, List.filterMap_eq_flatMap_toList, List.flatMap_assoc]

theorem child?_isNone (p : Pair) (i : Nat) :
    (p.child? i).isNone = ((p.expected.child? i).isNone || (p.actual.child? i).isNone) := by
  unfold child?
  cases p.expected.child? i <;> cases p.actual.child? i <;> rfl

/-- Where two nodes agree, a trace tells of the visit and of the slots that are
passed over, and goes on with the children. -/
theorem trace_of_agreement {p : Pair} (agree : p.difference? = none) :
    p.trace =
      (.concat ["  Visiting ", p.place.render, " (", p.expected.kind, ")"] : Text) ::
        (p.holes.map fun i =>
          (.concat ["    Skipping missing child ", .ofNat i, " of ", p.place.render] : Text)) ++
        p.children.flatMap trace := by
  have lines (slots : List Nat) :
      (slots.map (Event.skipping p.place)).filterMap Event.line? =
        slots.map fun i =>
          (.concat ["    Skipping missing child ", .ofNat i, " of ", p.place.render] : Text) := by
    simp only [List.filterMap_map, Function.comp_def, Event.line?, List.filterMap_eq_map']
  rw [p.trace_eq]
  simp only [report, below, agree, List.filterMap_cons, Event.line?, lines]

/-- The findings for the children in one slot, if each pair of children has the
findings of its comparison. -/
theorem findings_slot (p : Pair) (i : Nat)
    (ih : ∀ q, p.child? i = some q → q.expected.findings q.actual q.place.render =
      ⟨q.trace, q.differences.map Difference.render⟩) :
    (match _h : p.expected.child? i, p.actual.child? i with
      | some x, some y => x.findings y (.concat [p.place.render, ".", x.kind, "[", .ofNat i, "]"])
      | _, _ => ⟨[], []⟩) =
    (⟨(p.child? i).toList.flatMap trace,
      (p.child? i).toList.flatMap fun q => q.differences.map Difference.render⟩ : Findings) := by
  split
  · next x y hx hy =>
    have child : p.child? i = some ⟨x, y, p.place.child x.kind i⟩ := by
      simp [child?, hx, hy]
    rw [child, ← Location.render_child]
    simpa using ih _ child
  · next missing =>
    have child : p.child? i = none := by
      unfold child?
      split
      · next x y hx hy => exact (missing x y hx hy).elim
      · rfl
    rw [child]
    rfl

/-- The findings for two nodes are the trace of their comparison and the reports
of its differences, at whatever place the comparison starts. -/
theorem findings_eq (p : Pair) :
    p.expected.findings p.actual p.place.render =
      ⟨p.trace, p.differences.map Difference.render⟩ := by
  induction p using below_induction with
  | step p ih =>
    rw [Node.findings]
    by_cases kinds : p.expected.kind ≠ p.actual.kind
    · simp [kinds, trace_eq, differences_eq, difference?, report, below, Event.line?,
        Difference.render]
    by_cases texts : p.expected.text.dense ≠ p.actual.text.dense
    · simp [kinds, texts, trace_eq, differences_eq, difference?, report, below, Event.line?,
        Difference.render, Difference.previewLength]
    by_cases counts : p.expected.namedCount ≠ p.actual.namedCount
    · simp [kinds, texts, counts, trace_eq, differences_eq, difference?, report, below,
        Event.line?, Difference.render]
    have agree : p.difference? = none := by simp [difference?, kinds, texts, counts]
    have slot : ∀ i ∈ List.range p.expected.namedCount.toNat, _ := fun i member =>
      p.findings_slot i fun q child => ih q (by
        simp only [below, agree, children]
        exact List.mem_filterMap.mpr ⟨i, member, child⟩)
    rw [trace_of_agreement agree, differences_eq]
    simp only [kinds, texts, counts, ↓reduceIte, agree, Findings.concat, List.map_congr_left slot,
      List.flatMap_map, flatMap_children, holes, child?_isNone, Node.span, List.map_flatMap]

/-- Termination of the run, and its result: for all two nodes, whatever their
texts, counts and missing children, and every start text, some number of turns
leaves no pair pending; what the comparison prints is the trace of the plain
recursion, or nothing if no trace is asked for; and its reports are those of the
plain recursion, whether or not a trace is asked for. -/
theorem comparison_eq_findings (e a : Node) (origin : Text) (verbose : Bool) :
    let p : Pair := ⟨e, a, .root origin⟩
    (∃ turns, Progress.turn^[turns] ⟨[], [p]⟩ = ⟨p.events.reverse, []⟩) ∧
      p.output verbose = (if verbose then Text.printLines (e.findings a origin).trace else []) ∧
      p.differences.map Difference.render = (e.findings a origin).reports := by
  intro p
  have place : p.place.render = origin := by simp [p, Location.render, Location.root]
  have found : e.findings a origin = ⟨p.trace, p.differences.map Difference.render⟩ := by
    rw [← p.findings_eq, place]
  rw [found]
  exact ⟨Progress.turns_reach_end [] [p], rfl, rfl⟩

end Pair

end SyntaxParity
