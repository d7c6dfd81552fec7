import Mathlib.Data.List.Forall2
import SyntaxParity.Proofs.Decoding
import SyntaxParity.Proofs.Equivalence

/-!
What becomes of a comparison when the texts of the two trees are spaced in another
way. Blanks are taken out of all texts before these are compared, so every check
comes out as before: the same pairs are visited, the same slots are passed over and
the same differences are found. Only a difference of texts shows the texts as they
are.
-/

namespace SyntaxParity

/-- Trees that differ in nothing but the blanks of their texts. -/
inductive Node.Respaced : Node → Node → Prop where
  | intro {m n : Node} (agree : m.Agrees n)
    (filled : ∀ i, (m.child? i).isSome = (n.child? i).isSome)
    (below : ∀ i c d, m.child? i = some c → n.child? i = some d → Respaced c d) :
    Respaced m n

theorem Node.Respaced.agrees {m n : Node} (h : m.Respaced n) : m.Agrees n := by
  cases h with
  | intro agree => exact agree

theorem Node.Respaced.child? {m n : Node} (h : m.Respaced n) (i : Nat) :
    Option.Rel Respaced (m.child? i) (n.child? i) := by
  cases h with
  | intro agree filled below =>
    have slot := filled i
    cases left : m.child? i with
    | none =>
      rw [left, Option.isSome_none, eq_comm, Option.isSome_eq_false_iff] at slot
      rw [Option.isNone_iff_eq_none.mp slot]
      exact .none
    | some c =>
      rw [left, Option.isSome_some, eq_comm] at slot
      obtain ⟨d, right⟩ := Option.isSome_iff_exists.mp slot
      rw [right]
      exact .some (below i c d left right)

/-- Differences of the same kind at the same place, which differ in the blanks of the
texts that they show and in nothing else. -/
inductive Difference.Respaced : Difference → Difference → Prop where
  | kinds (place : Location) (k l : Text) : Respaced (.kinds place k l) (.kinds place k l)
  | texts (place : Location) (kind : Text) {x y x' y' : Text} (expected : x.dense = x'.dense)
    (actual : y.dense = y'.dense) : Respaced (.texts place kind x y) (.texts place kind x' y')
  | counts (place : Location) (m n : Int) : Respaced (.counts place m n) (.counts place m n)

def Difference.textsReport (place : Location) (kind shown shown' : Text) : Text :=
  .concat
    ["Node text mismatch at ", place.render, " (", kind, "):\n  Expected: \"", shown,
     "\"\n  Actual:   \"", shown', "\""]

/-- Reports that are the same but for the two previews in a report of texts. -/
inductive SameButPreviews : Text → Text → Prop where
  | same (report : Text) : SameButPreviews report report
  | previews (place : Location) (kind x y x' y' : Text) :
    SameButPreviews
      (Difference.textsReport place kind (x.preview 50) (y.preview 50))
      (Difference.textsReport place kind (x'.preview 50) (y'.preview 50))

theorem Difference.Respaced.render {d d' : Difference} (h : d.Respaced d') :
    SameButPreviews d.render d'.render := by
  cases h with
  | kinds place k l => exact .same _
  | texts place kind => exact .previews place kind _ _ _ _
  | counts place m n => exact .same _

inductive Event.Respaced : Event → Event → Prop where
  | visiting (place : Location) (kind : Text) :
    Respaced (.visiting place kind) (.visiting place kind)
  | skipping (place : Location) (slot : Nat) :
    Respaced (.skipping place slot) (.skipping place slot)
  | found {d d' : Difference} (differences : d.Respaced d') : Respaced (.found d) (.found d')

theorem Event.Respaced.line? {v w : Event} (h : v.Respaced w) :
    Option.Rel Eq v.line? w.line? := by
  cases h with
  | visiting | skipping => exact .some rfl
  | found => exact .none

theorem Event.Respaced.difference? {v w : Event} (h : v.Respaced w) :
    Option.Rel Difference.Respaced v.difference? w.difference? := by
  cases h with
  | visiting | skipping => exact .none
  | found differences => exact .some differences

namespace Pair

structure Respaced (p q : Pair) : Prop where
  expected : p.expected.Respaced q.expected
  actual : p.actual.Respaced q.actual
  place : p.place = q.place

variable {p q : Pair}

theorem Respaced.child? (h : p.Respaced q) (i : Nat) :
    Option.Rel Respaced (p.child? i) (q.child? i) := by
  have left := h.expected.child? i
  have right := h.actual.child? i
  unfold Pair.child?
  generalize p.expected.child? i = x, q.expected.child? i = x' at left
  generalize p.actual.child? i = y, q.actual.child? i = y' at right
  cases left with
  | none => exact .none
  | some expected =>
    cases right with
    | none => exact .none
    | some actual => exact .some ⟨expected, actual, by rw [h.place, expected.agrees.kind]⟩

theorem Respaced.difference? (h : p.Respaced q) :
    Option.Rel Difference.Respaced p.difference? q.difference? := by
  have expected := h.expected.agrees
  have actual := h.actual.agrees
  unfold Pair.difference?
  rw [h.place, expected.kind, actual.kind, expected.text, actual.text, expected.count,
    actual.count]
  split_ifs
  · exact .some (.kinds ..)
  · exact .some (.texts _ _ expected.text actual.text)
  · exact .some (.counts ..)
  · exact .none

theorem Respaced.slots (h : p.Respaced q) :
    List.Forall₂ Eq (List.range p.expected.span) (List.range q.expected.span) := by
  have span : p.expected.span = q.expected.span := congrArg Int.toNat h.expected.agrees.count
  rw [List.forall₂_eq_eq_eq, span]

theorem Respaced.children (h : p.Respaced q) : List.Forall₂ Respaced p.children q.children := by
  refine List.rel_filterMap ?_ h.slots
  rintro i _ rfl
  exact h.child? i

theorem Respaced.holes (h : p.Respaced q) : p.holes = q.holes := by
  have span : p.expected.span = q.expected.span := congrArg Int.toNat h.expected.agrees.count
  rw [Pair.holes, Pair.holes, span]
  congr 1
  funext i
  have slot := h.child? i
  generalize p.child? i = x, q.child? i = y at slot
  cases slot <;> rfl

theorem Respaced.report (h : p.Respaced q) :
    List.Forall₂ Event.Respaced p.report q.report := by
  have checks := h.difference?
  unfold Pair.report
  rw [h.place, h.expected.agrees.kind, h.holes]
  generalize p.difference? = x, q.difference? = y at checks
  refine .cons (.visiting ..) ?_
  cases checks with
  | none =>
    rw [List.forall₂_map_left_iff, List.forall₂_map_right_iff]
    exact List.forall₂_same.mpr fun slot _ => .skipping q.place slot
  | some differences => exact .cons (.found differences) .nil

theorem Respaced.below (h : p.Respaced q) : List.Forall₂ Respaced p.below q.below := by
  have checks := h.difference?
  unfold Pair.below
  generalize p.difference? = x, q.difference? = y at checks
  cases checks with
  | none => exact h.children
  | some differences => exact .nil

theorem Respaced.events (h : p.Respaced q) : List.Forall₂ Event.Respaced p.events q.events := by
  induction p using below_induction generalizing q with
  | step p ih =>
    have below := (List.forall₂_and_left _ _).mpr ⟨fun c member => member, h.below⟩
    rw [p.events_eq, q.events_eq]
    exact List.rel_append h.report (List.rel_flatMap below fun c d both => ih c both.1 both.2)

theorem Respaced.trace (h : p.Respaced q) : p.trace = q.trace := by
  have lines : List.Forall₂ Eq p.trace q.trace :=
    List.rel_filterMap (fun _ _ event => event.line?) h.events
  rwa [List.forall₂_eq_eq_eq] at lines

theorem Respaced.differences (h : p.Respaced q) :
    List.Forall₂ Difference.Respaced p.differences q.differences :=
  List.rel_filterMap (fun _ _ event => event.difference?) h.events

end Pair

/-- The comparison of two trees does not depend on how their texts are spaced. With
all texts spaced in another way it prints the same trace and finds as many
differences, one after the other of the same kind at the same place. Their reports
are the same but for the previews of texts that differ. -/
theorem comparison_ignores_spacing {e e' a a' : Node} (expected : e.Respaced e')
    (actual : a.Respaced a') (origin : Text) :
    let p : Pair := ⟨e, a, .root origin⟩
    let q : Pair := ⟨e', a', .root origin⟩
    (∀ verbose, p.output verbose = q.output verbose) ∧
      p.differences.length = q.differences.length ∧
      List.Forall₂ Difference.Respaced p.differences q.differences ∧
      List.Forall₂ SameButPreviews (p.differences.map Difference.render)
        (q.differences.map Difference.render) := by
  intro p q
  have respaced : p.Respaced q := ⟨expected, actual, rfl⟩
  have differences := respaced.differences
  refine ⟨?_, differences.length_eq, differences, ?_⟩
  · intro verbose
    rw [Pair.output, Pair.output, respaced.trace]
  · rw [List.forall₂_map_left_iff, List.forall₂_map_right_iff]
    exact differences.imp fun _ _ related => related.render

namespace Node

def call (written function : Text) : Node where
  kind := "call"
  content := .text written
  named := [none, some (whole "identifier" (function.flatMap Utf8.encodeOne) [])]
  namedCount := 2
  children := []
  childCount := 0
  start := ⟨0, 0⟩
  stop := ⟨0, 0⟩

theorem Respaced.whole {kind : Text} {x y : Text} (encodableX : x.Encodable)
    (encodableY : y.Encodable) (same : x.dense = y.dense) :
    (Node.whole kind (x.flatMap Utf8.encodeOne) []).Respaced
      (Node.whole kind (y.flatMap Utf8.encodeOne) []) := by
  have texts : (Utf8.decodeReplacing (x.flatMap Utf8.encodeOne)).dense =
      (Utf8.decodeReplacing (y.flatMap Utf8.encodeOne)).dense := by
    rw [Utf8.decodeReplacing_encode encodableX, Utf8.decodeReplacing_encode encodableY, same]
  refine ⟨⟨rfl, texts, rfl⟩, fun i => ?_, fun i c d child => ?_⟩
  · rw [child?_whole, child?_whole]
  · rw [child?_whole] at child
    cases child

theorem Respaced.call {x y f g : Text} (encodableF : f.Encodable) (encodableG : g.Encodable)
    (texts : x.dense = y.dense) (functions : f.dense = g.dense) :
    (Node.call x f).Respaced (Node.call y g) := by
  have function : (Node.whole "identifier" (f.flatMap Utf8.encodeOne) []).Respaced
      (Node.whole "identifier" (g.flatMap Utf8.encodeOne) []) :=
    .whole encodableF encodableG functions
  refine ⟨⟨rfl, texts, rfl⟩, fun i => ?_, fun i c d left right => ?_⟩
  · match i with
    | 0 | 1 | _ + 2 => rfl
  · match i with
    | 0 | _ + 2 => cases left
    | 1 =>
      obtain rfl := Option.some.inj left
      obtain rfl := Option.some.inj right
      exact function

end Node

/-- Two calls of different functions, each spaced in two ways. -/
theorem comparison_ignores_spacing_calls :
    (Node.call "f( x )" " f").Respaced (Node.call "f (x)" "f\n") ∧
      (Node.call "f(x)" "g").Respaced (Node.call "f( x)" "g\t") ∧
      List.Forall₂ Difference.Respaced
        (Pair.mk (Node.call "f( x )" " f") (Node.call "f(x)" "g") (.root "root")).differences
        (Pair.mk (Node.call "f (x)" "f\n") (Node.call "f( x)" "g\t")
          (.root "root")).differences := by
  have expected : (Node.call "f( x )" " f").Respaced (Node.call "f (x)" "f\n") :=
    .call (by decide) (by decide) (by decide) (by decide)
  have actual : (Node.call "f(x)" "g").Respaced (Node.call "f( x)" "g\t") :=
    .call (by decide) (by decide) (by decide) (by decide)
  obtain ⟨-, -, differences, -⟩ := comparison_ignores_spacing expected actual "root"
  exact ⟨expected, actual, differences⟩

end SyntaxParity
