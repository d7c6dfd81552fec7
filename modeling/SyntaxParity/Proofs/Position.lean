import SyntaxParity.Proofs.Traversal

/-!
Where a comparison looks, said without running it. A position is the sequence
of slots that leads to it from the top. A comparison visits the positions that
can be reached jointly: a child on both sides at each step, and agreement at
every pair that is left behind. It visits them in the order of their positions,
and so reports its differences in that order.
-/

namespace SyntaxParity

def Location.slots (l : Location) : List Nat :=
  l.labels.reverse.map Label.slot

theorem Location.slots_child (l : Location) (kind : Text) (slot : Nat) :
    (l.child kind slot).slots = l.slots ++ [slot] := by
  simp [slots, child]

namespace Node

def descend : Node → List Nat → Option Node
  | n, [] => some n
  | n, i :: q => (n.child? i).bind fun c => c.descend q

/-- The place that a sequence of slots leads to, with the kinds of the nodes on
the way as labels. -/
def placeOf (start : Location) : Node → List Nat → Location
  | _, [] => start
  | n, i :: q =>
    match n.child? i with
    | some c => c.placeOf (start.child c.kind i) q
    | none => start

/-- Agreement of two nodes in the three checks of a comparison. -/
structure Agrees (e a : Node) : Prop where
  kind : e.kind = a.kind
  text : e.text.dense = a.text.dense
  count : e.namedCount = a.namedCount

/-- The position `q` can be reached jointly in two trees, where it holds `x` and
`y`: on the way down, each pair of nodes agrees and each slot that is taken lies
below the reported count. -/
structure Reaches (e a : Node) (q : List Nat) (x y : Node) : Prop where
  expected : e.descend q = some x
  actual : a.descend q = some y
  above : ∀ (r : List Nat) (i : Nat), r ++ [i] <+: q →
    ∀ u v, e.descend r = some u → a.descend r = some v → u.Agrees v ∧ (i : Int) < u.namedCount

/-- The difference of two nodes at a place that the first failing check makes. -/
inductive FirstFailing (x y : Node) (place : Location) : Difference → Prop where
  | kinds (kinds : x.kind ≠ y.kind) : FirstFailing x y place (.kinds place x.kind y.kind)
  | texts (kinds : x.kind = y.kind) (texts : x.text.dense ≠ y.text.dense) :
    FirstFailing x y place (.texts place x.kind x.text y.text)
  | counts (kinds : x.kind = y.kind) (texts : x.text.dense = y.text.dense)
    (counts : x.namedCount ≠ y.namedCount) :
    FirstFailing x y place (.counts place x.namedCount y.namedCount)

theorem FirstFailing.place_eq {x y : Node} {place : Location} {d : Difference}
    (h : FirstFailing x y place d) : d.place = place := by
  cases h <;> rfl

theorem FirstFailing.not_agrees {x y : Node} {place : Location} {d : Difference}
    (h : FirstFailing x y place d) : ¬ x.Agrees y := by
  intro agree
  cases h with
  | kinds kinds => exact kinds agree.kind
  | texts _ texts => exact texts agree.text
  | counts _ _ counts => exact counts agree.count

theorem reaches_nil {e a x y : Node} : e.Reaches a [] x y ↔ x = e ∧ y = a := by
  constructor
  · intro h
    exact ⟨(Option.some.inj h.expected).symm, (Option.some.inj h.actual).symm⟩
  · rintro ⟨rfl, rfl⟩
    refine ⟨rfl, rfl, ?_⟩
    intro r i before
    simp at before

/-- A position below the top is reached through an agreeing pair and a child on
both sides. -/
theorem reaches_cons {e a x y : Node} {i : Nat} {q : List Nat} :
    e.Reaches a (i :: q) x y ↔
      e.Agrees a ∧ (i : Int) < e.namedCount ∧
        ∃ e' a', e.child? i = some e' ∧ a.child? i = some a' ∧ e'.Reaches a' q x y := by
  constructor
  · intro h
    obtain ⟨e', he, hx⟩ := Option.bind_eq_some_iff.mp h.expected
    obtain ⟨a', ha, hy⟩ := Option.bind_eq_some_iff.mp h.actual
    obtain ⟨agree, bound⟩ := h.above [] i (by simp) e a rfl rfl
    refine ⟨agree, bound, e', a', he, ha, hx, hy, ?_⟩
    intro r j before u v hu hv
    exact h.above (i :: r) j (by simpa using before) u v (by simp [descend, he, hu])
      (by simp [descend, ha, hv])
  · rintro ⟨agree, bound, e', a', he, ha, h⟩
    refine ⟨by simp [descend, he, h.expected], by simp [descend, ha, h.actual], ?_⟩
    intro r j before u v hu hv
    cases r with
    | nil =>
      obtain rfl : j = i := by simpa using before
      obtain rfl := Option.some.inj hu
      obtain rfl := Option.some.inj hv
      exact ⟨agree, bound⟩
    | cons k r =>
      obtain ⟨rfl, further⟩ : k = i ∧ r ++ [j] <+: q := by simpa using before
      exact h.above r j further u v (by simpa [descend, he] using hu)
        (by simpa [descend, ha] using hv)

/-- No position below a reachable one can be reached unless the pair there
agrees. -/
theorem Reaches.agrees_of_prefix {e a x y u v : Node} {q r : List Nat}
    (below : e.Reaches a q x y) (above : e.Reaches a r u v) (before : r <+: q) (ne : r ≠ q) :
    u.Agrees v := by
  obtain ⟨rest, rfl⟩ := before
  cases rest with
  | nil => simp at ne
  | cons i rest =>
    exact (below.above r i (by simp) u v above.expected above.actual).1

theorem slots_placeOf {n x : Node} {q : List Nat} (start : Location)
    (h : n.descend q = some x) : (n.placeOf start q).slots = start.slots ++ q := by
  induction q generalizing n start with
  | nil => simp [placeOf]
  | cons i q ih =>
    obtain ⟨c, hc, hx⟩ := Option.bind_eq_some_iff.mp h
    rw [placeOf, hc]
    simp only [ih _ hx, Location.slots_child, List.append_assoc, List.singleton_append]

end Node

namespace Pair

theorem difference?_eq_some_iff {p : Pair} {d : Difference} :
    p.difference? = some d ↔ Node.FirstFailing p.expected p.actual p.place d := by
  unfold difference?
  constructor
  · intro h
    split at h
    · next kinds =>
      obtain rfl := Option.some.inj h
      exact .kinds kinds
    split at h
    · next kinds texts =>
      obtain rfl := Option.some.inj h
      exact .texts (Decidable.not_not.mp kinds) texts
    split at h
    · next kinds texts counts =>
      obtain rfl := Option.some.inj h
      exact .counts (Decidable.not_not.mp kinds) (Decidable.not_not.mp texts) counts
    · cases h
  · intro h
    cases h with
    | kinds kinds => simp [kinds]
    | texts kinds texts => simp [kinds, texts]
    | counts kinds texts counts => simp [kinds, texts, counts]

theorem difference?_eq_none_iff {p : Pair} :
    p.difference? = none ↔ p.expected.Agrees p.actual := by
  constructor
  · intro h
    unfold difference? at h
    split at h
    · cases h
    split at h
    · cases h
    split at h
    · cases h
    · next kinds texts counts =>
      exact ⟨Decidable.not_not.mp kinds, Decidable.not_not.mp texts, Decidable.not_not.mp counts⟩
  · intro agree
    simp [difference?, agree.kind, agree.text, agree.count]

/-- The pairs right below a pair are those of its slots, if the pair agrees. -/
theorem mem_below_iff {p q : Pair} :
    q ∈ p.below ↔ p.expected.Agrees p.actual ∧
      ∃ i : Nat, (i : Int) < p.expected.namedCount ∧ p.child? i = some q := by
  rw [← difference?_eq_none_iff]
  unfold below
  cases p.difference? with
  | some d => simp
  | none =>
    simp only [children, List.mem_filterMap, List.mem_range, Node.span, true_and, Int.lt_toNat]

theorem child?_eq_some_iff {p q : Pair} {i : Nat} :
    p.child? i = some q ↔
      ∃ e a, p.expected.child? i = some e ∧ p.actual.child? i = some a ∧
        q = ⟨e, a, p.place.child e.kind i⟩ := by
  unfold child?
  constructor
  · intro h
    split at h
    · next e a he ha => exact ⟨e, a, he, ha, (Option.some.inj h).symm⟩
    · cases h
  · rintro ⟨e, a, he, ha, rfl⟩
    simp [he, ha]

/-- A comparison visits the jointly reachable positions and no others, each at
the place that it leads to. -/
theorem mem_visited_iff {p r : Pair} :
    r ∈ p.visited ↔ ∃ q, p.expected.Reaches p.actual q r.expected r.actual ∧
      r.place = p.expected.placeOf p.place q := by
  induction p using below_induction with
  | step p ih =>
    rw [p.visited_eq, List.mem_cons, List.mem_flatMap]
    constructor
    · rintro (rfl | ⟨c, member, visit⟩)
      · exact ⟨[], Node.reaches_nil.mpr ⟨rfl, rfl⟩, rfl⟩
      · obtain ⟨q, reach, place⟩ := (ih c member).mp visit
        obtain ⟨agree, i, bound, child⟩ := mem_below_iff.mp member
        obtain ⟨e, a, he, ha, rfl⟩ := child?_eq_some_iff.mp child
        refine ⟨i :: q, Node.reaches_cons.mpr ⟨agree, bound, e, a, he, ha, reach⟩, ?_⟩
        rw [place, Node.placeOf, he]
    · rintro ⟨q, reach, place⟩
      cases q with
      | nil =>
        rcases r with ⟨e, a, l⟩
        obtain ⟨rfl, rfl⟩ : e = p.expected ∧ a = p.actual := Node.reaches_nil.mp reach
        obtain rfl : l = p.place := place
        exact .inl rfl
      | cons i q =>
        obtain ⟨agree, bound, e, a, he, ha, further⟩ := Node.reaches_cons.mp reach
        have child := child?_eq_some_iff.mpr ⟨e, a, he, ha, rfl⟩
        have member := mem_below_iff.mpr ⟨agree, i, bound, child⟩
        rw [Node.placeOf, he] at place
        exact .inr ⟨_, member, (ih _ member).mpr ⟨q, further, place⟩⟩

/-- The pairs right below a pair stand in the order of their slots. -/
theorem below_increasing (p : Pair) :
    p.below.Pairwise fun c d => ∃ i j, i < j ∧ p.child? i = some c ∧ p.child? j = some d := by
  unfold below
  cases p.difference? with
  | some d => exact .nil
  | none =>
    rw [children, List.pairwise_filterMap]
    apply List.pairwise_lt_range.imp
    intro i j before c hc d hd
    exact ⟨i, j, before, hc, hd⟩

/-- What a comparison visits lies below the place where it starts. -/
theorem slots_prefix_of_mem_visited {p r : Pair} (h : r ∈ p.visited) :
    p.place.slots <+: r.place.slots := by
  obtain ⟨q, reach, place⟩ := mem_visited_iff.mp h
  rw [place, Node.slots_placeOf _ reach.expected]
  exact List.prefix_append _ _

/-- The visits stand in the lexicographic order of their positions: a pair comes
before all that lies below it, and all that lies below one child before all that
lies below a later one. -/
theorem visited_increasing (p : Pair) :
    p.visited.Pairwise fun r s => r.place.slots < s.place.slots := by
  induction p using below_induction with
  | step p ih =>
    -- what lies below the child in slot `i` has a position that goes on with `i`
    have further {i : Nat} {c r : Pair} (child : p.child? i = some c) (visit : r ∈ c.visited) :
        ∃ q, r.place.slots = p.place.slots ++ i :: q := by
      obtain ⟨e, a, -, -, rfl⟩ := child?_eq_some_iff.mp child
      obtain ⟨q, rest⟩ := slots_prefix_of_mem_visited visit
      refine ⟨q, ?_⟩
      rw [← rest, Location.slots_child, List.append_assoc, List.singleton_append]
    rw [p.visited_eq, List.pairwise_cons]
    constructor
    · intro r member
      obtain ⟨c, below, visit⟩ := List.mem_flatMap.mp member
      obtain ⟨-, i, -, child⟩ := mem_below_iff.mp below
      obtain ⟨q, slots⟩ := further child visit
      calc
        p.place.slots = p.place.slots ++ [] := (List.append_nil _).symm
        _ < p.place.slots ++ i :: q := List.append_left_lt (List.nil_lt_cons i q)
        _ = r.place.slots := slots.symm
    · rw [List.pairwise_flatMap]
      refine ⟨ih, p.below_increasing.imp ?_⟩
      rintro c d ⟨i, j, before, hc, hd⟩ r visitR s visitS
      obtain ⟨q, slotsR⟩ := further hc visitR
      obtain ⟨q', slotsS⟩ := further hd visitS
      rw [slotsR, slotsS]
      exact List.append_left_lt (List.cons_lt_cons_iff.mpr (.inl before))

/-- The differences of a comparison are the first failing checks at jointly
reachable positions. -/
theorem mem_differences_iff {p : Pair} {d : Difference} :
    d ∈ p.differences ↔ ∃ q x y, p.expected.Reaches p.actual q x y ∧
      Node.FirstFailing x y (p.expected.placeOf p.place q) d := by
  rw [differences_eq_visited, List.mem_filterMap]
  constructor
  · rintro ⟨r, visit, failing⟩
    obtain ⟨q, reach, place⟩ := mem_visited_iff.mp visit
    exact ⟨q, r.expected, r.actual, reach, place ▸ difference?_eq_some_iff.mp failing⟩
  · rintro ⟨q, x, y, reach, failing⟩
    exact ⟨⟨x, y, p.expected.placeOf p.place q⟩, mem_visited_iff.mpr ⟨q, reach, rfl⟩,
      difference?_eq_some_iff.mpr failing⟩

theorem differences_increasing (p : Pair) :
    p.differences.Pairwise fun d d' => d.place.slots < d'.place.slots := by
  rw [differences_eq_visited, List.pairwise_filterMap]
  apply p.visited_increasing.imp
  intro r s before d hd d' hd'
  rw [(difference?_eq_some_iff.mp hd).place_eq, (difference?_eq_some_iff.mp hd').place_eq]
  exact before

theorem exists_firstFailing {x y : Node} (h : ¬ x.Agrees y) (place : Location) :
    ∃ d, Node.FirstFailing x y place d := by
  cases found : (Pair.mk x y place).difference? with
  | none => exact (h (difference?_eq_none_iff.mp found)).elim
  | some d => exact ⟨d, difference?_eq_some_iff.mp found⟩

end Pair

section Top

variable {e a x y : Node} {origin : Text} {d d' : Difference}

/-- Counted from the top, the place of a difference has the position where its
nodes are reached. -/
theorem slots_of_firstFailing {q : List Nat} (reach : e.Reaches a q x y)
    (failing : Node.FirstFailing x y (e.placeOf (.root origin) q) d) : d.place.slots = q := by
  rw [failing.place_eq, Node.slots_placeOf _ reach.expected]
  rfl

/-- Each jointly reachable pair that disagrees is reported. -/
theorem reported_of_disagreement {q : List Nat} (reach : e.Reaches a q x y)
    (differ : ¬ x.Agrees y) (origin : Text) :
    ∃ d ∈ (Pair.mk e a (.root origin)).differences,
      Node.FirstFailing x y (e.placeOf (.root origin) q) d := by
  obtain ⟨d, failing⟩ := Pair.exists_firstFailing differ (e.placeOf (.root origin) q)
  exact ⟨d, Pair.mem_differences_iff.mpr ⟨q, x, y, reach, failing⟩, failing⟩

/-- Whatever is reported is a disagreement at a jointly reachable position. -/
theorem disagreement_of_reported (reported : d ∈ (Pair.mk e a (.root origin)).differences) :
    ∃ x y, e.Reaches a d.place.slots x y ∧ ¬ x.Agrees y := by
  obtain ⟨q, x, y, reach, failing⟩ := Pair.mem_differences_iff.mp reported
  exact ⟨x, y, (slots_of_firstFailing reach failing).symm ▸ reach, failing.not_agrees⟩

/-- Nothing is reported below a difference, since no position there is
reachable. -/
theorem not_prefix_of_reported (reported : d ∈ (Pair.mk e a (.root origin)).differences)
    (reported' : d' ∈ (Pair.mk e a (.root origin)).differences)
    (less : d.place.slots < d'.place.slots ∨ d'.place.slots < d.place.slots) :
    ¬ d.place.slots <+: d'.place.slots := by
  intro before
  have ne : d.place.slots ≠ d'.place.slots := by
    intro same
    rw [same, or_self] at less
    exact List.lt_irrefl _ less
  obtain ⟨u, v, above, differ⟩ := disagreement_of_reported reported
  obtain ⟨x, y, below, -⟩ := disagreement_of_reported reported'
  exact differ (below.agrees_of_prefix above before ne)

end Top

/-- In a list whose members increase under a key, a key is met once at most. -/
theorem filter_key_eq_singleton {α κ : Type} [DecidableEq κ] [LT κ]
    (irrefl : ∀ k : κ, ¬ k < k) (key : α → κ) {items : List α} {item : α}
    (increasing : items.Pairwise fun x y => key x < key y) (member : item ∈ items) :
    items.filter (fun x => key x = key item) = [item] := by
  induction items with
  | nil => cases member
  | cons first rest ih =>
    obtain ⟨before, increasing⟩ := List.pairwise_cons.mp increasing
    rcases List.mem_cons.mp member with rfl | member
    · have others : rest.filter (fun x => key x = key item) = [] := by
        rw [List.filter_eq_nil_iff]
        intro x hx same
        have less := before x hx
        rw [of_decide_eq_true same] at less
        exact irrefl _ less
      simp [others]
    · have differ : key first ≠ key item := by
        intro same
        have less := before item member
        rw [same] at less
        exact irrefl _ less
      simp [differ, ih increasing member]

/-- Soundness and completeness of the reported positions. Every jointly
reachable position whose pair disagrees has one difference, that of its first
failing check, and no other position has any. The differences stand in the
lexicographic order of their positions, no position of one is a beginning of
another's, and there is none if and only if all jointly reachable pairs agree. -/
theorem differences_locate_disagreements (e a : Node) (origin : Text) :
    let found := (Pair.mk e a (.root origin)).differences
    (∀ q x y, e.Reaches a q x y → ¬ x.Agrees y →
      ∃ d, found.filter (fun d => d.place.slots = q) = [d] ∧
        Node.FirstFailing x y (e.placeOf (.root origin) q) d) ∧
    (∀ d ∈ found, ∃ x y, e.Reaches a d.place.slots x y ∧ ¬ x.Agrees y) ∧
    found.Pairwise (fun d d' => d.place.slots < d'.place.slots) ∧
    found.Pairwise (fun d d' =>
      ¬ d.place.slots <+: d'.place.slots ∧ ¬ d'.place.slots <+: d.place.slots) ∧
    (found = [] ↔ ∀ q x y, e.Reaches a q x y → x.Agrees y) := by
  intro found
  have increasing : found.Pairwise fun d d' => d.place.slots < d'.place.slots :=
    Pair.differences_increasing _
  refine ⟨?_, fun d reported => disagreement_of_reported reported, increasing, ?_, ?_⟩
  · intro q x y reach differ
    obtain ⟨d, reported, failing⟩ := reported_of_disagreement reach differ origin
    have once := filter_key_eq_singleton List.lt_irrefl (fun d => d.place.slots) increasing reported
    rw [slots_of_firstFailing reach failing] at once
    exact ⟨d, once, failing⟩
  · apply increasing.imp_of_mem
    intro d d' reported reported' less
    exact ⟨not_prefix_of_reported reported reported' (.inl less),
      not_prefix_of_reported reported' reported (.inr less)⟩
  · constructor
    · intro none q x y reach
      by_contra differ
      obtain ⟨d, reported, -⟩ := reported_of_disagreement reach differ origin
      rw [show (Pair.mk e a (.root origin)).differences = [] from none] at reported
      cases reported
    · intro agree
      apply List.eq_nil_iff_forall_not_mem.mpr
      intro d reported
      obtain ⟨x, y, reach, differ⟩ := disagreement_of_reported reported
      exact differ (agree _ x y reach)

end SyntaxParity
