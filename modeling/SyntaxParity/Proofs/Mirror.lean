import Mathlib.Data.List.Forall2
import SyntaxParity.Proofs.ComparisonAnswer
import SyntaxParity.Proofs.Equivalence

namespace SyntaxParity

/-- The places of two nodes in the same slot, each labelled with the kind of its
own node: the start of a comparison, or a place right below one that is shared. -/
inductive Location.Faces (k l : Text) : Location → Location → Prop where
  | top (origin : Text) : Faces k l (.root origin) (.root origin)
  | below (parent : Location) (slot : Nat) :
    Faces k l (parent.child k slot) (parent.child l slot)

theorem Location.Faces.eq {k : Text} {here there : Location}
    (h : Location.Faces k k here there) : here = there := by
  cases h with
  | top origin => rfl
  | below parent slot => rfl

/-- A difference and its image when the trees change sides. -/
inductive Difference.Mirrors : Difference → Difference → Prop where
  | kinds {here there : Location} {k l : Text} (places : Location.Faces k l here there) :
    Mirrors (.kinds here k l) (.kinds there l k)
  | texts (place : Location) (kind x y : Text) :
    Mirrors (.texts place kind x y) (.texts place kind y x)
  | counts (place : Location) (m n : Int) :
    Mirrors (.counts place m n) (.counts place n m)

theorem Node.FirstFailing.mirror {x y : Node} {here there : Location} {d : Difference}
    (places : Location.Faces x.kind y.kind here there) (h : FirstFailing x y here d) :
    ∃ d', FirstFailing y x there d' ∧ d.Mirrors d' := by
  cases h with
  | kinds kinds => exact ⟨_, .kinds kinds.symm, .kinds places⟩
  | texts kinds texts =>
    rw [kinds] at places
    obtain rfl := places.eq
    refine ⟨_, .texts kinds.symm texts.symm, ?_⟩
    rw [kinds]
    exact .texts here y.kind x.text y.text
  | counts kinds texts counts =>
    rw [kinds] at places
    obtain rfl := places.eq
    exact ⟨_, .counts kinds.symm texts.symm counts.symm, .counts here x.namedCount y.namedCount⟩

namespace Pair

inductive Faces : Pair → Pair → Prop where
  | intro {e a : Node} {here there : Location} (places : Location.Faces e.kind a.kind here there) :
    Faces ⟨e, a, here⟩ ⟨a, e, there⟩

theorem faces_child? (e a : Node) (place : Location) (i : Nat) :
    Option.Rel Faces ((Pair.mk e a place).child? i) ((Pair.mk a e place).child? i) := by
  simp only [child?]
  cases e.child? i with
  | none =>
    cases a.child? i with
    | none => exact .none
    | some y => exact .none
  | some x =>
    cases a.child? i with
    | none => exact .none
    | some y => exact .some (.intro (.below place i))

theorem faces_children {e a : Node} (counts : e.namedCount = a.namedCount) (place : Location) :
    List.Forall₂ Faces (Pair.mk e a place).children (Pair.mk a e place).children := by
  have span : e.span = a.span := congrArg Int.toNat counts
  have slots : List.Forall₂ Eq (List.range e.span) (List.range a.span) := by
    rw [List.forall₂_eq_eq_eq, span]
  refine List.rel_filterMap ?_ slots
  rintro i _ rfl
  exact faces_child? e a place i

theorem Faces.differences {p q : Pair} (h : p.Faces q) :
    List.Forall₂ Difference.Mirrors p.differences q.differences := by
  induction p using below_induction generalizing q with
  | step p ih =>
    cases h with
    | @intro e a here there places =>
      rw [differences_eq, differences_eq]
      cases found : (Pair.mk e a here).difference? with
      | some d =>
        obtain ⟨d', failing, mirrors⟩ := (difference?_eq_some_iff.mp found).mirror places
        have found' : (Pair.mk a e there).difference? = some d' :=
          difference?_eq_some_iff.mpr failing
        rw [found']
        exact .cons mirrors .nil
      | none =>
        have agree : e.Agrees a := difference?_eq_none_iff.mp found
        have found' : (Pair.mk a e there).difference? = none :=
          difference?_eq_none_iff.mpr agree.symm
        -- nodes that agree have one kind, so the labels of the two places agree as well
        rw [agree.kind] at places
        obtain rfl := places.eq
        rw [found']
        have below : (Pair.mk e a here).below = (Pair.mk e a here).children := by
          rw [Pair.below, found]
        rw [below] at ih
        have children := (List.forall₂_and_left _ _).mpr
          ⟨fun c member => member, faces_children agree.count here⟩
        exact List.rel_flatMap children fun c d h => ih c h.1 h.2

end Pair

theorem Verdict.isEqual_eq_decide (v : Verdict) :
    v.isEqual = decide (v.differences.length = 0) := by
  cases v with
  | mk differences => cases differences <;> rfl

theorem Text.length_compareWords_comm (x y : Text) :
    (x.compareWords y).length = (y.compareWords x).length := by
  unfold compareWords
  by_cases same : x.collapse = y.collapse
  · rw [if_pos same, if_pos same.symm]
  · rw [if_neg same, if_neg (Ne.symm same)]

namespace Session

theorem length_judged_comm (env : Environment) (language : Language) (id x y : Text) :
    (judged env language id x y).verdict.differences.length =
      (judged env language id y x).verdict.differences.length := by
  unfold judged
  cases parseIn env language id x with
  | error cause =>
    cases parseIn env language id y with
    | error cause' => exact x.length_compareWords_comm y
    | ok a => exact x.length_compareWords_comm y
  | ok e =>
    cases parseIn env language id y with
    | error cause' => exact x.length_compareWords_comm y
    | ok a =>
      have mirrors : List.Forall₂ Difference.Mirrors _ _ :=
        Pair.Faces.differences (.intro (e := e) (a := a) (.top rootName))
      simp only [Outcome.verdict, List.length_map]
      exact mirrors.length_eq

theorem length_compareTexts_comm (env : Environment) (s : Session) (x y id : Text) :
    (s.compareTexts env x y id).1.map (fun o => o.verdict.differences.length) =
      (s.compareTexts env y x id).1.map fun o => o.verdict.differences.length := by
  rw [compareTexts_eq, compareTexts_eq]
  cases (s.resolve env id).1 with
  | error cause => exact congrArg Except.ok (x.length_compareWords_comm y)
  | ok language =>
    rw [compared, compared]
    cases accepts : env.accept language.grammar with
    | error refusal => rw [underParser_of_refuses accepts, underParser_of_refuses accepts]
    | ok _ =>
      rw [underParser_of_accepts accepts, underParser_of_accepts accepts]
      exact congrArg Except.ok (length_judged_comm env language id x y)

end Session

/-- The mirror law. Two trees that change sides have the same number of
differences, and those that stand at the same place of the two lists are images
of each other: of the same kind, with what is expected and what is found
exchanged, at one place but for the last label of a difference of kinds. So
neither the verdict on two texts nor the number of their differences depends on
which of them is the expected one. -/
theorem differences_mirror (e a : Node) (origin : Text) :
    List.Forall₂ Difference.Mirrors (Pair.mk e a (.root origin)).differences
      (Pair.mk a e (.root origin)).differences ∧
    (Pair.mk e a (.root origin)).differences.length =
      (Pair.mk a e (.root origin)).differences.length ∧
    ∀ (env : Environment) (s : Session) (x y id : Text) (verbose : Bool),
      (s.compare env (.text x) (.text y) (.text id) verbose).1.map
          (fun report => (report.verdict.isEqual, report.verdict.differences.length)) =
        (s.compare env (.text y) (.text x) (.text id) verbose).1.map
          fun report => (report.verdict.isEqual, report.verdict.differences.length) := by
  have mirrors : List.Forall₂ Difference.Mirrors (Pair.mk e a (.root origin)).differences
      (Pair.mk a e (.root origin)).differences :=
    Pair.Faces.differences (.intro (.top origin))
  refine ⟨mirrors, mirrors.length_eq, ?_⟩
  intro env s x y id verbose
  by_cases solid : ∃ c ∈ id, c.isBlank = false
  · -- what is kept of a report depends on the number of differences alone
    have counted (r : Except Failure Outcome) :
        (r.map (Session.reportOf id verbose)).map
            (fun report => (report.verdict.isEqual, report.verdict.differences.length)) =
          (r.map fun o => o.verdict.differences.length).map fun n => (decide (n = 0), n) := by
      cases r with
      | error f => rfl
      | ok o => simp only [Except.map, Session.reportOf, Verdict.isEqual_eq_decide]
    rw [Session.compare_of_texts solid, Session.compare_of_texts solid, counted, counted,
      Session.length_compareTexts_comm]
  · have blank : id.trim = [] := not_not.mp (mt Text.trim_ne_nil_iff.mp solid)
    rw [Session.compare, Session.compare, Session.checkArguments_texts,
      Session.checkArguments_texts, if_pos blank, if_pos blank]

end SyntaxParity
