import Mathlib.Data.Sum.Basic
import SyntaxParity.Module
import SyntaxParity.Proofs.Position
import SyntaxParity.Proofs.Resolution

/-!
The verdict on two texts is an equivalence of texts. Two trees without a
difference are alike, node by node, and likeness is transitive across a tree
that has a child in each slot it counts. Texts without a tree are equal if they
have the same words. The two kinds never meet: a text with a tree has no
surrogates, one that lacks a tree beside it has, and surrogates are kept when
blanks are collapsed.
-/

namespace SyntaxParity

namespace Node

/-- Likeness of two trees: the nodes agree, and so do those in each counted slot
that both sides fill. -/
inductive Alike : Node → Node → Prop where
  | intro {e a : Node} (agree : e.Agrees a)
    (below : ∀ (i : Nat) (c d : Node), (i : Int) < e.namedCount →
      e.child? i = some c → a.child? i = some d → Alike c d) :
    Alike e a

/-- A tree that backs its counts: each node has a child in each slot below the
count it reports, and so do these children. -/
inductive Backed : Node → Prop where
  | intro {n : Node} (slots : ∀ i : Nat, (i : Int) < n.namedCount → ∃ c, n.child? i = some c)
    (below : ∀ (i : Nat) (c : Node), (i : Int) < n.namedCount → n.child? i = some c → Backed c) :
    Backed n

def whole (kind : Text) (bytes : Bytes) (children : List Node) : Node where
  kind
  content := .bytes bytes
  named := children.map some
  namedCount := children.length
  children := children.map some
  childCount := children.length
  start := ⟨0, 0⟩
  stop := ⟨0, bytes.length⟩

theorem child?_whole (kind : Text) (bytes : Bytes) (children : List Node) (i : Nat) :
    (whole kind bytes children).child? i = children[i]? := by
  simp only [child?, whole, List.getElem?_map]
  cases children[i]? <;> rfl

theorem Backed.whole {kind : Text} {bytes : Bytes} {children : List Node}
    (below : ∀ c ∈ children, c.Backed) : (Node.whole kind bytes children).Backed := by
  constructor
  · intro i bound
    have inside : i < children.length := by simpa [Node.whole] using bound
    exact ⟨children[i], by rw [child?_whole, List.getElem?_eq_getElem inside]⟩
  · intro i c _ child
    rw [child?_whole] at child
    exact below c (List.mem_of_getElem? child)

theorem Agrees.symm {e a : Node} (h : e.Agrees a) : a.Agrees e :=
  ⟨h.kind.symm, h.text.symm, h.count.symm⟩

theorem Agrees.trans {x y z : Node} (h : x.Agrees y) (h' : y.Agrees z) : x.Agrees z :=
  ⟨h.kind.trans h'.kind, h.text.trans h'.text, h.count.trans h'.count⟩

theorem Alike.refl (n : Node) : n.Alike n := by
  induction n using child_induction with
  | step n ih =>
    refine ⟨⟨rfl, rfl, rfl⟩, ?_⟩
    intro i c d _ hc hd
    obtain rfl : c = d := Option.some.inj (hc.symm.trans hd)
    exact ih i c hc

theorem Alike.symm {e a : Node} (h : e.Alike a) : a.Alike e := by
  induction h with
  | intro agree _ ih =>
    refine ⟨agree.symm, ?_⟩
    intro i d c bound hd hc
    exact ih i c d (agree.count ▸ bound) hc hd

/-- Likeness goes on across a tree that backs its counts, which has a child
wherever the other two have one that counts. -/
theorem Alike.trans {x y z : Node} (h : x.Alike y) (h' : y.Alike z) (backed : y.Backed) :
    x.Alike z := by
  induction h generalizing z with
  | @intro x y agree _ ih =>
    obtain ⟨agree', below'⟩ := h'
    obtain ⟨slots, backedBelow⟩ := backed
    refine ⟨agree.trans agree', ?_⟩
    intro i c d bound hc hd
    have bound' : (i : Int) < y.namedCount := agree.count ▸ bound
    obtain ⟨m, hm⟩ := slots i bound'
    exact ih i c m bound hc hm (below' i m d bound' hm hd) (backedBelow i m bound' hm)

end Node

/-- A comparison finds no difference if and only if the trees are alike. -/
theorem Pair.differences_eq_nil_iff {p : Pair} :
    p.differences = [] ↔ p.expected.Alike p.actual := by
  induction p using below_induction with
  | step p ih =>
    constructor
    · intro none
      rw [differences_eq] at none
      cases found : p.difference? with
      | some d =>
        rw [found] at none
        cases none
      | none =>
        rw [found] at none
        have agree := difference?_eq_none_iff.mp found
        refine ⟨agree, ?_⟩
        intro i c d bound hc hd
        have child := child?_eq_some_iff.mpr ⟨c, d, hc, hd, rfl⟩
        have member := mem_below_iff.mpr ⟨agree, i, bound, child⟩
        apply (ih _ member).mp
        apply List.flatMap_eq_nil_iff.mp none
        simpa [below, found] using member
    · rintro ⟨agree, below⟩
      have found := difference?_eq_none_iff.mpr agree
      rw [differences_eq, found]
      apply List.flatMap_eq_nil_iff.mpr
      intro q member
      have member : q ∈ p.below := by simpa [Pair.below, found] using member
      obtain ⟨-, i, bound, child⟩ := mem_below_iff.mp member
      obtain ⟨c, d, hc, hd, rfl⟩ := child?_eq_some_iff.mp child
      exact (ih _ member).mpr (below i c d bound hc hd)

namespace Session

variable {env : Environment} {s : Session} {id : Text}

/-- What a text counts for in comparisons: its tree if it has one, and otherwise
the text with its blank runs collapsed. -/
def reading (env : Environment) (s : Session) (id t : Text) : Node ⊕ Text :=
  match (s.resolve env id).1 with
  | .error _ => .inr t.collapse
  | .ok language =>
    match parseIn env language id t with
    | .error _ => .inr t.collapse
    | .ok root => .inl root

def Equates (env : Environment) (s : Session) (id : Text) (verbose : Bool) (x y : Text) : Prop :=
  ∃ report, (s.compare env (.text x) (.text y) (.text id) verbose).1 = .ok report ∧
    report.verdict.isEqual = true

/-- A text that the parser does not fail on, whatever language the id resolves to: it can be
made, and a text without surrogates, which alone reaches it, has a tree that backs its counts. -/
def Readable (env : Environment) (s : Session) (id t : Text) : Prop :=
  ∀ language, s.Resolves env id language →
    env.accept language.grammar = .ok () ∧
      (t.Encodable →
        ∃ root, env.parse language.grammar (t.flatMap Utf8.encodeOne) = .ok root ∧ root.Backed)

theorem equates_iff_compareTexts (solid : ∃ c ∈ id, c.isBlank = false) {x y : Text}
    {verbose : Bool} :
    s.Equates env id verbose x y ↔
      ∃ outcome, (s.compareTexts env x y id).1 = .ok outcome ∧
        outcome.verdict.isEqual = true := by
  unfold Equates
  rw [compare_of_texts solid]
  cases (s.compareTexts env x y id).1 with
  | error f => simp [Except.map]
  | ok outcome => simp [Except.map, reportOf]

/-- Of the texts that the parser does not fail on, those with a tree are those
without surrogates. -/
theorem Readable.exists_parseIn_iff {language : Language} {t : Text}
    (h : s.Readable env id t) (resolves : s.Resolves env id language) :
    (∃ root, parseIn env language id t = .ok root) ↔ t.Encodable := by
  constructor
  · rintro ⟨root, parsed⟩
    exact (parseIn_eq_ok_iff.mp parsed).1
  · intro encodable
    obtain ⟨root, parsed, -⟩ := (h language resolves).2 encodable
    exact ⟨root, parseIn_eq_ok_iff.mpr ⟨encodable, parsed⟩⟩

theorem Readable.backed_of_reading {t : Text} {root : Node}
    (h : s.Readable env id t) (reads : s.reading env id t = .inl root) : root.Backed := by
  unfold reading at reads
  cases found : (s.resolve env id).1 with
  | error cause =>
    rw [found] at reads
    cases reads
  | ok language =>
    rw [found] at reads
    cases parsed : parseIn env language id t with
    | error cause =>
      simp only [parsed] at reads
      cases reads
    | ok tree =>
      simp only [parsed] at reads
      obtain rfl := Sum.inl.inj reads
      obtain ⟨encodable, taken⟩ := parseIn_eq_ok_iff.mp parsed
      obtain ⟨root, taken', backed⟩ := (h language (resolves_iff.mpr found)).2 encodable
      obtain rfl := Except.ok.inj (taken.symm.trans taken')
      exact backed

theorem isEqual_trees {e a : Node} {place : Location} :
    (Outcome.trees ⟨e, a, place⟩).verdict.isEqual = true ↔ e.Alike a := by
  rw [← Pair.differences_eq_nil_iff (p := ⟨e, a, place⟩)]
  simp [Outcome.verdict, Verdict.isEqual]

theorem isEqual_words {cause : GrammarError} {x y : Text} :
    (Outcome.words cause x y).verdict.isEqual = true ↔ x.collapse = y.collapse := by
  simp only [Outcome.verdict, Verdict.isEqual, Text.compareWords]
  split
  · next same => simp [same]
  · next differ => simp [differ]

/-- Texts that the parser does not fail on are equal if and only if they count
for like trees or for the same words; a tree and words are never equal. -/
theorem equates_iff_reading (solid : ∃ c ∈ id, c.isBlank = false) {x y : Text} {verbose : Bool}
    (hx : s.Readable env id x) (hy : s.Readable env id y) :
    s.Equates env id verbose x y ↔
      Sum.LiftRel Node.Alike (· = ·) (s.reading env id x) (s.reading env id y) := by
  rw [equates_iff_compareTexts solid, compareTexts_eq]
  unfold reading
  cases resolved : s.resolve env id with
  | mk result s' =>
    cases result with
    | error cause => simpa [compared] using isEqual_words
    | ok language =>
      have resolves : s.Resolves env id language := resolves_iff.mpr (by rw [resolved])
      have accepts := (hx language resolves).1
      have hx := hx.exists_parseIn_iff resolves
      have hy := hy.exists_parseIn_iff resolves
      -- a text with a tree and one without differ in their surrogates, hence in their words
      have apart (encodable : ¬ (x.Encodable ↔ y.Encodable)) : x.collapse ≠ y.collapse :=
        fun same => encodable (Text.encodable_of_collapse_eq same)
      simp only [compared, underParser_of_accepts accepts, judged, Except.ok.injEq,
        exists_eq_left']
      cases parsedX : parseIn env language id x with
      | ok e =>
        cases parsedY : parseIn env language id y with
        | ok a => simpa using isEqual_trees
        | error cause =>
          have differ := apart (by simp [← hx, ← hy, parsedX, parsedY])
          simpa [isEqual_words] using differ
      | error cause =>
        cases parsedY : parseIn env language id y with
        | ok a =>
          have differ := apart (by simp [← hx, ← hy, parsedX, parsedY])
          simpa [isEqual_words] using differ
        | error cause' => simpa using isEqual_words

/-- The verdict is an equivalence of texts, in every session and under every id
that is not blank, whether or not the id resolves to a language: on texts that
the parser does not fail on and whose trees report as many named children as
they have, it is reflexive, symmetric and transitive, also where trees are
compared in some of the comparisons and words in others. -/
theorem verdict_equivalence (env : Environment) (s : Session) (id : Text) (verbose : Bool)
    (solid : ∃ c ∈ id, c.isBlank = false) (a b c : Text) (ha : s.Readable env id a)
    (hb : s.Readable env id b) (hc : s.Readable env id c) :
    s.Equates env id verbose a a ∧
      (s.Equates env id verbose a b ↔ s.Equates env id verbose b a) ∧
      (s.Equates env id verbose a b → s.Equates env id verbose b c →
        s.Equates env id verbose a c) := by
  rw [equates_iff_reading solid ha ha, equates_iff_reading solid ha hb,
    equates_iff_reading solid hb ha, equates_iff_reading solid hb hc,
    equates_iff_reading solid ha hc]
  have backed (root : Node) (reads : s.reading env id b = .inl root) : root.Backed :=
    hb.backed_of_reading reads
  generalize s.reading env id a = ra
  generalize s.reading env id c = rc
  generalize s.reading env id b = rb at backed
  have symm {r r' : Node ⊕ Text} (h : Sum.LiftRel Node.Alike (· = ·) r r') :
      Sum.LiftRel Node.Alike (· = ·) r' r := by
    cases h with
    | inl alike => exact .inl alike.symm
    | inr same => exact .inr same.symm
  refine ⟨?_, ⟨symm, symm⟩, ?_⟩
  · cases ra with
    | inl root => exact .inl (.refl root)
    | inr words => exact .inr rfl
  · intro first second
    cases first with
    | inl alike =>
      cases second with
      | inl alike' => exact .inl (alike.trans alike' (backed _ rfl))
    | inr same =>
      cases second with
      | inr same' => exact .inr (same.trans same')

def singleName : Environment where
  load := Modules.standard.load
  accept := fun _ => .ok ()
  parse := fun _ bytes =>
    .ok (.whole "module" bytes
      [.whole "expression_statement" bytes [.whole "identifier" bytes []]])

/-- Two names and a lone surrogate, under an id that is yet to be loaded. -/
theorem verdict_equivalence_names :
    (∃ c ∈ ("Python" : Text), c.isBlank = false) ∧
      (∀ t ∈ ([("x" : Text), ("y" : Text), ([.ofNat 0xd800] : Text)] : List Text),
        initial.Readable singleName "Python" t) ∧
      initial.Equates singleName "Python" true "x" "x" ∧
      (initial.Equates singleName "Python" true "x" "y" ↔
        initial.Equates singleName "Python" true "y" "x") ∧
      (initial.Equates singleName "Python" true "x" "y" →
        initial.Equates singleName "Python" true "y" [.ofNat 0xd800] →
        initial.Equates singleName "Python" true "x" [.ofNat 0xd800]) := by
  have solid : ∃ c ∈ ("Python" : Text), c.isBlank = false := ⟨'P', by decide, by decide⟩
  have parses (t : Text) : initial.Readable singleName "Python" t := by
    refine fun language _ => ⟨rfl, fun _ => ⟨_, rfl, ?_⟩⟩
    apply Node.Backed.whole
    simp only [List.mem_singleton, forall_eq]
    apply Node.Backed.whole
    simp only [List.mem_singleton, forall_eq]
    apply Node.Backed.whole
    simp
  exact ⟨solid, fun t _ => parses t,
    verdict_equivalence singleName initial "Python" true solid "x" "y" [.ofNat 0xd800]
      (parses "x") (parses "y") (parses [.ofNat 0xd800])⟩

end Session

end SyntaxParity
