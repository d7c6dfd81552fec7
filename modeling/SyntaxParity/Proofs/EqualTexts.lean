import Mathlib.Data.List.Forall2
import SyntaxParity.Proofs.Decoding
import SyntaxParity.Proofs.Equivalence

namespace SyntaxParity

/-- Between blanks lies all of a text that is not blank. -/
theorem Text.dense_between {t : Text} {i j : Nat} (le : i ≤ j)
    (before : ∀ c ∈ t.take i, c.isBlank = true) (after : ∀ c ∈ t.drop j, c.isBlank = true) :
    dense ((t.take j).drop i) = t.dense := by
  calc
    dense ((t.take j).drop i) = dense (t.take i) ++ dense ((t.take j).drop i) := by
      rw [dense_eq_nil_iff.mpr before, List.nil_append]
    _ = dense (t.take j) := by rw [← dense_append, Utf8.take_append_between t le]
    _ = dense (t.take j) ++ dense (t.drop j) := by
      rw [dense_eq_nil_iff.mpr after, List.append_nil]
    _ = t.dense := by rw [← dense_append, List.take_append_drop]

/-- Each root that the parser makes spans a part of its source that begins and
ends between two code points and has only blanks outside. -/
def Environment.RootsSpan (env : Environment) : Prop :=
  ∀ (grammar : Grammar) (source : Text) (root : Node), source.Encodable →
    env.parse grammar (source.flatMap Utf8.encodeOne) = .ok root →
      ∃ i j, i ≤ j ∧ root.Spans source i j ∧
        (∀ c ∈ source.take i, c.isBlank = true) ∧ (∀ c ∈ source.drop j, c.isBlank = true)

theorem Environment.RootsSpan.dense_text {env : Environment} (h : env.RootsSpan)
    {grammar : Grammar} {source : Text} {root : Node} (encodable : source.Encodable)
    (parsed : env.parse grammar (source.flatMap Utf8.encodeOne) = .ok root) :
    root.text.dense = source.dense := by
  obtain ⟨i, j, le, spans, before, after⟩ := h grammar source root encodable parsed
  rw [spans.text le encodable, Text.dense_between le before after]

theorem Node.Alike.whole {kind : Text} {bytes bytes' : Bytes} {children children' : List Node}
    (texts : (Utf8.decodeReplacing bytes).dense = (Utf8.decodeReplacing bytes').dense)
    (below : List.Forall₂ Alike children children') :
    (Node.whole kind bytes children).Alike (Node.whole kind bytes' children') := by
  constructor
  · exact ⟨rfl, texts, congrArg Nat.cast below.length_eq⟩
  · intro i c d bound child child'
    rw [child?_whole] at child child'
    clear bound
    induction below generalizing i with
    | nil => simp at child
    | cons head _ ih =>
      cases i with
      | zero =>
        obtain rfl := Option.some.inj child
        obtain rfl := Option.some.inj child'
        exact head
      | succ i => exact ih i child child'

namespace Session

variable {env : Environment} {s : Session} {id x y : Text}

theorem dense_eq_of_isEqual (span : env.RootsSpan) {outcome : Outcome}
    (compared : (s.compareTexts env x y id).1 = .ok outcome)
    (equal : outcome.verdict.isEqual = true) : x.dense = y.dense := by
  rcases compareTexts_cases env s x y id with
    ⟨refusal, -, refused⟩ | ⟨e, a, trees, judged⟩ | ⟨-, -, cause, words⟩
  · cases refused.symm.trans compared
  · obtain rfl := Except.ok.inj (judged.symm.trans compared)
    obtain ⟨agree, -⟩ := isEqual_trees.mp equal
    obtain ⟨language, -, -, encodableX, encodableY, parsedX, parsedY⟩ := trees
    rw [← span.dense_text encodableX parsedX, ← span.dense_text encodableY parsedY, agree.text]
  · -- no trees: what is left to compare are the words, which hold all but the blanks
    obtain rfl := Except.ok.inj (words.symm.trans compared)
    rw [← Text.dense_collapse x, isEqual_words.mp equal, Text.dense_collapse]

/-- No two texts count as equal unless they have the same code points, blanks
apart, whether they are compared by their trees or by their words: in every
session and under every id that is not blank, for a parser whose roots leave out
nothing but blanks. -/
theorem dense_eq_of_equates (env : Environment) (span : env.RootsSpan) (s : Session) (id : Text)
    (solid : ∃ c ∈ id, c.isBlank = false) (verbose : Bool) (x y : Text)
    (equal : s.Equates env id verbose x y) : x.dense = y.dense := by
  obtain ⟨outcome, compared, equal⟩ := (equates_iff_compareTexts solid).mp equal
  exact dense_eq_of_isEqual span compared equal

/-- The tree of a statement made of one name. The module begins with the name and
ends with the source. -/
def nameTree (source : Text) : Node :=
  let name := source.trim.flatMap Utf8.encodeOne
  .whole "module" ((source.dropWhile (·.isBlank)).flatMap Utf8.encodeOne)
    [.whole "expression_statement" name [.whole "identifier" name []]]

def nameInBlanks : Environment where
  load := Modules.standard.load
  accept := fun _ => .ok ()
  parse := fun _ bytes => .ok (nameTree (Utf8.decodeReplacing bytes))

theorem parse_nameInBlanks (grammar : Grammar) {source : Text} (encodable : source.Encodable) :
    nameInBlanks.parse grammar (source.flatMap Utf8.encodeOne) = .ok (nameTree source) := by
  simp only [nameInBlanks, Utf8.decodeReplacing_encode encodable]

theorem rootsSpan_nameInBlanks : nameInBlanks.RootsSpan := by
  intro grammar source root encodable parsed
  obtain rfl : nameTree source = root := by
    rw [parse_nameInBlanks grammar encodable] at parsed
    exact Except.ok.inj parsed
  have content : (nameTree source).content =
      .bytes ((source.dropWhile (·.isBlank)).flatMap Utf8.encodeOne) := rfl
  have split := List.takeWhile_append_dropWhile (p := (·.isBlank)) (l := source)
  have blank : ∀ c ∈ source.takeWhile (·.isBlank), c.isBlank = true :=
    fun c member => List.mem_takeWhile_imp member
  generalize source.takeWhile (·.isBlank) = front at split blank
  generalize source.dropWhile (·.isBlank) = rest at split content
  subst split
  have le : front.length ≤ (front ++ rest).length := by simp
  refine ⟨front.length, (front ++ rest).length, le, ?_, ?_, ?_⟩
  · rw [Node.Spans, content, Utf8.slice_encode _ le, List.take_length, List.drop_left]
  · rwa [List.take_left]
  · simp

/-- A name with a newline behind it and one with a space before it, under an id
that is yet to be loaded. -/
theorem dense_eq_of_equates_name :
    nameInBlanks.RootsSpan ∧ (∃ c ∈ ("Python" : Text), c.isBlank = false) ∧
      initial.Equates nameInBlanks "Python" true "x\n" " x" ∧
      ("x\n" : Text).dense = (" x" : Text).dense := by
  have solid : ∃ c ∈ ("Python" : Text), c.isBlank = false := ⟨'P', by decide, by decide⟩
  have resolves : initial.Resolves nameInBlanks "Python" ⟨0, ⟨"tree_sitter_python.language"⟩⟩ :=
    resolves_iff.mpr (by decide +kernel)
  have trees : initial.HasTrees nameInBlanks "Python" "x\n" " x"
      (nameTree "x\n") (nameTree " x") :=
    ⟨_, resolves, rfl, by decide, by decide, parse_nameInBlanks _ (by decide),
      parse_nameInBlanks _ (by decide)⟩
  have alike : (nameTree "x\n").Alike (nameTree " x") := by
    refine .whole ?_ (.cons (.whole ?_ (.cons (.whole ?_ .nil) .nil)) .nil)
    all_goals
      rw [Utf8.decodeReplacing_encode (by decide), Utf8.decodeReplacing_encode (by decide)]
      decide
  have equal : initial.Equates nameInBlanks "Python" true "x\n" " x" := by
    rw [equates_iff_compareTexts solid, compareTexts_of_hasTrees trees]
    exact ⟨_, rfl, isEqual_trees.mpr alike⟩
  exact ⟨rootsSpan_nameInBlanks, solid, equal,
    dense_eq_of_equates nameInBlanks rootsSpan_nameInBlanks initial "Python" solid true "x\n" " x"
      equal⟩

end Session

end SyntaxParity
