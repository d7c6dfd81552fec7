import SyntaxParity.Proofs.Equivalence
import SyntaxParity.Proofs.FaithfulOutline

namespace SyntaxParity

namespace Text

theorem length_splitOn (c : CodePoint) (t : Text) : (t.splitOn c).length = t.count c + 1 := by
  induction t with
  | nil => rfl
  | cons d t ih =>
    rw [List.splitOn_cons_eq_if_modifyHead, List.count_cons]
    split_ifs
    · rw [List.length_cons, ih]
    · rw [List.length_modifyHead, ih]

/-- Joined lines break where the lines are joined and where one of them breaks. -/
theorem splitOn_joinLines {lines : List Text} (filled : lines ≠ []) :
    (joinLines lines).splitOn .newline = lines.flatMap (List.splitOn .newline) := by
  induction lines with
  | nil => exact (filled rfl).elim
  | cons line others ih =>
    cases others with
    | nil =>
      rw [joinLines, joinWith, List.intercalate_singleton, List.flatMap_singleton]
    | cons line' others =>
      have joined : joinLines (line :: line' :: others) =
          line ++ .newline :: joinLines (line' :: others) := by
        rw [joinLines, joinWith, List.intercalate_cons_cons, List.append_assoc]
        rfl
      rw [joined, List.splitOn_append_cons_self, ih (List.cons_ne_nil line' others)]
      rfl

end Text

namespace Visit

/-- A line breaks where its kind does. -/
theorem count_newline_line (v : Visit) :
    v.line.count .newline = v.node.kind.count .newline := by
  obtain ⟨behind, solid, line⟩ := v.exists_line_eq
  have margin : v.indentation.count .newline = 0 :=
    List.count_eq_zero.mpr (newline_notMem_margin v.depth)
  rw [line, List.count_append, List.count_append, margin, List.count_eq_zero.mpr solid]
  omega

theorem length_flatMap_splitOn (visits : List Visit) :
    (visits.flatMap fun v => v.line.splitOn .newline).length =
      visits.length + (visits.map fun v => v.node.kind.count .newline).sum := by
  induction visits with
  | nil => rfl
  | cons v visits ih =>
    rw [List.flatMap_cons, List.length_append, ih, Text.length_splitOn, count_newline_line,
      List.length_cons, List.map_cons, List.sum_cons]
    omega

/-- The lines of visits are whole if and only if no kind breaks. -/
theorem flatMap_splitOn_eq_iff (visits : List Visit) :
    visits.flatMap (fun v => v.line.splitOn .newline) = visits.map line ↔
      ∀ v ∈ visits, .newline ∉ v.node.kind := by
  constructor
  · intro whole v visit
    have lengths := congrArg List.length whole
    rw [length_flatMap_splitOn, List.length_map] at lengths
    have none : (visits.map fun v => v.node.kind.count .newline).sum = 0 := by omega
    rw [List.sum_eq_zero_iff_forall_eq_nat, List.forall_mem_map] at none
    exact List.count_eq_zero.mp (none v visit)
  · intro solid
    rw [List.map_eq_flatMap]
    refine List.flatMap_congr fun v visit => List.splitOn_eq_singleton ?_
    rw [← List.count_eq_zero, count_newline_line, List.count_eq_zero]
    exact solid v visit

end Visit

namespace Node

/-- The outline of a complete tree has the lines of its visits, in their order, and
one line more for each newline in a kind. It has one line for each visit, which is
the line of that visit, if and only if no kind among the visits holds a newline. -/
theorem outline_breaks (scope : Scope) (n : Node) (whole : n.isComplete scope = true) :
    ∃ outline, n.outline scope = .ok outline ∧
      outline.splitOn .newline = (n.visits scope).flatMap (fun v => v.line.splitOn .newline) ∧
      (outline.splitOn .newline).length =
        (n.visits scope).length +
          ((n.visits scope).map fun v => v.node.kind.count .newline).sum ∧
      (outline.splitOn .newline = (n.visits scope).map Visit.line ↔
        ∀ v ∈ n.visits scope, .newline ∉ v.node.kind) := by
  have filled : (n.visits scope).map Visit.line ≠ [] := by
    rw [ne_eq, List.map_eq_nil_iff]
    exact n.visits_ne_nil scope
  have lines : (Text.joinLines ((n.visits scope).map Visit.line)).splitOn .newline =
      (n.visits scope).flatMap fun v => v.line.splitOn .newline := by
    rw [Text.splitOn_joinLines filled, List.flatMap_map]
  refine ⟨_, by rw [outline, if_pos whole], lines, ?_, ?_⟩
  · rw [lines, Visit.length_flatMap_splitOn]
  · rw [lines, Visit.flatMap_splitOn_eq_iff]

def leaf (kind written : Text) (start stop : Point) : Node where
  kind
  content := .bytes (written.flatMap Utf8.encodeOne)
  named := []
  namedCount := 0
  children := []
  childCount := 0
  start
  stop

def branch (kind written : Text) (named children : List Node) (start stop : Point) : Node where
  kind
  content := .bytes (written.flatMap Utf8.encodeOne)
  named := named.map some
  namedCount := named.length
  children := children.map some
  childCount := children.length
  start
  stop

/-- The tree of a section that is compiled on a condition. The newline that ends the
condition is a sign of the language, whose kind is this newline. -/
def conditional : Node :=
  let condition := leaf "identifier" "A" ⟨0, 4⟩ ⟨0, 5⟩
  let name := leaf "identifier" "x" ⟨1, 0⟩ ⟨1, 1⟩
  let statement := branch "expression_statement" "x;" [name]
    [name, leaf ";" ";" ⟨1, 1⟩ ⟨1, 2⟩] ⟨1, 0⟩ ⟨1, 2⟩
  let directive := branch "preproc_if" "#if A\nx;\n#endif" [condition, statement]
    [leaf "#if" "#if" ⟨0, 0⟩ ⟨0, 3⟩, condition, leaf "\n" "\n" ⟨0, 5⟩ ⟨1, 0⟩, statement,
     leaf "#endif" "#endif" ⟨2, 0⟩ ⟨2, 6⟩] ⟨0, 0⟩ ⟨2, 6⟩
  branch "translation_unit" "#if A\nx;\n#endif\n" [directive] [directive] ⟨0, 0⟩ ⟨3, 0⟩

/-- The outline of the section has a line more than it has visits, because the kind of
the fifth node is a newline. -/
theorem outline_conditional_breaks :
    ∃ outline, conditional.outline .all = .ok outline ∧
      (conditional.visits .all).length = 9 ∧
      (outline.splitOn .newline).length = 10 ∧
      outline.splitOn .newline ≠ (conditional.visits .all).map Visit.line := by
  have whole : conditional.isComplete .all = true := by decide +kernel
  refine ⟨_, by rw [outline, if_pos whole], ?_, ?_, ?_⟩ <;> decide +kernel

/-- The outlines of the section and of its named nodes. -/
theorem outline_breaks_conditional :
    conditional.isComplete .all = true ∧ conditional.isComplete .named = true ∧
      (∃ outline, conditional.outline .all = .ok outline ∧
        (outline.splitOn .newline).length = (conditional.visits .all).length + 1) ∧
      ∃ outline, conditional.outline .named = .ok outline ∧
        outline.splitOn .newline = (conditional.visits .named).map Visit.line := by
  have all : conditional.isComplete .all = true := by decide +kernel
  have named : conditional.isComplete .named = true := by decide +kernel
  have broken : ((conditional.visits .all).map fun v => v.node.kind.count .newline).sum = 1 := by
    decide +kernel
  have solid : ∀ v ∈ conditional.visits .named, .newline ∉ v.node.kind := by decide +kernel
  obtain ⟨outline, written, -, lines, -⟩ := outline_breaks .all conditional all
  obtain ⟨outline', written', -, -, alone⟩ := outline_breaks .named conditional named
  exact ⟨all, named, ⟨outline, written, by rw [lines, broken]⟩,
    ⟨outline', written', alone.mpr solid⟩⟩

end Node

end SyntaxParity
