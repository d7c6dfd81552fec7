import SyntaxParity.Proofs.CommandAgreement

namespace SyntaxParity

inductive LineEnding where
  | newline
  | carriageReturn
  | both

def LineEnding.signs : LineEnding → Text
  | .newline => [.newline]
  | .carriageReturn => [.carriageReturn]
  | .both => [.carriageReturn, .newline]

namespace Text

def withEndings (t : Text) (ending : LineEnding) : Text :=
  t.flatMap fun c => if c = .newline then ending.signs else [c]

/-- The text with one newline in the place of each carriage return and the newline right
behind it. -/
def joinPairs : Text → Text
  | c :: d :: rest =>
    if c = .carriageReturn ∧ d = .newline then .newline :: joinPairs rest
    else c :: joinPairs (d :: rest)
  | t => t

def replaceReturns (t : Text) : Text :=
  t.map fun c => if c = .carriageReturn then .newline else c

theorem carriageReturn_notMem_replaceReturns (t : Text) :
    .carriageReturn ∉ t.replaceReturns := by
  have other : CodePoint.newline ≠ .carriageReturn := by decide
  intro member
  obtain ⟨c, -, replaced⟩ := List.mem_map.mp member
  split at replaced
  · exact other replaced
  · next kept => exact kept replaced

/-- Only in front of a newline does it matter whether a carriage return stands before the
text. -/
theorem unifyNewlinesAfter_of_head {t : Text} (apart : t.head? ≠ some .newline) :
    t.unifyNewlinesAfter true = t.unifyNewlinesAfter false := by
  cases t with
  | nil => rfl
  | cons c t =>
    have other : c ≠ .newline := fun same => apart (congrArg some same)
    simp [unifyNewlinesAfter, other]

theorem unifyNewlinesAfter_newline (afterReturn : Bool) (t : Text) :
    unifyNewlinesAfter afterReturn (.newline :: t) =
      if afterReturn then t.unifyNewlinesAfter false
      else .newline :: t.unifyNewlinesAfter false := by
  have other : CodePoint.newline ≠ .carriageReturn := by decide
  cases afterReturn <;> simp [unifyNewlinesAfter, other]

theorem unifyNewlinesAfter_return (afterReturn : Bool) (t : Text) :
    unifyNewlinesAfter afterReturn (.carriageReturn :: t) =
      .newline :: t.unifyNewlinesAfter true := by
  simp [unifyNewlinesAfter]

theorem unifyNewlinesAfter_other {c : CodePoint} (noReturn : c ≠ .carriageReturn)
    (noNewline : c ≠ .newline) (afterReturn : Bool) (t : Text) :
    unifyNewlinesAfter afterReturn (c :: t) = c :: t.unifyNewlinesAfter false := by
  simp [unifyNewlinesAfter, noReturn, noNewline]

/-- Unifying newlines is joining pairs first and replacing the carriage returns that are
left. -/
theorem unifyNewlines_eq (t : Text) : t.unifyNewlines = t.joinPairs.replaceReturns := by
  have newline : CodePoint.newline ≠ .carriageReturn := by decide
  rw [unifyNewlines]
  fun_induction joinPairs t with
  | case1 c d rest pair ih =>
    obtain ⟨rfl, rfl⟩ := pair
    rw [unifyNewlinesAfter_return, unifyNewlinesAfter_newline, if_pos rfl, ih]
    simp [replaceReturns, newline]
  | case2 c d rest apart ih =>
    by_cases first : c = .carriageReturn
    · have behind : d ≠ .newline := fun second => apart ⟨first, second⟩
      rw [first, unifyNewlinesAfter_return,
        unifyNewlinesAfter_of_head (by simpa using behind), ih]
      simp [replaceReturns]
    · have kept : unifyNewlinesAfter false (c :: d :: rest) =
          c :: unifyNewlinesAfter false (d :: rest) := by
        simp [unifyNewlinesAfter, first]
      rw [kept, ih]
      simp [replaceReturns, first]
  | case3 t short =>
    rcases t with _ | ⟨c, _ | ⟨d, rest⟩⟩
    · rfl
    · by_cases only : c = .carriageReturn <;> simp [unifyNewlinesAfter, replaceReturns, only]
    · exact (short c d rest rfl).elim

/-- A carriage return is taken together with the newline behind it, never with another
carriage return. -/
example : Text.unifyNewlines "\r\r\n" = "\n\n" := by decide

theorem newline_notMem_withEndings (t : Text) :
    .newline ∉ t.withEndings .carriageReturn := by
  have other : CodePoint.newline ≠ .carriageReturn := by decide
  intro member
  obtain ⟨c, -, written⟩ := List.mem_flatMap.mp member
  split at written
  · exact other (List.mem_singleton.mp written)
  · next kept => exact kept (List.mem_singleton.mp written).symm

/-- Whatever the line endings of a text are, they become the newlines of the text. -/
theorem unifyNewlines_withEndings {t : Text} (none : .carriageReturn ∉ t) (ending : LineEnding) :
    (t.withEndings ending).unifyNewlines = t := by
  induction t with
  | nil => rfl
  | cons c t ih =>
    obtain ⟨noReturn, noneBehind⟩ := not_or.mp (fun member => none (List.mem_cons.mpr member))
    have ih := ih noneBehind
    rw [unifyNewlines] at ih ⊢
    by_cases newline : c = .newline
    · rw [withEndings, List.flatMap_cons, if_pos newline, newline]
      cases ending with
      | newline =>
        rw [LineEnding.signs, List.singleton_append, unifyNewlinesAfter_newline,
          if_neg Bool.false_ne_true]
        exact congrArg _ ih
      | both =>
        rw [LineEnding.signs, List.cons_append, List.singleton_append, unifyNewlinesAfter_return,
          unifyNewlinesAfter_newline, if_pos rfl]
        exact congrArg _ ih
      | carriageReturn =>
        -- no newline follows that could be taken together with this carriage return
        have apart : (withEndings t .carriageReturn).head? ≠ some .newline := fun first =>
          newline_notMem_withEndings t (List.mem_of_mem_head? first)
        rw [LineEnding.signs, List.singleton_append, unifyNewlinesAfter_return]
        exact congrArg _ ((unifyNewlinesAfter_of_head apart).trans ih)
    · rw [withEndings, List.flatMap_cons, if_neg newline, List.singleton_append,
        unifyNewlinesAfter_other (Ne.symm noReturn) newline]
      exact congrArg _ ih

end Text

namespace Bytes

theorem sourceText_of_encode {t : Text} {bytes : Bytes} (h : Utf8.encode t = .ok bytes) :
    bytes.sourceText = .ok t.unifyNewlines := by
  rw [sourceText, Utf8.decode_eq_ok_iff.mpr h]

/-- Two contents of a file that are the same, or the UTF-8 forms of one text without a
carriage return, each with line endings of a kind of its own. -/
inductive SameLines : Bytes → Bytes → Prop where
  | refl (bytes : Bytes) : SameLines bytes bytes
  | endings {t : Text} {ending ending' : LineEnding} {bytes bytes' : Bytes}
    (none : .carriageReturn ∉ t) (first : Utf8.encode (t.withEndings ending) = .ok bytes)
    (second : Utf8.encode (t.withEndings ending') = .ok bytes') : SameLines bytes bytes'

theorem SameLines.sourceText_eq {bytes bytes' : Bytes} (same : bytes.SameLines bytes') :
    bytes'.sourceText = bytes.sourceText := by
  cases same with
  | refl => rfl
  | endings none first second =>
    rw [sourceText_of_encode first, sourceText_of_encode second,
      Text.unifyNewlines_withEndings none, Text.unifyNewlines_withEndings none]

end Bytes

namespace FileTree

inductive SameRead : Except ReadFailure Bytes → Except ReadFailure Bytes → Prop where
  | failed (failure : ReadFailure) : SameRead (.error failure) (.error failure)
  | found {bytes bytes' : Bytes} (same : bytes.SameLines bytes') :
    SameRead (.ok bytes) (.ok bytes')

/-- Two file trees with the same directories and with files of the same names, which differ
in their line endings only. -/
structure SameLines (tree tree' : FileTree) : Prop where
  files : List.Forall₂ (fun file file' => file.1 = file'.1 ∧ file.2.SameLines file'.2)
    tree.files tree'.files
  directories : tree.directories = tree'.directories

variable {tree tree' : FileTree}

theorem SameLines.names_eq (same : tree.SameLines tree') :
    tree.files.map Prod.fst = tree'.files.map Prod.fst := by
  have files := same.files
  generalize tree.files = listed at files
  generalize tree'.files = listed' at files
  induction files with
  | nil => rfl
  | cons first _ ih => rw [List.map_cons, List.map_cons, first.1, ih]

theorem SameLines.isDirectory_eq (same : tree.SameLines tree') :
    tree'.isDirectory = tree.isDirectory := by
  funext names
  simp only [isDirectory, same.names_eq, same.directories]

theorem SameLines.lookup (same : tree.SameLines tree') (names : List Bytes) :
    (tree.files.lookup names = none ∧ tree'.files.lookup names = none) ∨
      ∃ bytes bytes', tree.files.lookup names = some bytes ∧
        tree'.files.lookup names = some bytes' ∧ bytes.SameLines bytes' := by
  have files := same.files
  generalize tree.files = listed at files
  generalize tree'.files = listed' at files
  induction files with
  | nil => exact .inl ⟨rfl, rfl⟩
  | @cons file file' files files' first _ ih =>
    obtain ⟨name, bytes⟩ := file
    obtain ⟨name', bytes'⟩ := file'
    obtain ⟨rfl, same⟩ := first
    rw [List.lookup_cons, List.lookup_cons]
    cases names == name with
    | true => exact .inr ⟨bytes, bytes', rfl, rfl, same⟩
    | false => exact ih

theorem SameLines.locate_eq (same : tree.SameLines tree') (p : Path) :
    tree'.locate p = tree.locate p := by
  have found (names : List Bytes) :
      (tree'.files.lookup names).isSome = (tree.files.lookup names).isSome := by
    rcases same.lookup names with ⟨none, none'⟩ | ⟨bytes, bytes', some, some', -⟩
    · rw [none, none']
    · rw [some, some']
      rfl
  have enter : tree'.enter p = tree.enter p := by
    funext position component
    cases position with
    | outside => rfl
    | below names => simp only [FileTree.enter, same.isDirectory_eq, found]
  rw [locate, locate, enter]

theorem SameLines.sameRead (same : tree.SameLines tree') (p : Path) :
    SameRead (tree.read p) (tree'.read p) := by
  simp only [read, same.locate_eq, same.isDirectory_eq]
  split
  · exact .failed _
  · split_ifs
    · exact .failed _
    · exact .failed _
    · split
      · exact .failed _
      · exact .failed _
      · next names _ =>
        split_ifs
        · exact .failed _
        · rcases same.lookup names with ⟨none, none'⟩ | ⟨bytes, bytes', some, some', same⟩
          · rw [none, none']
            exact .failed _
          · rw [some, some']
            exact .found same

end FileTree

namespace Session

variable {env : Environment} {parse : Grammar → Bytes → Except Text Node} {source source' : Text}

/-- Another parser that takes a source for the same tree. -/
theorem parseText_of_parse_eq
    (same : ∀ bytes grammar, Utf8.encode source = .ok bytes →
      parse grammar bytes = env.parse grammar bytes) (s : Session) (id : Text) :
    s.parseText { env with parse } source id = s.parseText env source id := by
  have made : s.makeParser { env with parse } (.text id) = s.makeParser env (.text id) := rfl
  have parsed (language : Language) :
      parseIn { env with parse } language id source = parseIn env language id source := by
    unfold parseIn
    cases encoded : Utf8.encode source with
    | error run => rfl
    | ok bytes => simp only [same bytes language.grammar encoded]
  simp only [parseText, made, parsed]

theorem compare_of_parse_eq
    (same : ∀ bytes grammar, Utf8.encode source = .ok bytes →
      parse grammar bytes = env.parse grammar bytes)
    (same' : ∀ bytes grammar, Utf8.encode source' = .ok bytes →
      parse grammar bytes = env.parse grammar bytes) (s : Session) (id : Text) (verbose : Bool) :
    s.compare { env with parse } (.text source) (.text source') (.text id) verbose =
      s.compare env (.text source) (.text source') (.text id) verbose := by
  have compared : s.compareTexts { env with parse } source source' id =
      s.compareTexts env source source' id := by
    simp only [compareTexts, parseText_of_parse_eq same, parseText_of_parse_eq same']
  simp only [compare, checkArguments]
  split_ifs
  · rfl
  · simp only [compared]

end Session

namespace CommandLine

variable {env : Environment} {read read' : Reader}

theorem Operand.source_of_sameRead (same : ∀ p, FileTree.SameRead (read p) (read' p))
    (operand : Operand) : operand.source read' = operand.source read := by
  cases operand with
  | none => rfl
  | some word =>
    have contents := same (.ofText word)
    simp only [source]
    generalize read (.ofText word) = found at contents ⊢
    generalize read' (.ofText word) = found' at contents ⊢
    cases contents with
    | failed failure => rfl
    | found same => simp only [Except.bind, same.sourceText_eq]

/-- A run looks at nothing of the files but the source texts of its operands. -/
theorem run_of_source_eq
    (same : ∀ operand : Operand, operand.source read' = operand.source read)
    (env : Environment) (words : List Text) : run env read' words = run env read words := by
  unfold run
  cases Invocation.ofWords words with
  | error d => rfl
  | ok invocation =>
    cases invocation with
    | compare expected actual asked verbose => simp only [Invocation.run, runCompare, same]
    | inspect file asked allNodes => simp only [Invocation.run, runInspect, same]
    | languages => rfl

/-- A run hands nothing to the parser but the source texts of its operands. -/
theorem run_of_parse_eq {parse : Grammar → Bytes → Except Text Node}
    (same : ∀ (operand : Operand) t bytes grammar, operand.source read = .ok t →
      Utf8.encode t = .ok bytes → parse grammar bytes = env.parse grammar bytes)
    (words : List Text) : run { env with parse } read words = run env read words := by
  unfold run
  cases Invocation.ofWords words with
  | error d => rfl
  | ok invocation =>
    cases invocation with
    | compare expected actual asked verbose =>
      simp only [Invocation.run, runCompare]
      cases readE : expected.source read with
      | error b => rfl
      | ok x =>
        cases readA : actual.source read with
        | error b => rfl
        | ok y =>
          simp only [Session.compare_of_parse_eq (fun bytes grammar => same expected x _ _ readE)
            (fun bytes grammar => same actual y _ _ readA)]
    | inspect file asked allNodes =>
      simp only [Invocation.run, runInspect]
      cases readF : file.source read with
      | error b => rfl
      | ok t =>
        simp only [Session.parseText_of_parse_eq (fun bytes grammar => same file t _ _ readF)]
    | languages => rfl

/-- Line endings are invisible. Files that hold one text without a carriage return, each
with line endings of any kind, make no difference to a run: neither where they lie in two
file trees that are otherwise the same, nor for any two ways of reading files that find such
contents or fail alike. The source text of a file with the UTF-8 form of some text holds no
carriage return, and is that text with a newline for each carriage return with the newline
behind it, and then one for each carriage return that is left. The parser is handed nothing
but source texts: another parser that gives the same on them makes no difference either. -/
theorem line_endings_irrelevant (env : Environment) :
    (∀ (tree tree' : FileTree) (words : List Text), tree.SameLines tree' →
      run env tree'.read words = run env tree.read words) ∧
    (∀ (read read' : Reader) (words : List Text),
      (∀ p, FileTree.SameRead (read p) (read' p)) →
      run env read' words = run env read words) ∧
    (∀ (read : Reader) (word : Text) (bytes : Bytes) (written : Text),
      read (.ofText word) = .ok bytes → Utf8.decode bytes = .ok written →
      ∃ t, Operand.source (some word) read = .ok t ∧ .carriageReturn ∉ t ∧
        t = written.joinPairs.replaceReturns) ∧
    (∀ (read : Reader) (parse : Grammar → Bytes → Except Text Node) (words : List Text),
      (∀ (operand : Operand) t bytes grammar, operand.source read = .ok t →
        Utf8.encode t = .ok bytes → parse grammar bytes = env.parse grammar bytes) →
      run { env with parse } read words = run env read words) := by
  have readers (read read' : Reader) (words : List Text)
      (same : ∀ p, FileTree.SameRead (read p) (read' p)) :
      run env read' words = run env read words :=
    run_of_source_eq (Operand.source_of_sameRead same) env words
  refine ⟨?_, readers, ?_, fun read parse words same => run_of_parse_eq same words⟩
  · intro tree tree' words same
    exact readers tree.read tree'.read words same.sameRead
  · intro read word bytes written found decoded
    refine ⟨written.unifyNewlines,
      Operand.source_eq_ok_iff.mpr ⟨word, bytes, written, rfl, found, decoded, rfl⟩, ?_,
      written.unifyNewlines_eq⟩
    rw [Text.unifyNewlines_eq]
    exact Text.carriageReturn_notMem_replaceReturns _

end CommandLine

end SyntaxParity
