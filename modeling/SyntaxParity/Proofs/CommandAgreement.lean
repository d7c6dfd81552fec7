import SyntaxParity.Proofs.CommandOperands
import SyntaxParity.Proofs.CommandRuns
import SyntaxParity.Proofs.Equivalence
import SyntaxParity.Proofs.RoundTrip
import SyntaxParity.Proofs.Shape

/-!
Two commands on the same files. A comparison needs the trees that the outlines of
its two files show, so it is decided by words where one of these outlines cannot be
had. What is read from a file has a UTF-8 form, so this is never the reason.
-/

namespace SyntaxParity

/-- A parser whose trees have a child in each slot. -/
def Environment.TreesComplete (env : Environment) : Prop :=
  ∀ grammar bytes root, env.parse grammar bytes = .ok root → ∀ scope, root.isComplete scope = true

def Outcome.ByWords (o : Outcome) : Prop :=
  ∃ cause x y, o = .words cause x y

def GrammarError.OfEncoding (e : GrammarError) : Prop :=
  ∃ id run, e = .unencodable id run

theorem Node.childrenIn_whole (kind : Text) (bytes : Bytes) (children : List Node) (scope : Scope) :
    (whole kind bytes children).childrenIn scope = children := by
  cases scope <;> simp [childrenIn, slotsIn, whole]

theorem Text.encodable_cons {c : CodePoint} {t : Text} :
    Encodable (c :: t) ↔ c.isSurrogate = false ∧ t.Encodable :=
  List.forall_mem_cons

theorem Text.encodable_unifyNewlinesAfter {t : Text} (h : t.Encodable) (afterReturn : Bool) :
    (t.unifyNewlinesAfter afterReturn).Encodable := by
  -- the only code point that the text did not have before is the newline
  have newline : CodePoint.newline.isSurrogate = false := by decide
  induction t generalizing afterReturn with
  | nil => exact h
  | cons c rest ih =>
    obtain ⟨first, others⟩ := encodable_cons.mp h
    unfold unifyNewlinesAfter
    split_ifs with isReturn dropped
    · exact encodable_cons.mpr ⟨newline, ih others true⟩
    · exact ih others false
    · exact encodable_cons.mpr ⟨first, ih others false⟩

/-- The operands with a source text are the files that hold the UTF-8 form of one. -/
theorem CommandLine.Operand.source_eq_ok_iff {operand : Operand} {read : Reader} {t : Text} :
    operand.source read = .ok t ↔
      ∃ word bytes written, operand = some word ∧ read (.ofText word) = .ok bytes ∧
        Utf8.decode bytes = .ok written ∧ written.unifyNewlines = t := by
  cases operand with
  | none =>
    constructor
    · intro h
      cases h
    · rintro ⟨word, bytes, written, absent, -⟩
      cases absent
  | some word =>
    simp only [source, Option.some.injEq, exists_and_left, exists_eq_left']
    cases found : read (.ofText word) with
    | error failure => simp [Except.bind]
    | ok bytes =>
      cases decoded : Utf8.decode bytes with
      | error m => simp [Except.bind, Bytes.sourceText, decoded]
      | ok written => simp [Except.bind, Bytes.sourceText, decoded]

theorem CommandLine.Operand.encodable_of_source {operand : Operand} {read : Reader} {t : Text}
    (h : operand.source read = .ok t) : t.Encodable := by
  obtain ⟨word, bytes, written, -, -, decoded, rfl⟩ := source_eq_ok_iff.mp h
  obtain ⟨encodable, -⟩ := Utf8.encode_eq_ok_iff.mp (Utf8.decode_eq_ok_iff.mp decoded)
  exact Text.encodable_unifyNewlinesAfter encodable false

namespace Session

variable {env : Environment} {s : Session} {id x y source : Text}

/-- Two texts are compared by their words if and only if a parse of one of them ends in an error
of a grammar. -/
theorem compareTexts_byWords_iff :
    (∃ outcome, (s.compareTexts env x y id).1 = .ok outcome ∧ outcome.ByWords) ↔
      (∃ e, (s.parseText env x id).1 = .error (.grammar e)) ∨
        ∃ e, (s.parseText env y id).1 = .error (.grammar e) := by
  rw [compareTexts_eq, parseText_eq, parseText_eq]
  cases (s.resolve env id).1 with
  | error cause => simp [compared, answerIn, Outcome.ByWords]
  | ok language =>
    simp only [compared, answerIn]
    cases accepts : env.accept language.grammar with
    | error refusal => simp [underParser_of_refuses accepts]
    | ok _ =>
      simp only [underParser_of_accepts accepts, judged]
      cases parseIn env language id x with
      | error cause => simp [Except.mapError, Outcome.ByWords]
      | ok e => cases parseIn env language id y <;> simp [Except.mapError, Outcome.ByWords]

/-- The error for which two texts are compared by words is one of a parse. -/
theorem parseText_of_words {cause : GrammarError}
    (h : (s.compareTexts env x y id).1 = .ok (.words cause x y)) :
    (s.parseText env x id).1 = .error (.grammar cause) ∨
      (s.parseText env y id).1 = .error (.grammar cause) := by
  rw [compareTexts_eq] at h
  rw [parseText_eq, parseText_eq]
  cases resolved : (s.resolve env id).1 with
  | error e =>
    rw [resolved] at h
    cases h
    exact .inl rfl
  | ok language =>
    rw [resolved] at h
    simp only [compared, answerIn] at h ⊢
    cases accepts : env.accept language.grammar with
    | error refusal =>
      rw [underParser_of_refuses accepts] at h
      cases h
    | ok _ =>
      simp only [underParser_of_accepts accepts, judged] at h ⊢
      cases parsedX : parseIn env language id x with
      | error e =>
        simp only [parsedX] at h
        cases h
        exact .inl rfl
      | ok root =>
        cases parsedY : parseIn env language id y with
        | error e =>
          simp only [parsedX, parsedY] at h
          cases h
          exact .inr rfl
        | ok root' =>
          simp only [parsedX, parsedY] at h
          cases h

theorem not_ofEncoding_of_resolve {cause : GrammarError}
    (h : (s.resolve env id).1 = .error cause) : ¬ cause.OfEncoding := by
  have spec := resolution_of_resolve env s id
  generalize s.resolve env id = result at spec h
  rintro ⟨id', run, rfl⟩
  cases spec with
  | remembered => cases h
  | loaded => cases h
  | unregistered => cases h
  | unloadable => cases h

/-- No text without surrogates lacks a tree for want of a UTF-8 form. -/
theorem not_ofEncoding_of_parseText {cause : GrammarError} (encodable : source.Encodable)
    (h : (s.parseText env source id).1 = .error (.grammar cause)) : ¬ cause.OfEncoding := by
  rcases parseText_cases env s source id with
    ⟨e, resolved, failed⟩ | ⟨refusal, -, refused⟩ | ⟨language, -, read⟩
  · cases failed.symm.trans h
    exact not_ofEncoding_of_resolve resolved
  · cases refused.symm.trans h
  · have written : Utf8.encode source = .ok (source.flatMap Utf8.encodeOne) :=
      Utf8.encode_eq_ok_iff.mpr ⟨encodable, rfl⟩
    rw [read, parseIn_of_encode written] at h
    cases parsed : env.parse language.grammar (source.flatMap Utf8.encodeOne) with
    | error reason =>
      rw [parsed] at h
      rintro ⟨id', run, rfl⟩
      cases h
    | ok root =>
      rw [parsed] at h
      cases h

theorem exists_outline_of_parseText {root : Node} (complete : env.TreesComplete)
    (h : (s.parseText env source id).1 = .ok root) (scope : Scope) :
    ∃ outline, root.outline scope = .ok outline := by
  rcases parseText_cases env s source id with
    ⟨e, -, failed⟩ | ⟨refusal, -, refused⟩ | ⟨language, -, read⟩
  · cases failed.symm.trans h
  · cases refused.symm.trans h
  · rw [read] at h
    cases parsed : parseIn env language id source with
    | error e =>
      rw [parsed] at h
      cases h
    | ok found =>
      rw [parsed] at h
      obtain rfl := Except.ok.inj h
      have whole := complete _ _ _ (parseIn_eq_ok_iff.mp parsed).2 scope
      exact ⟨_, by rw [Node.outline, if_pos whole]⟩

/-- A parse fails by an error of a grammar, or for the lack of a parser. -/
theorem parseText_failure {f : Failure} (h : (s.parseText env source id).1 = .error f) :
    (∃ e, f = .grammar e) ∨ ∃ refusal, f = .parser refusal ∧ s.Refuses env id refusal := by
  rcases parseText_cases env s source id with
    ⟨e, -, failed⟩ | ⟨refusal, refuses, refused⟩ | ⟨language, -, read⟩
  · exact .inl ⟨e, Except.error.inj (h.symm.trans failed)⟩
  · exact .inr ⟨refusal, Except.error.inj (h.symm.trans refused), refuses⟩
  · rw [read] at h
    cases parsed : parseIn env language id source with
    | error e =>
      rw [parsed] at h
      exact .inl ⟨e, (Except.error.inj h).symm⟩
    | ok found =>
      rw [parsed] at h
      cases h

end Session

namespace CommandLine

theorem chooseLanguage_of_solid {language : Text} (solid : ∃ c ∈ language, c.isBlank = false)
    (p : Path) : chooseLanguage (some language) p = language := by
  obtain ⟨c, member, -⟩ := solid
  have filled : language.isEmpty = false :=
    List.isEmpty_eq_false_iff.mpr (List.ne_nil_of_mem member)
  simp [chooseLanguage, filled]

/-- The language that is asked for by a value other than a double hyphen. -/
theorem chooseLanguage_of_given {language : Text} (solid : ∃ c ∈ language, c.isBlank = false)
    (single : language ≠ doubleHyphen) {asked : Option Text}
    (given : asked = (some language).bind valueOf) (p : Path) :
    asked = some language ∧ chooseLanguage asked p = language := by
  have kept : asked = some language := given.trans (if_neg single)
  exact ⟨kept, kept ▸ chooseLanguage_of_solid solid p⟩

/-- The outline of a file that can be read is shown, or there is an error and a message that
tells of it, or the parser is refused. -/
theorem runInspect_cases {env : Environment} (complete : env.TreesComplete) {read : Reader}
    {file : Operand} {t : Text} (readF : file.source read = .ok t) (asked : Option Text)
    (allNodes : Bool) :
    let language := chooseLanguage asked file.path
    let parsed := (Session.initial.parseText env t language).1
    let transcript := runInspect env read file asked allNodes
    (∃ root outline, parsed = .ok root ∧
        root.outline (if allNodes then .all else .named) = .ok outline ∧
        transcript = ⟨.exit exitEqual, .printLines [outline], []⟩) ∨
      (∃ e, parsed = .error (.grammar e) ∧
        transcript = ⟨.exit exitError, [], .printLines [.concat
          ["Tree-sitter not supported for language: ", language, " (", e.message, ")"]]⟩) ∨
      ∃ refusal, Session.initial.Refuses env language refusal ∧
        transcript = ⟨.broken (.failed (.parser refusal)), [], []⟩ := by
  intro language parsed transcript
  cases parse : parsed with
  | error f =>
    rcases Session.parseText_failure parse with ⟨e, rfl⟩ | ⟨refusal, rfl, refuses⟩
    · exact .inr (.inl ⟨e, rfl, runInspect_of_error readF parse⟩)
    · exact .inr (.inr ⟨refusal, refuses, runInspect_of_failed readF parse nofun⟩)
  | ok root =>
    obtain ⟨outline, drawn⟩ := Session.exists_outline_of_parseText complete parse
      (if allNodes then .all else .named)
    exact .inl ⟨root, outline, rfl, drawn, runInspect_of_outline readF parse drawn⟩

/-- What the commands make of files that can be read. Let a language that is not blank be given to
both, any but a double hyphen. A comparison is then by words if and only if the outline of one of
the two files ends in an error; and it prints and ends as its outcome tells, which it has if the
parser is not refused. The outline of a file is shown, or there is an error and a message that
tells of it, whatever language is asked for, or else the parser is refused, and where every
grammar has a parser no outline is broken off. Neither is ever kept from its trees by a text that
has no UTF-8 form. -/
theorem commands_agree (env : Environment) (complete : env.TreesComplete) (read : Reader) :
    (∀ (words first second : List Text) (expected actual : Operand) (language x y : Text)
        (verbose allFirst allSecond : Bool),
      (∃ c ∈ language, c.isBlank = false) → language ≠ doubleHyphen →
      expected.source read = .ok x → actual.source read = .ok y →
      languageGiven? words = some language → languageGiven? first = some language →
      languageGiven? second = some language →
      (∃ asked, Invocation.ofWords words = .ok (.compare expected actual asked verbose)) →
      (∃ asked, Invocation.ofWords first = .ok (.inspect expected asked allFirst)) →
      (∃ asked, Invocation.ofWords second = .ok (.inspect actual asked allSecond)) →
      let answer := (Session.initial.compareTexts env x y language).1
      ((∃ outcome, answer = .ok outcome ∧ outcome.ByWords) ↔
          (run env read first).ending = .exit exitError ∨
            (run env read second).ending = .exit exitError) ∧
        (∀ outcome, answer = .ok outcome → run env read words =
          ⟨.exit (if outcome.verdict.isEqual then exitEqual else exitDifferent),
            opening expected actual (some language) verbose ++ outcome.output language verbose ++
              .printLines (verdictLines outcome.verdict), []⟩) ∧
        (env.AcceptsGrammars → ∃ outcome, answer = .ok outcome)) ∧
    (∀ (words : List Text) (file : Operand) (asked : Option Text) (allNodes : Bool) (t : Text),
      Invocation.ofWords words = .ok (.inspect file asked allNodes) →
      file.source read = .ok t →
      let language := chooseLanguage asked file.path
      let parsed := (Session.initial.parseText env t language).1
      ((∃ root outline, parsed = .ok root ∧
          root.outline (if allNodes then .all else .named) = .ok outline ∧
          run env read words = ⟨.exit exitEqual, .printLines [outline], []⟩) ∨
        (∃ e, parsed = .error (.grammar e) ∧
          run env read words = ⟨.exit exitError, [], .printLines [.concat
            ["Tree-sitter not supported for language: ", language, " (", e.message, ")"]]⟩) ∨
        (∃ refusal, Session.initial.Refuses env language refusal ∧
          run env read words = ⟨.broken (.failed (.parser refusal)), [], []⟩)) ∧
      (env.AcceptsGrammars → ∀ b, (run env read words).ending ≠ .broken b)) ∧
    (∀ (expected actual : Operand) (x y : Text), expected.source read = .ok x →
      actual.source read = .ok y →
      ∀ (s : Session) (language : Text) (cause : GrammarError),
        ((s.parseText env x language).1 = .error (.grammar cause) → ¬ cause.OfEncoding) ∧
        ((s.compareTexts env x y language).1 = .ok (.words cause x y) → ¬ cause.OfEncoding)) := by
  refine ⟨?_, ?_, ?_⟩
  · rintro words first second expected actual language x y verbose allFirst allSecond solid single
      readE readA given givenE givenA ⟨asked, comparing⟩ ⟨askedE, inspectingE⟩
      ⟨askedA, inspectingA⟩ answer
    have kept := chooseLanguage_of_given solid single (given ▸ asked_of_compare comparing)
    have keptE := chooseLanguage_of_given solid single (givenE ▸ asked_of_inspect inspectingE)
    have keptA := chooseLanguage_of_given solid single (givenA ▸ asked_of_inspect inspectingA)
    refine ⟨?_, fun outcome compared => ?_, fun accepts => ?_⟩
    · rw [run_of_ofWords inspectingE, run_of_ofWords inspectingA]
      simp only [Invocation.run, runInspect_exitError_iff readE, runInspect_exitError_iff readA,
        (keptE _).2, (keptA _).2]
      exact Session.compareTexts_byWords_iff
    · have answered : (Session.initial.compare env (.text x) (.text y)
          (.text (chooseLanguage asked expected.path)) verbose).1 =
            .ok ⟨outcome.verdict, outcome.output language verbose⟩ := by
        rw [(kept _).2, Session.compare_of_texts solid]
        exact congrArg (Except.map (Session.reportOf language verbose)) compared
      rw [run_of_ofWords comparing, ← (kept expected.path).1]
      exact runCompare_of_report readE readA answered
    · cases compared : answer with
      | ok outcome => exact ⟨outcome, rfl⟩
      | error f =>
        obtain ⟨refusal, refuses, -⟩ := Session.compareTexts_eq_error_iff.mp compared
        exact (Session.not_refuses_of_accepts accepts refusal refuses).elim
  · intro words file asked allNodes t inspecting readF language parsed
    rw [run_of_ofWords inspecting]
    have cases := runInspect_cases complete readF asked allNodes
    refine ⟨cases, fun accepts b => ?_⟩
    rcases cases with ⟨_, _, _, _, ends⟩ | ⟨_, _, ends⟩ | ⟨refusal, refuses, -⟩
    · rw [Invocation.run, ends]
      exact nofun
    · rw [Invocation.run, ends]
      exact nofun
    · exact (Session.not_refuses_of_accepts accepts refusal refuses).elim
  · intro expected actual x y readE readA s language cause
    have encodableX := Operand.encodable_of_source readE
    have encodableY := Operand.encodable_of_source readA
    refine ⟨Session.not_ofEncoding_of_parseText encodableX, ?_⟩
    intro words
    rcases Session.parseText_of_words words with failed | failed
    · exact Session.not_ofEncoding_of_parseText encodableX failed
    · exact Session.not_ofEncoding_of_parseText encodableY failed

def twoNames : Reader := fun p =>
  .ok (if p = .ofText "a.py" then Utf8.encodeOne 'x' else Utf8.encodeOne 'y')

theorem treesComplete_singleName : Session.singleName.TreesComplete := by
  intro grammar bytes root parsed scope
  obtain rfl := Except.ok.inj parsed
  rw [Node.isComplete, Node.visits_eq, Node.visitsByRecursion_eq, Node.childrenIn_whole,
    List.flatMap_singleton, Node.visitsByRecursion_eq, Node.childrenIn_whole,
    List.flatMap_singleton, Node.visitsByRecursion_eq, Node.childrenIn_whole]
  cases scope <;> rfl

/-- Two names compared in a language for which there is no provider. -/
theorem commands_agree_unregistered :
    Session.singleName.TreesComplete ∧ Session.singleName.AcceptsGrammars ∧
      Operand.source (some "a.py") twoNames = .ok "x" ∧
      Operand.source (some "b.py") twoNames = .ok "y" ∧
      (∃ outcome, (Session.initial.compareTexts Session.singleName "x" "y" "cobol").1 =
        .ok outcome ∧ outcome.ByWords) ∧
      ((run Session.singleName twoNames ["inspect", "a.py", "--language=cobol"]).ending =
          .exit exitError ∨
        (run Session.singleName twoNames
          ["inspect", "--all", "b.py", "--language", "cobol"]).ending = .exit exitError) ∧
      ∀ b, (run Session.singleName twoNames ["inspect", "a.py", "--language=cobol"]).ending ≠
        .broken b := by
  have solid : ∃ c ∈ ("cobol" : Text), c.isBlank = false := ⟨'c', by decide, by decide⟩
  have decodedE : Utf8.decode (Utf8.encodeOne 'x') = .ok "x" := Utf8.decode_eq_ok_iff.mpr rfl
  have decodedA : Utf8.decode (Utf8.encodeOne 'y') = .ok "y" := Utf8.decode_eq_ok_iff.mpr rfl
  have readE : Operand.source (some "a.py") twoNames = .ok "x" :=
    Operand.source_eq_ok_iff.mpr ⟨_, _, _, rfl, rfl, decodedE, rfl⟩
  have readA : Operand.source (some "b.py") twoNames = .ok "y" :=
    Operand.source_eq_ok_iff.mpr ⟨_, _, _, rfl, rfl, decodedA, rfl⟩
  have unregistered : Session.initial.resolve Session.singleName "cobol" =
      (.error (.unregistered (.text "cobol")), Session.initial) :=
    Session.resolve_of_unregistered (by decide +kernel) (by decide +kernel)
  have words : ∃ outcome, (Session.initial.compareTexts Session.singleName "x" "y" "cobol").1 =
      .ok outcome ∧ outcome.ByWords := by
    rw [Session.compareTexts_eq, unregistered]
    exact ⟨_, rfl, _, _, _, rfl⟩
  have accepts : Session.singleName.AcceptsGrammars := fun _ => rfl
  obtain ⟨agree, shown, -⟩ := commands_agree Session.singleName treesComplete_singleName twoNames
  obtain ⟨fallback, -⟩ := agree ["compare", "a.py", "b.py", "--language", "cobol"]
    ["inspect", "a.py", "--language=cobol"] ["inspect", "--all", "b.py", "--language", "cobol"]
    (some "a.py") (some "b.py") "cobol" "x" "y" false false true solid (by decide) readE readA
    rfl rfl rfl ⟨_, rfl⟩ ⟨_, rfl⟩ ⟨_, rfl⟩
  obtain ⟨-, unbroken⟩ := shown ["inspect", "a.py", "--language=cobol"] (some "a.py")
    (some "cobol") false "x" rfl readE
  exact ⟨treesComplete_singleName, accepts, readE, readA, words, fallback.mp words,
    unbroken accepts⟩

/-- The standard providers, and a parser that takes each source for the call of one name
on another. -/
def singleCall : Environment where
  load := Modules.standard.load
  accept := fun _ => .ok ()
  parse := fun _ bytes =>
    let paren : UInt8 := 0x28
    let callee := bytes.takeWhile (· != paren)
    let arguments := bytes.dropWhile (· != paren)
    let argument := (arguments.drop 1).dropLast.filter (· != 0x20)
    .ok (.whole "module" bytes [.whole "expression_statement" bytes [.whole "call" bytes
      [.whole "identifier" callee [], .whole "argument_list" arguments
        [.whole "(" [paren] [], .whole "identifier" argument [], .whole ")" [0x29] []]]]])

def spacedCalls : Reader := fun p =>
  if p = .ofText "a.py" then .ok (("f( x )" : Text).flatMap Utf8.encodeOne)
  else if p = .ofText "b.py" ∨ p = .ofText "b.txt" then
    .ok (("f(x)" : Text).flatMap Utf8.encodeOne)
  else .error (.notFound p)

theorem source_spacedCalls_first : Operand.source (some "a.py") spacedCalls = .ok "f( x )" := by
  decide +kernel

theorem source_spacedCalls_second : Operand.source (some "b.py") spacedCalls = .ok "f(x)" := by
  decide +kernel

/-- A double hyphen is not blank, and yet the commands do not agree when it is given for the
language, since each goes by the path it is given first. The calls of these files are equal as
trees, while their words differ; and the second file has no outline. -/
theorem doubleHyphen_breaks_agreement :
    (∃ c ∈ doubleHyphen, c.isBlank = false) ∧
      Operand.source (some "a.py") spacedCalls = .ok "f( x )" ∧
      Operand.source (some "b.txt") spacedCalls = .ok "f(x)" ∧
      languageGiven? ["compare", "a.py", "b.txt", "--language=--"] = some doubleHyphen ∧
      languageGiven? ["inspect", "b.txt", "--language=--"] = some doubleHyphen ∧
      ("f( x )" : Text).compareWords "f(x)" = [Text.wordsDiffer] ∧
      run singleCall spacedCalls ["compare", "a.py", "b.txt", "--language=--"] =
        ⟨.exit exitEqual, .printLines ["Equal"], []⟩ ∧
      (run singleCall spacedCalls ["inspect", "b.txt", "--language=--"]).ending =
        .exit exitError :=
  ⟨⟨.ofChar '-', by decide, by decide⟩, source_spacedCalls_first, by decide +kernel, by decide,
    by decide, by decide +kernel, by decide +kernel, by decide +kernel⟩

end CommandLine

end SyntaxParity
