import SyntaxParity.Proofs.CommandAgreement
import SyntaxParity.Proofs.CommandOperands
import SyntaxParity.Proofs.ComparisonAnswer
import SyntaxParity.Proofs.Verbosity

/-!
How a comparison on the command line ends. The expected file is read before the actual
one, both are read before anything is printed, and a language of blanks is refused
after that. Every other comparison for which a parser is made ends with an exit code,
which tells the verdict, and with the lines of that verdict; an error of a grammar is
never what it ends with.
-/

namespace SyntaxParity.CommandLine

/-- The operand names a file that holds the UTF-8 form of a text, whose newlines are
those of `t` once they are unified. -/
def Operand.Holds (read : Reader) (operand : Operand) (t : Text) : Prop :=
  ∃ word bytes written, operand = some word ∧ read (.ofText word) = .ok bytes ∧
    Utf8.decode bytes = .ok written ∧ written.unifyNewlines = t

/-- Why an operand has no text: it is absent, its file cannot be read, or the bytes of its
file are not UTF-8. -/
inductive Operand.Fails (read : Reader) : Operand → Breakdown → Prop where
  | absent : Fails read none .absentOperand
  | unread {word : Text} {failure : ReadFailure} (h : read (.ofText word) = .error failure) :
    Fails read (some word) (.read failure)
  | malformed {word : Text} {bytes : Bytes} {m : Utf8.Malformed}
    (h : read (.ofText word) = .ok bytes) (h' : Utf8.decode bytes = .error m) :
    Fails read (some word) (.read (.malformed m))

namespace Operand

variable {read : Reader} {operand : Operand} {t : Text} {b : Breakdown}

theorem holds_iff : operand.Holds read t ↔ operand.source read = .ok t :=
  source_eq_ok_iff.symm

theorem fails_iff : operand.Fails read b ↔ operand.source read = .error b := by
  constructor
  · intro fails
    cases fails with
    | absent => rfl
    | unread h => rw [source, h]; rfl
    | malformed h h' => simp only [source, h, Except.bind, Bytes.sourceText, h']
  · intro h
    cases operand with
    | none =>
      obtain rfl := Except.error.inj h
      exact .absent
    | some word =>
      cases found : read (.ofText word) with
      | error failure =>
        rw [source, found] at h
        obtain rfl := Except.error.inj h
        exact .unread found
      | ok bytes =>
        cases decoded : Utf8.decode bytes with
        | error m =>
          simp only [source, found, Except.bind, Bytes.sourceText, decoded] at h
          obtain rfl := Except.error.inj h
          exact .malformed found decoded
        | ok written =>
          simp only [source, found, Except.bind, Bytes.sourceText, decoded] at h
          cases h

/-- An operand has a text unless it fails. -/
theorem exists_holds (sound : ∀ b, ¬ operand.Fails read b) : ∃ t, operand.Holds read t := by
  cases source : operand.source read with
  | error b => exact (sound b (fails_iff.mpr source)).elim
  | ok t => exact ⟨t, holds_iff.mpr source⟩

end Operand

theorem chooseLanguage_eq (asked : Option Text) (p : Path) :
    chooseLanguage asked p = if asked.getD [] = [] then p.language else asked.getD [] := by
  simp only [chooseLanguage, List.isEmpty_iff]

theorem verdictLines_of_equal {v : Verdict} (equal : v.isEqual = true) :
    verdictLines v = [("Equal" : Text)] := by
  rw [verdictLines, if_pos equal]

/-- A verdict of difference counts at least one. -/
theorem verdictLines_of_different {v : Verdict} (different : v.isEqual = false) :
    0 < v.differences.length ∧
      verdictLines v =
        [.concat ["Found ", .ofNat v.differences.length, " difference(s):"], v.report] := by
  have other : ¬ v.isEqual = true := by rw [different]; exact Bool.false_ne_true
  exact ⟨List.length_pos_iff.mpr (List.isEmpty_eq_false_iff.mp different),
    by rw [verdictLines, if_neg other]⟩

section
variable {env : Environment} {read : Reader} {expected actual : Operand} {asked : Option Text}
  {x y : Text} {verbose : Bool}

theorem runCompare_of_expected_fails {b : Breakdown} (fails : expected.Fails read b) :
    runCompare env read expected actual asked verbose = ⟨.broken b, [], []⟩ :=
  runCompare_of_expected_unread (Operand.fails_iff.mp fails)

theorem runCompare_of_actual_fails {b : Breakdown} (hx : expected.Holds read x)
    (fails : actual.Fails read b) :
    runCompare env read expected actual asked verbose = ⟨.broken b, [], []⟩ :=
  runCompare_of_actual_unread (Operand.holds_iff.mp hx) (Operand.fails_iff.mp fails)

/-- A comparison is refused for a language of blanks. -/
theorem runCompare_of_blank (hx : expected.Holds read x) (hy : actual.Holds read y)
    (blank : ∀ c ∈ chooseLanguage asked expected.path, c.isBlank = true) :
    (runCompare env read expected actual asked verbose).ending =
      .broken (.failed (.misuse .blankLanguage)) := by
  have refused : Session.initial.compare env (.text x) (.text y)
      (.text (chooseLanguage asked expected.path)) verbose =
        (.error (.misuse .blankLanguage), .initial) :=
    Session.compare_of_refused (.blank ⟨x, rfl⟩ ⟨y, rfl⟩ rfl blank)
  rw [runCompare_of_failed (Operand.holds_iff.mp hx) (Operand.holds_iff.mp hy)
    (congrArg Prod.fst refused)]

section
variable (solid : ∃ c ∈ chooseLanguage asked expected.path, c.isBlank = false)
include solid

/-- Under any other language, a comparison breaks off if the parser is refused. -/
theorem runCompare_of_refuses {refusal : ParserRefusal} (hx : expected.Holds read x)
    (hy : actual.Holds read y)
    (refuses : Session.initial.Refuses env (chooseLanguage asked expected.path) refusal) :
    (runCompare env read expected actual asked verbose).ending =
      .broken (.failed (.parser refusal)) := by
  have failed : (Session.initial.compare env (.text x) (.text y)
      (.text (chooseLanguage asked expected.path)) verbose).1 = .error (.parser refusal) :=
    (Session.compare_texts_eq_error_iff solid).mpr ⟨refusal, refuses, rfl⟩
  rw [runCompare_of_failed (Operand.holds_iff.mp hx) (Operand.holds_iff.mp hy) failed]

/-- Otherwise it ends with the exit code and the lines of its verdict. -/
theorem runCompare_of_solid (verbose : Bool) (hx : expected.Holds read x)
    (hy : actual.Holds read y)
    (made : ∀ refusal, ¬ Session.initial.Refuses env (chooseLanguage asked expected.path) refusal) :
    ∃ report above,
      (Session.initial.compare env (.text x) (.text y)
        (.text (chooseLanguage asked expected.path)) verbose).1 = .ok report ∧
      (verbose = false → above = []) ∧
      runCompare env read expected actual asked verbose =
        ⟨.exit (if report.verdict.isEqual then exitEqual else exitDifferent),
          .printLines (above ++ verdictLines report.verdict), []⟩ := by
  generalize chosen : chooseLanguage asked expected.path = language at solid made ⊢
  cases outcome : (Session.initial.compareTexts env x y language).1 with
  | error f =>
    obtain ⟨refusal, refuses, -⟩ := Session.compareTexts_eq_error_iff.mp outcome
    exact (made refusal refuses).elim
  | ok o =>
    have answered : (Session.initial.compare env (.text x) (.text y) (.text language) verbose).1 =
        .ok (Session.reportOf language verbose o) := by
      rw [Session.compare_of_texts solid, outcome, Except.map]
    have ends := runCompare_of_report (Operand.holds_iff.mp hx) (Operand.holds_iff.mp hy)
      (chosen.symm ▸ answered)
    cases verbose with
    | false => exact ⟨_, [], answered, fun _ => rfl, ends⟩
    | true =>
      refine ⟨_, banner expected.path actual.path language ++ o.trace language, answered, nofun, ?_⟩
      rw [ends, opening, if_pos rfl, chosen, Text.printLines_append, Text.printLines_append]
      rfl

end

/-- The ways in which a comparison of two texts ends. -/
theorem runCompare_ending_of_texts (env : Environment) (asked : Option Text) (verbose : Bool)
    (hx : expected.Holds read x) (hy : actual.Holds read y) :
    let language := chooseLanguage asked expected.path
    let ending := (runCompare env read expected actual asked verbose).ending
    ((∀ c ∈ language, c.isBlank = true) ∧ ending = .broken (.failed (.misuse .blankLanguage))) ∨
      (∃ c ∈ language, c.isBlank = false) ∧
        ((∃ refusal, Session.initial.Refuses env language refusal ∧
            ending = .broken (.failed (.parser refusal))) ∨
          (∀ refusal, ¬ Session.initial.Refuses env language refusal) ∧
            (ending = .exit exitEqual ∨ ending = .exit exitDifferent)) := by
  intro language ending
  by_cases blank : ∀ c ∈ language, c.isBlank = true
  · exact .inl ⟨blank, runCompare_of_blank hx hy blank⟩
  have solid : ∃ c ∈ language, c.isBlank = false := by simpa using blank
  refine .inr ⟨solid, ?_⟩
  by_cases refused : ∃ refusal, Session.initial.Refuses env language refusal
  · obtain ⟨refusal, refuses⟩ := refused
    exact .inl ⟨refusal, refuses, runCompare_of_refuses solid hx hy refuses⟩
  have made := not_exists.mp refused
  obtain ⟨report, above, -, -, ends⟩ := runCompare_of_solid solid verbose hx hy made
  have code : ending = .exit (if report.verdict.isEqual then exitEqual else exitDifferent) :=
    congrArg Transcript.ending ends
  refine .inr ⟨made, ?_⟩
  cases equal : report.verdict.isEqual with
  | true => exact .inl (by rw [code, equal]; rfl)
  | false => exact .inr (by rw [code, equal]; rfl)

theorem runCompare_refused_iff (hx : expected.Holds read x) (hy : actual.Holds read y) :
    (runCompare env read expected actual asked verbose).ending =
        .broken (.failed (.misuse .blankLanguage)) ↔
      ∀ c ∈ chooseLanguage asked expected.path, c.isBlank = true := by
  refine ⟨fun refused => ?_, runCompare_of_blank hx hy⟩
  rcases runCompare_ending_of_texts env asked verbose hx hy with
    ⟨blank, -⟩ | ⟨-, ⟨_, -, ends⟩ | ⟨-, ends | ends⟩⟩
  · exact blank
  all_goals cases ends.symm.trans refused

theorem runCompare_parser_iff (hx : expected.Holds read x) (hy : actual.Holds read y)
    (solid : ∃ c ∈ chooseLanguage asked expected.path, c.isBlank = false)
    {refusal : ParserRefusal} :
    (runCompare env read expected actual asked verbose).ending =
        .broken (.failed (.parser refusal)) ↔
      Session.initial.Refuses env (chooseLanguage asked expected.path) refusal := by
  refine ⟨fun refused => ?_, runCompare_of_refuses solid hx hy⟩
  rcases runCompare_ending_of_texts env asked verbose hx hy with
    ⟨-, ends⟩ | ⟨-, ⟨_, refuses, ends⟩ | ⟨-, ends | ends⟩⟩
  · cases ends.symm.trans refused
  · cases ends.symm.trans refused
    exact refuses
  all_goals cases ends.symm.trans refused

/-- The ways in which a comparison ends. -/
theorem runCompare_ending (env : Environment) (read : Reader) (expected actual : Operand)
    (asked : Option Text) (verbose : Bool) :
    let language := chooseLanguage asked expected.path
    let ending := (runCompare env read expected actual asked verbose).ending
    (∃ b, expected.Fails read b ∧ ending = .broken b) ∨
      (∃ b, actual.Fails read b ∧ ending = .broken b) ∨
      ending = .broken (.failed (.misuse .blankLanguage)) ∨
      (∃ refusal, Session.initial.Refuses env language refusal ∧
        ending = .broken (.failed (.parser refusal))) ∨
      ending = .exit exitEqual ∨ ending = .exit exitDifferent := by
  intro language ending
  by_cases failsE : ∃ b, expected.Fails read b
  · obtain ⟨b, fails⟩ := failsE
    exact .inl ⟨b, fails, congrArg Transcript.ending (runCompare_of_expected_fails fails)⟩
  obtain ⟨x, hx⟩ := Operand.exists_holds (not_exists.mp failsE)
  by_cases failsA : ∃ b, actual.Fails read b
  · obtain ⟨b, fails⟩ := failsA
    exact .inr (.inl ⟨b, fails, congrArg Transcript.ending (runCompare_of_actual_fails hx fails)⟩)
  obtain ⟨y, hy⟩ := Operand.exists_holds (not_exists.mp failsA)
  rcases runCompare_ending_of_texts env asked verbose hx hy with
    ⟨-, ends⟩ | ⟨-, refused | ⟨-, codes⟩⟩
  · exact .inr (.inr (.inl ends))
  · exact .inr (.inr (.inr (.inl refused)))
  · exact .inr (.inr (.inr (.inr codes)))

theorem breakdown_of_runCompare (env : Environment) (read : Reader) (expected actual : Operand)
    (asked : Option Text) (verbose : Bool) (b : Breakdown)
    (h : (runCompare env read expected actual asked verbose).ending = .broken b) :
    expected.Fails read b ∨ actual.Fails read b ∨ b = .failed (.misuse .blankLanguage) ∨
      ∃ refusal, Session.initial.Refuses env (chooseLanguage asked expected.path) refusal ∧
        b = .failed (.parser refusal) := by
  rcases runCompare_ending env read expected actual asked verbose with
    ⟨b', fails, ends⟩ | ⟨b', fails, ends⟩ | ends | ⟨refusal, refuses, ends⟩ | ends | ends <;>
    rw [ends] at h
  · obtain rfl := Ending.broken.inj h
    exact .inl fails
  · obtain rfl := Ending.broken.inj h
    exact .inr (.inl fails)
  · exact .inr (.inr (.inl (Ending.broken.inj h).symm))
  · exact .inr (.inr (.inr ⟨refusal, refuses, (Ending.broken.inj h).symm⟩))
  · cases h
  · cases h

theorem Operand.Fails.ne_failed {operand : Operand} {b : Breakdown} (fails : operand.Fails read b)
    (f : Failure) : b ≠ .failed f := by
  cases fails <;> exact nofun

theorem runCompare_ne_exitError (env : Environment) (read : Reader) (expected actual : Operand)
    (asked : Option Text) (verbose : Bool) :
    (runCompare env read expected actual asked verbose).ending ≠ .exit exitError := by
  rcases runCompare_ending env read expected actual asked verbose with
    ⟨_, _, ends⟩ | ⟨_, _, ends⟩ | ends | ⟨_, _, ends⟩ | ends | ends <;> rw [ends] <;> exact nofun

end

/-- The language of a comparison is the value given last, unless it is empty or a double hyphen,
and else the one that the expected path tells. -/
theorem chooseLanguage_of_words {words : List Text} {expected actual : Operand}
    {asked : Option Text} {verbose : Bool}
    (asks : Invocation.ofWords words = .ok (.compare expected actual asked verbose)) :
    chooseLanguage asked expected.path =
      match languageGiven? words with
      | none => expected.path.language
      | some value =>
        if value = [] ∨ value = doubleHyphen then expected.path.language else value := by
  rw [asked_of_compare asks, chooseLanguage_eq]
  cases languageGiven? words with
  | none => rfl
  | some value =>
    by_cases dropped : value = doubleHyphen
    · simp [valueOf, dropped]
    · simp [valueOf, dropped]

/-- How a comparison on the command line ends whose actual operand is not dropped. It breaks off,
with nothing printed, where the expected file has no text, and else where the actual one has
none. With both texts, it breaks off if the language is blank; the language is the value that is
given for it last, or, if none is, or an empty one or a double hyphen, the one that the expected
path tells. Under any other language it breaks off if the parser is refused, and only then;
otherwise it ends with the exit code of equality and the line of equality if the two texts compare
equal, and else with the exit code of difference, the number of differences and their report. An
error of a grammar is never what it ends with, and the expected operand is never absent. -/
theorem comparison_ends (env : Environment) (read : Reader) (words : List Text)
    (expected : Operand) (actual : Text) (asked : Option Text) (verbose : Bool)
    (asks : Invocation.ofWords words = .ok (.compare expected (some actual) asked verbose)) :
    let language := match languageGiven? words with
      | none => expected.path.language
      | some value =>
        if value = [] ∨ value = doubleHyphen then expected.path.language else value
    let transcript := run env read words
    (∃ word, expected = some word) ∧
    (∀ b, expected.Fails read b → transcript = ⟨.broken b, [], []⟩) ∧
    ((∀ b, ¬ expected.Fails read b) → ∃ x, expected.Holds read x ∧
      (∀ b, Operand.Fails read (some actual) b → transcript = ⟨.broken b, [], []⟩) ∧
      ((∀ b, ¬ Operand.Fails read (some actual) b) → ∃ y, Operand.Holds read (some actual) y ∧
        (transcript.ending = .broken (.failed (.misuse .blankLanguage)) ↔
          ∀ c ∈ language, c.isBlank = true) ∧
        ((∃ c ∈ language, c.isBlank = false) →
          (∀ refusal, transcript.ending = .broken (.failed (.parser refusal)) ↔
            Session.initial.Refuses env language refusal) ∧
          ((∀ refusal, ¬ Session.initial.Refuses env language refusal) → ∃ report above,
            (Session.initial.compare env (.text x) (.text y) (.text language) verbose).1 =
                .ok report ∧
              (verbose = false → above = []) ∧
              (report.verdict.isEqual = true →
                transcript =
                  ⟨.exit exitEqual, .printLines (above ++ [("Equal" : Text)]), []⟩) ∧
              (report.verdict.isEqual = false →
                0 < report.verdict.differences.length ∧
                transcript = ⟨.exit exitDifferent, .printLines (above ++
                  [.concat
                    ["Found ", .ofNat report.verdict.differences.length, " difference(s):"],
                   report.verdict.report]), []⟩))))) ∧
    (∀ b, transcript.ending = .broken b →
      expected.Fails read b ∨ Operand.Fails read (some actual) b ∨
        b = .failed (.misuse .blankLanguage) ∨
        ∃ refusal, Session.initial.Refuses env language refusal ∧ b = .failed (.parser refusal)) ∧
    (∀ e, transcript.ending ≠ .broken (.failed (.grammar e))) ∧
    (env.AcceptsGrammars → ∀ refusal, transcript.ending ≠ .broken (.failed (.parser refusal))) ∧
    transcript.ending ≠ .exit exitError := by
  rw [run_of_ofWords asks, ← chooseLanguage_of_words asks]
  have breaks := breakdown_of_runCompare env read expected (some actual) asked verbose
  refine ⟨(given_of_ofWords asks).1, fun b => runCompare_of_expected_fails, ?_, breaks, ?_, ?_,
    runCompare_ne_exitError env read expected (some actual) asked verbose⟩
  · intro sound
    obtain ⟨x, hx⟩ := Operand.exists_holds sound
    refine ⟨x, hx, fun b => runCompare_of_actual_fails hx, ?_⟩
    intro sound
    obtain ⟨y, hy⟩ := Operand.exists_holds sound
    refine ⟨y, hy, runCompare_refused_iff hx hy, ?_⟩
    intro solid
    refine ⟨fun refusal => runCompare_parser_iff hx hy solid, ?_⟩
    intro made
    obtain ⟨report, above, reported, quiet, ends⟩ := runCompare_of_solid solid verbose hx hy made
    refine ⟨report, above, reported, quiet, ?_, ?_⟩
    · intro equal
      rw [Invocation.run, ends, verdictLines_of_equal equal, if_pos equal]
    · intro different
      obtain ⟨some, lines⟩ := verdictLines_of_different different
      refine ⟨some, ?_⟩
      rw [Invocation.run, ends, lines, different]
      rfl
  · intro e broken
    rcases breaks _ broken with fails | fails | other | ⟨refusal, -, other⟩
    · exact fails.ne_failed _ rfl
    · exact fails.ne_failed _ rfl
    · cases other
    · cases other
  · intro accepts refusal broken
    rcases breaks _ broken with fails | fails | other | ⟨refusal', refuses, -⟩
    · exact fails.ne_failed _ rfl
    · exact fails.ne_failed _ rfl
    · cases other
    · exact Session.not_refuses_of_accepts accepts refusal' refuses

/-- A double hyphen that is given as the language counts for none: the calls are equal as
those of the language that the path tells, while their words differ. One that is given as
the actual path is dropped, although there is no file of this name. -/
theorem comparison_drops_doubleHyphen :
    Operand.Holds spacedCalls (some "a.py") "f( x )" ∧
      Operand.Holds spacedCalls (some "b.py") "f(x)" ∧
      (Session.initial.compare singleCall (.text "f( x )") (.text "f(x)") (.text doubleHyphen)
        false).1 = .ok ⟨⟨[Text.wordsDiffer]⟩, []⟩ ∧
      run singleCall spacedCalls ["compare", "a.py", "b.py", "--language=--"] =
        ⟨.exit exitEqual, .printLines ["Equal"], []⟩ ∧
      Operand.Fails spacedCalls (some doubleHyphen) (.read (.notFound (.ofText doubleHyphen))) ∧
      run singleCall spacedCalls ["compare", "--", "a.py", "--"] =
        ⟨.broken .absentOperand, [], []⟩ :=
  ⟨Operand.holds_iff.mpr source_spacedCalls_first,
    Operand.holds_iff.mpr source_spacedCalls_second, by decide +kernel, by decide +kernel,
    .unread rfl, by decide +kernel⟩

/-- The two calls are equal, whether the language is given by an empty word or not at
all, and a file that is missing is what its comparison ends with. -/
theorem comparison_ends_calls :
    singleCall.AcceptsGrammars ∧
      Invocation.ofWords ["compare", "a.py", "--language=", "b.py"] =
        .ok (.compare (some "a.py") (some "b.py") (some []) false) ∧
      (run singleCall spacedCalls ["compare", "a.py", "--language=", "b.py"]).ending =
        .exit exitEqual ∧
      Invocation.ofWords ["compare", "--verbose", "a.py", "c.py"] =
        .ok (.compare (some "a.py") (some "c.py") none true) ∧
      run singleCall spacedCalls ["compare", "--verbose", "a.py", "c.py"] =
        ⟨.broken (.read (.notFound (.ofText "c.py"))), [], []⟩ := by
  have accepts : singleCall.AcceptsGrammars := fun _ => rfl
  have first := source_spacedCalls_first
  have second := source_spacedCalls_second
  have sound {operand : Operand} {t : Text} (h : operand.source spacedCalls = .ok t)
      (b : Breakdown) : ¬ operand.Fails spacedCalls b :=
    fun fails => nomatch h.symm.trans (Operand.fails_iff.mp fails)
  refine ⟨accepts, rfl, ?_, rfl, ?_⟩
  · obtain ⟨-, -, both, -⟩ := comparison_ends singleCall spacedCalls
      ["compare", "a.py", "--language=", "b.py"] (some "a.py") "b.py" (some []) false rfl
    obtain ⟨x, holdsX, -, other⟩ := both (sound first)
    obtain ⟨y, holdsY, -, answered⟩ := other (sound second)
    obtain rfl : x = "f( x )" := Except.ok.inj ((Operand.holds_iff.mp holdsX).symm.trans first)
    obtain rfl : y = "f(x)" := Except.ok.inj ((Operand.holds_iff.mp holdsY).symm.trans second)
    obtain ⟨-, ends⟩ := answered ⟨'p', by decide, by decide⟩
    obtain ⟨report, above, reported, -, equal, -⟩ :=
      ends fun refusal => Session.not_refuses_of_accepts accepts refusal
    have verdict : (Session.initial.compare singleCall (.text "f( x )") (.text "f(x)")
        (.text "python") false).1 = .ok ⟨⟨[]⟩, []⟩ := by
      decide +kernel
    obtain rfl := Except.ok.inj (reported.symm.trans verdict)
    rw [equal rfl]
  · obtain ⟨-, -, both, -⟩ := comparison_ends singleCall spacedCalls
      ["compare", "--verbose", "a.py", "c.py"] (some "a.py") "c.py" none true rfl
    obtain ⟨x, -, broken, -⟩ := both (sound first)
    exact broken _ (.unread rfl)

end SyntaxParity.CommandLine
