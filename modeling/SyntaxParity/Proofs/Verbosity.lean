import SyntaxParity.Proofs.CommandRuns
import SyntaxParity.Proofs.CommandWords
import SyntaxParity.Proofs.ComparisonAnswer

namespace SyntaxParity

theorem Text.printLines_append (lines lines' : List Text) :
    printLines (lines ++ lines') = printLines lines ++ printLines lines' :=
  List.flatMap_append

namespace Session

variable {env : Environment} {s : Session} {expected actual id : Argument}

/-- With and without a trace, a comparison fails for the same reason, or comes
to the same verdict, and leaves the same session; without, nothing is printed. -/
theorem compare_twins (env : Environment) (s : Session) (expected actual id : Argument) :
    (∃ f s', s.compare env expected actual id false = (.error f, s') ∧
      s.compare env expected actual id true = (.error f, s')) ∨
    (∃ verdict trace s', s.compare env expected actual id false = (.ok ⟨verdict, []⟩, s') ∧
      s.compare env expected actual id true = (.ok ⟨verdict, trace⟩, s')) := by
  unfold compare
  cases checkArguments expected actual id with
  | error m => exact .inl ⟨.misuse m, s, rfl, rfl⟩
  | ok texts =>
    obtain ⟨x, y, t⟩ := texts
    cases compared : s.compareTexts env x y t with
    | mk result s' =>
      cases result with
      | error f =>
        simp only [compared]
        exact .inl ⟨f, s', rfl, rfl⟩
      | ok outcome =>
        simp only [compared]
        exact .inr ⟨outcome.verdict, outcome.output t true, s', rfl, rfl⟩

theorem compare_trace_irrelevant (env : Environment) (s : Session) (expected actual id : Argument) :
    (s.compare env expected actual id true).2 = (s.compare env expected actual id false).2 ∧
      (s.compare env expected actual id true).1.map Report.verdict =
        (s.compare env expected actual id false).1.map Report.verdict ∧
      ∀ report, (s.compare env expected actual id false).1 = .ok report → report.output = [] := by
  rcases s.compare_twins env expected actual id with
    ⟨f, s', quietly, loudly⟩ | ⟨verdict, trace, s', quietly, loudly⟩
  · rw [quietly, loudly]
    exact ⟨rfl, rfl, nofun⟩
  · rw [quietly, loudly]
    refine ⟨rfl, rfl, ?_⟩
    intro report reported
    obtain rfl := Except.ok.inj reported
    rfl

section
variable {x y t : Text} (solid : ∃ c ∈ t, c.isBlank = false)
include solid

theorem traced_of_hasTrees {e a : Node} (trees : s.HasTrees env t x y e a) :
    (s.compare env (.text x) (.text y) (.text t) true).1 =
      .ok ⟨⟨(Pair.mk e a (.root rootName)).differences.map Difference.render⟩,
        .printLines ["Comparing syntax trees for " ++ t.quoted] ++
          (Pair.mk e a (.root rootName)).output true⟩ := by
  have header : (Outcome.trees ⟨e, a, .root rootName⟩).output t true = _ :=
    Text.printLines_append ["Comparing syntax trees for " ++ t.quoted] _
  rw [compare_of_texts solid, compareTexts_of_hasTrees trees, Except.map, reportOf, header]
  rfl

theorem traced_of_not_hasTrees (none : ∀ e a, ¬ s.HasTrees env t x y e a)
    (made : ∀ refusal, ¬ s.Refuses env t refusal) :
    ∃ cause, (s.compareTexts env x y t).1 = .ok (.words cause x y) ∧
      (s.compare env (.text x) (.text y) (.text t) true).1 =
        .ok ⟨⟨x.compareWords y⟩, .printLines
          [.concat ["AST comparison unavailable for ", t.quoted, ": ", cause.message],
           "Falling back to whitespace-collapsed string comparison"]⟩ := by
  obtain ⟨cause, words⟩ := compareTexts_of_not_hasTrees none made
  refine ⟨cause, words, ?_⟩
  rw [compare_of_texts solid, words]
  rfl

end

end Session

namespace CommandLine

/-- The run of a comparison with a trace ends as the one without does, and says the
same of errors. If there is an exit code, both files were read and compared, and the
banner and the trace of that comparison stand before what is printed without them. -/
theorem runCompare_trace (env : Environment) (read : Reader) (expected actual : Operand)
    (asked : Option Text) :
    let language := chooseLanguage asked expected.path
    let quiet := runCompare env read expected actual asked false
    let loud := runCompare env read expected actual asked true
    loud.ending = quiet.ending ∧ loud.errors = quiet.errors ∧
      ∀ code, quiet.ending = .exit code → ∃ x y report,
        expected.source read = .ok x ∧ actual.source read = .ok y ∧
          (Session.initial.compare env (.text x) (.text y) (.text language) true).1 = .ok report ∧
          loud.output = .printLines (banner expected.path actual.path language) ++ report.output ++
            quiet.output := by
  intro language quiet loud
  cases readE : expected.source read with
  | error b =>
    have hq : quiet = ⟨.broken b, [], []⟩ := runCompare_of_expected_unread readE
    have hl : loud = ⟨.broken b, [], []⟩ := runCompare_of_expected_unread readE
    rw [hq, hl]
    exact ⟨rfl, rfl, fun code exit => nomatch exit⟩
  | ok x =>
    cases readA : actual.source read with
    | error b =>
      have hq : quiet = ⟨.broken b, [], []⟩ := runCompare_of_actual_unread readE readA
      have hl : loud = ⟨.broken b, [], []⟩ := runCompare_of_actual_unread readE readA
      rw [hq, hl]
      exact ⟨rfl, rfl, fun code exit => nomatch exit⟩
    | ok y =>
      rcases Session.initial.compare_twins env (.text x) (.text y) (.text language) with
        ⟨f, s', quietly, loudly⟩ | ⟨verdict, trace, s', quietly, loudly⟩
      · have hq : quiet = _ := runCompare_of_failed readE readA (congrArg Prod.fst quietly)
        have hl : loud = _ := runCompare_of_failed readE readA (congrArg Prod.fst loudly)
        rw [hq, hl]
        exact ⟨rfl, rfl, fun code exit => nomatch exit⟩
      · have hq : quiet = _ := runCompare_of_report readE readA (congrArg Prod.fst quietly)
        have hl : loud = _ := runCompare_of_report readE readA (congrArg Prod.fst loudly)
        rw [hq, hl]
        refine ⟨rfl, rfl, ?_⟩
        intro code exit
        exact ⟨x, y, ⟨verdict, trace⟩, rfl, rfl, congrArg Prod.fst loudly, rfl⟩

/-- What asking for a trace changes, and what it leaves as it is. A comparison fails for the same
reason or comes to the same verdict, and leaves the same session. Nothing is printed unless a
trace is asked for. Then every comparison of texts under an id that is not blank has a report, for
which the parser is not refused. Where both texts have a tree, what it prints is a header and the
trace of the two trees, and where one has none, the line that tells why and the line that tells of
the comparison by words. Two command lines for one comparison, of which the second asks for its
trace, end alike and say the same of errors; where there is an exit code, the second prints a
banner and the trace, and then all that the first prints. Such a second command line is made by
adding the verbose switch at any place that takes a switch. -/
theorem verbosity_adds_trace (env : Environment) :
    (∀ (s : Session) (expected actual id : Argument),
      let quiet := s.compare env expected actual id false
      let loud := s.compare env expected actual id true
      loud.2 = quiet.2 ∧ loud.1.map Report.verdict = quiet.1.map Report.verdict ∧
      (∀ report, quiet.1 = .ok report → report.output = []) ∧
      (∀ x y t, expected = .text x → actual = .text y → id = .text t →
        (∃ c ∈ t, c.isBlank = false) →
        (∀ e a, s.HasTrees env t x y e a →
          loud.1 =
            .ok ⟨⟨(Pair.mk e a (.root Session.rootName)).differences.map Difference.render⟩,
              .printLines ["Comparing syntax trees for " ++ t.quoted] ++
                (Pair.mk e a (.root Session.rootName)).output true⟩) ∧
        ((∀ e a, ¬ s.HasTrees env t x y e a) → (∀ refusal, ¬ s.Refuses env t refusal) →
          ∃ cause, (s.compareTexts env x y t).1 = .ok (.words cause x y) ∧
            loud.1 =
              .ok ⟨⟨x.compareWords y⟩, .printLines
                [.concat ["AST comparison unavailable for ", t.quoted, ": ", cause.message],
                 "Falling back to whitespace-collapsed string comparison"]⟩) ∧
        (∀ refusal, s.Refuses env t refusal → loud.1 = .error (.parser refusal)))) ∧
    (∀ (read : Reader) (words words' : List Text) (expected actual : Operand)
        (asked : Option Text),
      Invocation.ofWords words = .ok (.compare expected actual asked false) →
      Invocation.ofWords words' = .ok (.compare expected actual asked true) →
      let language := chooseLanguage asked expected.path
      let quiet := run env read words
      let loud := run env read words'
      loud.ending = quiet.ending ∧ loud.errors = quiet.errors ∧
        ∀ code, quiet.ending = .exit code → ∃ x y report,
          expected.source read = .ok x ∧ actual.source read = .ok y ∧
            (Session.initial.compare env (.text x) (.text y) (.text language) true).1 =
              .ok report ∧
            loud.output = .printLines (banner expected.path actual.path language) ++
              report.output ++ quiet.output) ∧
    (∀ (words : List Text) (expected actual : Operand) (asked : Option Text),
      Invocation.ofWords words = .ok (.compare expected actual asked false) →
      ∃ rest, words = Command.compare.name :: rest ∧
        ∀ before after, rest = before ++ after → TakesSwitch .compare before after →
          Invocation.ofWords (Command.compare.name :: (before ++ ("--verbose" : Text) :: after)) =
            .ok (.compare expected actual asked true)) := by
  refine ⟨?_, ?_, ?_⟩
  · intro s expected actual id quiet loud
    obtain ⟨session, verdict, silent⟩ := s.compare_trace_irrelevant env expected actual id
    refine ⟨session, verdict, silent, ?_⟩
    rintro x y t rfl rfl rfl solid
    exact ⟨fun e a => Session.traced_of_hasTrees solid, Session.traced_of_not_hasTrees solid,
      fun refusal refuses =>
        (Session.compare_texts_eq_error_iff solid).mpr ⟨refusal, refuses, rfl⟩⟩
  · intro read words words' expected actual asked quietly loudly
    rw [run_of_ofWords quietly, run_of_ofWords loudly]
    exact runCompare_trace env read expected actual asked
  · intro words expected actual asked quietly
    obtain ⟨c, rest, r, named, -, -, same⟩ := Invocation.ofWords_eq_ok_iff.mp quietly
    cases c with
    | compare =>
      refine ⟨rest, named, ?_⟩
      rintro before after rfl place
      exact Invocation.ofWords_insert place (named ▸ quietly)
    | inspect => cases same
    | languages => cases same

end CommandLine

end SyntaxParity
