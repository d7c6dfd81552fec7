import SyntaxParity.CommandLine.Transcript
import SyntaxParity.Proofs.Decoding

namespace SyntaxParity.CommandLine

theorem run_of_ofWords {env : Environment} {read : Reader} {words : List Text}
    {invocation : Invocation} (h : Invocation.ofWords words = .ok invocation) :
    run env read words = invocation.run env read := by
  rw [run, h]

variable {env : Environment} {read : Reader} {expected actual file : Operand}
  {asked : Option Text} {x y t : Text} {verbose allNodes : Bool}

def opening (expected actual : Operand) (asked : Option Text) (verbose : Bool) : Text :=
  if verbose then
    .printLines (banner expected.path actual.path (chooseLanguage asked expected.path))
  else []

theorem runCompare_of_expected_unread {b : Breakdown} (h : expected.source read = .error b) :
    runCompare env read expected actual asked verbose = ⟨.broken b, [], []⟩ := by
  simp only [runCompare, h]

theorem runCompare_of_actual_unread {b : Breakdown} (hx : expected.source read = .ok x)
    (h : actual.source read = .error b) :
    runCompare env read expected actual asked verbose = ⟨.broken b, [], []⟩ := by
  simp only [runCompare, hx, h]

theorem runCompare_of_failed {f : Failure} (hx : expected.source read = .ok x)
    (hy : actual.source read = .ok y)
    (h : (Session.initial.compare env (.text x) (.text y)
      (.text (chooseLanguage asked expected.path)) verbose).1 = .error f) :
    runCompare env read expected actual asked verbose =
      ⟨.broken (.failed f), opening expected actual asked verbose, []⟩ := by
  simp only [runCompare, hx, hy, h, opening]

theorem runCompare_of_report {report : Report} (hx : expected.source read = .ok x)
    (hy : actual.source read = .ok y)
    (h : (Session.initial.compare env (.text x) (.text y)
      (.text (chooseLanguage asked expected.path)) verbose).1 = .ok report) :
    runCompare env read expected actual asked verbose =
      ⟨.exit (if report.verdict.isEqual then exitEqual else exitDifferent),
        opening expected actual asked verbose ++ report.output ++
          .printLines (verdictLines report.verdict), []⟩ := by
  simp only [runCompare, hx, hy, h, opening]

theorem runInspect_of_error {e : GrammarError} (h : file.source read = .ok t)
    (failed : (Session.initial.parseText env t (chooseLanguage asked file.path)).1 =
      .error (.grammar e)) :
    runInspect env read file asked allNodes =
      ⟨.exit exitError, [], .printLines [.concat
        ["Tree-sitter not supported for language: ", chooseLanguage asked file.path, " (",
         e.message, ")"]]⟩ := by
  simp only [runInspect, h, failed]

/-- Of the failures of a parse, an error of a grammar is answered, and by any other the run is
broken off. -/
theorem runInspect_of_failed {f : Failure} (h : file.source read = .ok t)
    (failed : (Session.initial.parseText env t (chooseLanguage asked file.path)).1 = .error f)
    (other : ∀ e, f ≠ .grammar e) :
    runInspect env read file asked allNodes = ⟨.broken (.failed f), [], []⟩ := by
  cases f with
  | grammar e => exact (other e rfl).elim
  | misuse _ | parser _ | incomplete _ => simp only [runInspect, h, failed]

theorem runInspect_of_incomplete {root : Node} {c : MissingChild} (h : file.source read = .ok t)
    (parsed : (Session.initial.parseText env t (chooseLanguage asked file.path)).1 = .ok root)
    (missing : root.outline (if allNodes then .all else .named) = .error c) :
    runInspect env read file asked allNodes = ⟨.broken (.failed (.incomplete c)), [], []⟩ := by
  simp only [runInspect, h, parsed, missing]

theorem runInspect_of_outline {root : Node} {outline : Text} (h : file.source read = .ok t)
    (parsed : (Session.initial.parseText env t (chooseLanguage asked file.path)).1 = .ok root)
    (drawn : root.outline (if allNodes then .all else .named) = .ok outline) :
    runInspect env read file asked allNodes = ⟨.exit exitEqual, .printLines [outline], []⟩ := by
  simp only [runInspect, h, parsed, drawn]

/-- Of the files that can be read, those for which there is the exit code of an error are the
ones whose parse ends in an error of a grammar. -/
theorem runInspect_exitError_iff (h : file.source read = .ok t) :
    (runInspect env read file asked allNodes).ending = .exit exitError ↔
      ∃ e, (Session.initial.parseText env t (chooseLanguage asked file.path)).1 =
        .error (.grammar e) := by
  constructor
  · intro exit
    cases parsed : (Session.initial.parseText env t (chooseLanguage asked file.path)).1 with
    | error f =>
      by_cases grammar : ∃ e, f = .grammar e
      · obtain ⟨e, rfl⟩ := grammar
        exact ⟨e, rfl⟩
      · rw [runInspect_of_failed h parsed (not_exists.mp grammar)] at exit
        cases exit
    | ok root =>
      cases drawn : root.outline (if allNodes then .all else .named) with
      | error c =>
        rw [runInspect_of_incomplete h parsed drawn] at exit
        cases exit
      | ok outline =>
        rw [runInspect_of_outline h parsed drawn] at exit
        cases exit
  · rintro ⟨e, failed⟩
    rw [runInspect_of_error h failed]

end SyntaxParity.CommandLine
