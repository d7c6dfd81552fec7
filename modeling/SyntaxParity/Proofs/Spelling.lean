import SyntaxParity.Proofs.ComparisonAnswer
import SyntaxParity.Proofs.Equivalence
import SyntaxParity.Proofs.Lowercase
import SyntaxParity.Session.Run

namespace SyntaxParity

namespace Text

/-- The text `t'` is the text `t` with any of its ASCII letters in the other case and
with blanks added at its ends. -/
def Respelled (t t' : Text) : Prop :=
  ∃ lead core trail : Text, t' = lead ++ (core ++ trail) ∧
    (∀ c ∈ lead, c.isBlank = true) ∧ (∀ c ∈ trail, c.isBlank = true) ∧
    core.asciiLower = t.asciiLower

theorem Respelled.trim_eq {t t' : Text} (h : t.Respelled t') :
    t'.trim.asciiLower = t.trim.asciiLower := by
  obtain ⟨lead, core, trail, rfl, leadBlank, trailBlank, same⟩ := h
  rw [trim_padded leadBlank trailBlank, ← trim_asciiLower, same, trim_asciiLower]

theorem Respelled.trim_eq_nil_iff {t t' : Text} (h : t.Respelled t') :
    t'.trim = [] ↔ t.trim = [] := by
  have lengths := congrArg List.length h.trim_eq
  simp only [asciiLower, List.length_map] at lengths
  rw [← List.length_eq_zero_iff, lengths, List.length_eq_zero_iff]

/-- The spellings of a language id have one normal form. -/
theorem Respelled.languageKey_eq {t t' : Text} (h : t.Respelled t') :
    t'.languageKey = t.languageKey := by
  rw [languageKey, languageKey, ← lowercase_asciiLower, h.trim_eq, lowercase_asciiLower]

end Text

namespace Session

variable {env : Environment} {s : Session} {id id' : Text}

/-- Two ids of one normal form are resolved to one language, or fail with errors that
name one id, and leave the same session behind. -/
theorem resolve_of_languageKey_eq (env : Environment) (s : Session)
    (same : id'.languageKey = id.languageKey) :
    (s.resolve env id').1.mapError GrammarError.languageId =
        (s.resolve env id).1.mapError GrammarError.languageId ∧
      (s.resolve env id').2 = (s.resolve env id).2 := by
  have spec := resolution_of_resolve env s id
  generalize s.resolve env id = result at spec
  cases spec with
  | remembered cached =>
    rw [resolve_of_cached (same ▸ cached)]
    exact ⟨rfl, rfl⟩
  | @loaded language loads =>
    have again : s.Loads env id' language := by
      rw [Loads, same]
      exact loads
    rw [resolve_of_loads again, remember, remember, same]
    exact ⟨rfl, rfl⟩
  | unregistered fresh absent =>
    rw [resolve_of_unregistered (same ▸ fresh) (same ▸ absent)]
    exact ⟨congrArg (Except.error ∘ LanguageId.text) same, rfl⟩
  | unloadable fresh registered failed =>
    rw [resolve_of_unloadable (same ▸ fresh) (same ▸ registered) failed]
    exact ⟨congrArg (Except.error ∘ LanguageId.text) same, rfl⟩

theorem hasTrees_of_languageKey_eq (same : id'.languageKey = id.languageKey) :
    s.HasTrees env id' = s.HasTrees env id := by
  funext x y e a
  simp only [HasTrees, Resolves, Loads, same]

theorem refuses_of_languageKey_eq (same : id'.languageKey = id.languageKey) :
    s.Refuses env id' = s.Refuses env id := by
  funext refusal
  simp only [Refuses, Resolves, Loads, same]

/-- Texts are compared alike under two ids of one normal form, although an error of the
parser names the id as it was given. -/
theorem compareTexts_of_languageKey_eq (env : Environment) (s : Session)
    (same : id'.languageKey = id.languageKey) (x y : Text) :
    (s.compareTexts env x y id').1.map Outcome.verdict =
        (s.compareTexts env x y id).1.map Outcome.verdict ∧
      (s.compareTexts env x y id').2 = (s.compareTexts env x y id).2 := by
  have trees : s.HasTrees env id' = s.HasTrees env id := hasTrees_of_languageKey_eq same
  have refusals : s.Refuses env id' = s.Refuses env id := refuses_of_languageKey_eq same
  constructor
  · rcases compareTexts_cases env s x y id with
      ⟨refusal, refuses, refused⟩ | ⟨e, a, found, judged⟩ | ⟨made, none, cause, words⟩
    · rw [refused, compareTexts_of_refuses (refusals ▸ refuses)]
    · rw [judged, compareTexts_of_hasTrees (trees ▸ found)]
    · obtain ⟨cause', words'⟩ := compareTexts_of_not_hasTrees (trees ▸ none) (refusals ▸ made)
      rw [words, words']
      rfl
  · rw [compareTexts_snd, compareTexts_snd]
    exact (resolve_of_languageKey_eq env s same).2

/-- Any two sources are compared alike under two spellings of an id. An argument that is
refused is refused under both, and the spellings are both blank or neither is. -/
theorem compare_of_respelled (env : Environment) (s : Session) (h : id.Respelled id')
    (expected actual : Argument) (verbose : Bool) :
    (s.compare env expected actual (.text id') verbose).1.map Report.verdict =
        (s.compare env expected actual (.text id) verbose).1.map Report.verdict ∧
      (s.compare env expected actual (.text id') verbose).2 =
        (s.compare env expected actual (.text id) verbose).2 := by
  by_cases textE : expected.IsText
  · by_cases textA : actual.IsText
    · obtain ⟨x, rfl⟩ := textE
      obtain ⟨y, rfl⟩ := textA
      by_cases blank : id.trim = []
      · simp only [compare, checkArguments_texts, h.trim_eq_nil_iff, if_pos blank, and_self]
      · obtain ⟨verdicts, after⟩ := compareTexts_of_languageKey_eq env s h.languageKey_eq x y
        have solid : ∃ c ∈ id, c.isBlank = false := Text.trim_ne_nil_iff.mp blank
        have solid' : ∃ c ∈ id', c.isBlank = false :=
          Text.trim_ne_nil_iff.mp (mt h.trim_eq_nil_iff.mp blank)
        rw [compare_of_texts solid, compare_of_texts solid']
        exact ⟨by rw [map_verdict_reportOf, map_verdict_reportOf, verdicts], after⟩
    · obtain ⟨x, rfl⟩ := textE
      simp only [compare, checkArguments_actual x _ textA, and_self]
  · simp only [compare, checkArguments_expected actual _ textE, and_self]

/-- The spelling of a language id does not matter. In every session, with the case of
ASCII letters changed and with blanks added at the ends, an id is supported as before;
it is resolved to the same language, or fails with an error that names the same id; any
two sources are compared with the same verdict, or refused for the same reason; and each
of these requests leaves the same session behind. -/
theorem spelling_irrelevant (env : Environment) (s : Session) {id id' : Text}
    (respelled : id.Respelled id') :
    s.serve env (.supported (.text id')) = s.serve env (.supported (.text id)) ∧
    (s.resolve env id').1.mapError GrammarError.languageId =
      (s.resolve env id).1.mapError GrammarError.languageId ∧
    (s.resolve env id').2 = (s.resolve env id).2 ∧
    ∀ (expected actual : Argument) (verbose : Bool),
      (s.compare env expected actual (.text id') verbose).1.map Report.verdict =
        (s.compare env expected actual (.text id) verbose).1.map Report.verdict ∧
      (s.compare env expected actual (.text id') verbose).2 =
        (s.compare env expected actual (.text id) verbose).2 := by
  have same := respelled.languageKey_eq
  obtain ⟨results, after⟩ := resolve_of_languageKey_eq env s same
  refine ⟨?_, results, after, compare_of_respelled env s respelled⟩
  simp only [serve, Argument.languageId, Registry.supports, LanguageId.key, same]

/-- A registered id in mixed case, between a no-break space and an em space. -/
theorem spelling_irrelevant_mixedCase :
    ("python" : Text).Respelled "\u00a0PyThOn\u2003" ∧
      initial.serve singleName (.supported (.text "\u00a0PyThOn\u2003")) =
        initial.serve singleName (.supported (.text "python")) ∧
      (initial.resolve singleName "\u00a0PyThOn\u2003").1.mapError GrammarError.languageId =
        (initial.resolve singleName "python").1.mapError GrammarError.languageId ∧
      (initial.resolve singleName "\u00a0PyThOn\u2003").2 =
        (initial.resolve singleName "python").2 ∧
      (initial.compare singleName (.text "x") (.text "y") (.text "\u00a0PyThOn\u2003") true).1.map
          Report.verdict =
        (initial.compare singleName (.text "x") (.text "y") (.text "python") true).1.map
          Report.verdict ∧
      (initial.compare singleName (.text "x") (.text "y") (.text "\u00a0PyThOn\u2003") true).2 =
        (initial.compare singleName (.text "x") (.text "y") (.text "python") true).2 := by
  have respelled : ("python" : Text).Respelled "\u00a0PyThOn\u2003" :=
    ⟨"\u00a0", "PyThOn", "\u2003", by decide, by decide, by decide, by decide⟩
  obtain ⟨supported, results, after, compared⟩ :=
    spelling_irrelevant singleName initial respelled
  exact ⟨respelled, supported, results, after, compared (.text "x") (.text "y") true⟩

end Session

end SyntaxParity
