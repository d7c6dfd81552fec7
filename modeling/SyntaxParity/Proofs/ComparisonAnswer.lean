import SyntaxParity.Proofs.Equivalence

namespace SyntaxParity

def Argument.IsText (a : Argument) : Prop :=
  ∃ t, a = .text t

/-- The refusals of a comparison: of the first argument that is no text, and of
an id of blanks once all three are texts. -/
inductive Refused (expected actual id : Argument) : Misuse → Prop where
  | expected (h : ¬ expected.IsText) :
    Refused expected actual id (.notText "expected" expected.typeName)
  | actual (h : expected.IsText) (h' : ¬ actual.IsText) :
    Refused expected actual id (.notText "actual" actual.typeName)
  | language (h : expected.IsText) (h' : actual.IsText) (h'' : ¬ id.IsText) :
    Refused expected actual id (.notText "language_id" id.typeName)
  | blank {t : Text} (h : expected.IsText) (h' : actual.IsText) (h'' : id = .text t)
    (blank : ∀ c ∈ t, c.isBlank = true) :
    Refused expected actual id .blankLanguage

namespace Text

end Text

namespace Session

theorem checkArguments_expected {expected : Argument} (actual id : Argument)
    (h : ¬ expected.IsText) :
    checkArguments expected actual id = .error (.notText "expected" expected.typeName) := by
  cases expected with
  | text e => exact (h ⟨e, rfl⟩).elim
  | bytes b => rfl
  | other typeName => rfl

theorem checkArguments_actual {actual : Argument} (e : Text) (id : Argument)
    (h : ¬ actual.IsText) :
    checkArguments (.text e) actual id = .error (.notText "actual" actual.typeName) := by
  cases actual with
  | text a => exact (h ⟨a, rfl⟩).elim
  | bytes b => rfl
  | other typeName => rfl

theorem checkArguments_id {id : Argument} (e a : Text) (h : ¬ id.IsText) :
    checkArguments (.text e) (.text a) id = .error (.notText "language_id" id.typeName) := by
  cases id with
  | text t => exact (h ⟨t, rfl⟩).elim
  | bytes b => rfl
  | other typeName => rfl

theorem checkArguments_texts {e a t : Text} :
    checkArguments (.text e) (.text a) (.text t) =
      if t.trim = [] then .error .blankLanguage else .ok (e, a, t) := by
  simp [checkArguments]

/-- The checks refuse what is to be refused, for the reason that comes first. -/
theorem checkArguments_eq_error_iff {expected actual id : Argument} {m : Misuse} :
    checkArguments expected actual id = .error m ↔ Refused expected actual id m := by
  constructor
  · intro refused
    by_cases he : expected.IsText
    · by_cases ha : actual.IsText
      · by_cases hi : id.IsText
        · obtain ⟨e, rfl⟩ := he
          obtain ⟨a, rfl⟩ := ha
          obtain ⟨t, rfl⟩ := hi
          rw [checkArguments_texts] at refused
          split at refused
          · next none =>
            obtain rfl := Except.error.inj refused
            exact .blank ⟨e, rfl⟩ ⟨a, rfl⟩ rfl (Text.trim_eq_nil_iff.mp none)
          · cases refused
        · obtain ⟨e, rfl⟩ := he
          obtain ⟨a, rfl⟩ := ha
          rw [checkArguments_id e a hi] at refused
          obtain rfl := Except.error.inj refused
          exact .language ⟨e, rfl⟩ ⟨a, rfl⟩ hi
      · obtain ⟨e, rfl⟩ := he
        rw [checkArguments_actual e id ha] at refused
        obtain rfl := Except.error.inj refused
        exact .actual ⟨e, rfl⟩ ha
    · rw [checkArguments_expected actual id he] at refused
      obtain rfl := Except.error.inj refused
      exact .expected he
  · intro refused
    cases refused with
    | expected he => exact checkArguments_expected actual id he
    | actual he ha =>
      obtain ⟨e, rfl⟩ := he
      exact checkArguments_actual e id ha
    | language he ha hi =>
      obtain ⟨e, rfl⟩ := he
      obtain ⟨a, rfl⟩ := ha
      exact checkArguments_id e a hi
    | blank he ha hi blank =>
      obtain ⟨e, rfl⟩ := he
      obtain ⟨a, rfl⟩ := ha
      rw [hi, checkArguments_texts, if_pos (Text.trim_eq_nil_iff.mpr blank)]

variable {env : Environment} {s : Session} {expected actual id : Argument} {verbose : Bool}

theorem compare_of_refused {m : Misuse} (refused : Refused expected actual id m) :
    s.compare env expected actual id verbose = (.error (.misuse m), s) := by
  rw [compare, checkArguments_eq_error_iff.mpr refused]

/-- A comparison of texts under an id that is not blank fails only for the lack of a parser. -/
theorem compare_texts_eq_error_iff {x y t : Text} (solid : ∃ c ∈ t, c.isBlank = false)
    {f : Failure} :
    (s.compare env (.text x) (.text y) (.text t) verbose).1 = .error f ↔
      ∃ refusal, s.Refuses env t refusal ∧ f = .parser refusal := by
  have failed : (s.compareTexts env x y t).1 = .error f ↔
      ∃ refusal, s.Refuses env t refusal ∧ f = .parser refusal := compareTexts_eq_error_iff
  rw [compare_of_texts solid, ← failed]
  cases (s.compareTexts env x y t).1 with
  | error f' => simp [Except.map]
  | ok outcome => simp [Except.map]

end Session

end SyntaxParity
