import SyntaxParity.Proofs.Encoding
import SyntaxParity.Session

/-!
What the resolution of a language id can come to, and what it does to the
session, said once for all requests that resolve one. A parse and a comparison
are then read off the language that was found.
-/

namespace SyntaxParity

/-- A parser can be made for every grammar. -/
def Environment.AcceptsGrammars (env : Environment) : Prop :=
  ∀ grammar, env.accept grammar = .ok ()

namespace Session

variable {env : Environment} {s : Session} {id : Text} {language : Language}

def remember (s : Session) (id : Text) (language : Language) : Session :=
  { s with cache := s.cache ++ [(id.languageKey, language)] }

/-- An id whose language is not remembered yet, and is loaded from its provider. -/
def Loads (env : Environment) (s : Session) (id : Text) (language : Language) : Prop :=
  s.cache.lookup id.languageKey = none ∧
    ∃ provider grammar, s.registry.get? id.languageKey = some provider ∧
      env.load provider = .ok grammar ∧ language = ⟨s.cache.length, grammar⟩

def Resolves (env : Environment) (s : Session) (id : Text) (language : Language) : Prop :=
  s.cache.lookup id.languageKey = some language ∨ s.Loads env id language

/-- The results of a resolution: the language is remembered, or it is loaded and
remembered from then on, or there is none and the session stays as it is. -/
inductive Resolution (env : Environment) (s : Session) (id : Text) :
    Except GrammarError Language × Session → Prop where
  | remembered {language : Language}
    (cached : s.cache.lookup id.languageKey = some language) :
    Resolution env s id (.ok language, s)
  | loaded {language : Language} (loads : s.Loads env id language) :
    Resolution env s id (.ok language, s.remember id language)
  | unregistered (fresh : s.cache.lookup id.languageKey = none)
    (absent : s.registry.get? id.languageKey = none) :
    Resolution env s id (.error (.unregistered (.text id)), s)
  | unloadable {provider : Provider} {cause : LoadFailure}
    (fresh : s.cache.lookup id.languageKey = none)
    (registered : s.registry.get? id.languageKey = some provider)
    (failed : env.load provider = .error cause) :
    Resolution env s id (.error (.unloadable provider id.languageKey cause), s)

theorem resolution_of_resolve (env : Environment) (s : Session) (id : Text) :
    Resolution env s id (s.resolve env id) := by
  unfold resolve
  simp only
  cases cached : s.cache.lookup id.languageKey with
  | some language => exact .remembered cached
  | none =>
    cases registered : s.registry.get? id.languageKey with
    | none => exact .unregistered cached registered
    | some provider =>
      cases load : env.load provider with
      | error cause =>
        simp only [load]
        exact .unloadable cached registered load
      | ok grammar =>
        simp only [load]
        exact .loaded ⟨cached, provider, grammar, registered, load, rfl⟩

theorem resolve_of_cached (cached : s.cache.lookup id.languageKey = some language) :
    s.resolve env id = (.ok language, s) := by
  simp [resolve, cached]

theorem resolve_of_loads (loads : s.Loads env id language) :
    s.resolve env id = (.ok language, s.remember id language) := by
  obtain ⟨fresh, provider, grammar, registered, load, rfl⟩ := loads
  simp [resolve, fresh, registered, load, remember]

theorem resolve_of_unregistered (fresh : s.cache.lookup id.languageKey = none)
    (absent : s.registry.get? id.languageKey = none) :
    s.resolve env id = (.error (.unregistered (.text id)), s) := by
  simp [resolve, fresh, absent]

theorem resolve_of_unloadable {provider : Provider} {cause : LoadFailure}
    (fresh : s.cache.lookup id.languageKey = none)
    (registered : s.registry.get? id.languageKey = some provider)
    (failed : env.load provider = .error cause) :
    s.resolve env id = (.error (.unloadable provider id.languageKey cause), s) := by
  simp [resolve, fresh, registered, failed]

/-- A resolution that succeeds finds a remembered language or loads one. -/
theorem resolves_iff : s.Resolves env id language ↔ (s.resolve env id).1 = .ok language := by
  constructor
  · rintro (cached | loads)
    · rw [resolve_of_cached cached]
    · rw [resolve_of_loads loads]
  · intro found
    have spec := resolution_of_resolve env s id
    generalize s.resolve env id = result at spec found
    cases spec with
    | remembered cached =>
      obtain rfl := Except.ok.inj found
      exact .inl cached
    | loaded loads =>
      obtain rfl := Except.ok.inj found
      exact .inr loads
    | unregistered => cases found
    | unloadable => cases found

theorem lookup_of_resolve {s' : Session} (h : s.resolve env id = (.ok language, s')) :
    s'.cache.lookup id.languageKey = some language := by
  have spec := resolution_of_resolve env s id
  rw [h] at spec
  cases spec with
  | remembered cached => exact cached
  | loaded loads => simp [remember, List.lookup_append, loads.1]

/-- An id that was resolved is resolved again to the same language, and nothing
changes. -/
theorem resolve_again {s' : Session} (h : s.resolve env id = (.ok language, s')) :
    s'.resolve env id = (.ok language, s') :=
  resolve_of_cached (lookup_of_resolve h)

/-- A text is parsed if it has a UTF-8 form and the parser takes that. -/
theorem parseIn_eq_ok_iff {source : Text} {root : Node} :
    parseIn env language id source = .ok root ↔
      source.Encodable ∧
        env.parse language.grammar (source.flatMap Utf8.encodeOne) = .ok root := by
  unfold parseIn
  cases encoded : Utf8.encode source with
  | error run =>
    have surrogate := Utf8.exists_encode_eq_error_iff.mp ⟨run, encoded⟩
    simp [surrogate]
  | ok bytes =>
    obtain ⟨encodable, rfl⟩ := Utf8.encode_eq_ok_iff.mp encoded
    cases parsed : env.parse language.grammar (source.flatMap Utf8.encodeOne) with
    | error reason => simp [parsed]
    | ok found => simp [parsed, encodable]

theorem resolveArgument_text (env : Environment) (s : Session) (id : Text) :
    s.resolveArgument env (.text id) =
      ((s.resolve env id).1.mapError .grammar, (s.resolve env id).2) := by
  unfold resolveArgument
  simp only [Argument.languageId]
  rcases s.resolve env id with ⟨result, s'⟩
  cases result with
  | error cause => rfl
  | ok language => rfl

/-- What is done with a language by a parser that is made for it first. -/
def underParser {α : Type} (env : Environment) (language : Language) (result : Except Failure α) :
    Except Failure α :=
  match env.accept language.grammar with
  | .error refusal => .error (.parser refusal)
  | .ok () => result

section
variable {α : Type} {result : Except Failure α} {refusal : ParserRefusal}

theorem underParser_of_accepts (accepts : env.accept language.grammar = .ok ()) :
    underParser env language result = result := by
  rw [underParser, accepts]

theorem underParser_of_refuses (refuses : env.accept language.grammar = .error refusal) :
    underParser env language result = .error (.parser refusal) := by
  rw [underParser, refuses]

end

/-- The result of a request whose id resolves to a language, and to which `answer` is the
answer if a parser is made for it. -/
def answerIn {α : Type} (env : Environment) (answer : Language → Except Failure α) :
    Except GrammarError Language → Except Failure α
  | .error cause => .error (.grammar cause)
  | .ok language => underParser env language (answer language)

theorem makeParser_text (env : Environment) (s : Session) (id : Text) :
    s.makeParser env (.text id) =
      (answerIn env .ok (s.resolve env id).1, (s.resolve env id).2) := by
  rw [makeParser, resolveArgument_text]
  rcases s.resolve env id with ⟨result, s'⟩
  cases result <;> rfl

theorem parseText_eq (env : Environment) (s : Session) (source id : Text) :
    s.parseText env source id =
      (answerIn env (fun language => (parseIn env language id source).mapError .grammar)
        (s.resolve env id).1, (s.resolve env id).2) := by
  rw [parseText, makeParser_text]
  rcases s.resolve env id with ⟨result, s'⟩
  cases result with
  | error cause => rfl
  | ok language =>
    simp only [answerIn, underParser]
    cases env.accept language.grammar <;> rfl

theorem parseText_of_accepts {s' : Session} (source : Text)
    (resolved : s.resolve env id = (.ok language, s'))
    (accepts : env.accept language.grammar = .ok ()) :
    s.parseText env source id = ((parseIn env language id source).mapError .grammar, s') := by
  rw [parseText_eq, resolved]
  simp only [answerIn, underParser_of_accepts accepts]

theorem parseText_of_refuses {s' : Session} {refusal : ParserRefusal} (source : Text)
    (resolved : s.resolve env id = (.ok language, s'))
    (refuses : env.accept language.grammar = .error refusal) :
    s.parseText env source id = (.error (.parser refusal), s') := by
  rw [parseText_eq, resolved]
  simp only [answerIn, underParser_of_refuses refuses]

def readIn (env : Environment) (language : Language) (id : Text) :
    Argument → Except Failure Node
  | .text t => (parseIn env language id t).mapError .grammar
  | _ => .error (.misuse .notEncodable)

theorem parse_text (env : Environment) (s : Session) (source : Argument) (id : Text) :
    s.parse env source (.text id) =
      (answerIn env (fun language => readIn env language id source) (s.resolve env id).1,
        (s.resolve env id).2) := by
  cases source with
  | text t => exact parseText_eq env s t id
  | bytes _ | other _ =>
    simp only [parse, makeParser_text]
    rcases s.resolve env id with ⟨result, s'⟩
    cases result with
    | error cause => rfl
    | ok language =>
      simp only [answerIn, underParser]
      cases env.accept language.grammar <;> rfl

def judged (env : Environment) (language : Language) (id expected actual : Text) : Outcome :=
  match parseIn env language id expected, parseIn env language id actual with
  | .ok e, .ok a => .trees ⟨e, a, .root rootName⟩
  | .error cause, _ => .words cause expected actual
  | .ok _, .error cause => .words cause expected actual

def compared (env : Environment) (id expected actual : Text) :
    Except GrammarError Language → Except Failure Outcome
  | .error cause => .ok (.words cause expected actual)
  | .ok language => underParser env language (.ok (judged env language id expected actual))

/-- A comparison resolves its id once, whatever happens to the two texts. -/
theorem compareTexts_eq (env : Environment) (s : Session) (expected actual id : Text) :
    s.compareTexts env expected actual id =
      (compared env id expected actual (s.resolve env id).1, (s.resolve env id).2) := by
  cases resolved : s.resolve env id with
  | mk result s' =>
    cases result with
    | error cause =>
      rw [compareTexts, parseText_eq, resolved]
      rfl
    | ok language =>
      have again := resolve_again resolved
      cases accepts : env.accept language.grammar with
      | error refusal =>
        rw [compareTexts, parseText_of_refuses expected resolved accepts, compared,
          underParser_of_refuses accepts]
      | ok _ =>
        rw [compareTexts, parseText_of_accepts expected resolved accepts, compared,
          underParser_of_accepts accepts, judged]
        cases parseIn env language id expected with
        | error cause => rfl
        | ok e =>
          simp only [Except.mapError, parseText_of_accepts actual again accepts]
          cases parseIn env language id actual with
          | error cause => rfl
          | ok a => rfl

theorem compareTexts_snd (env : Environment) (s : Session) (expected actual id : Text) :
    (s.compareTexts env expected actual id).2 = (s.resolve env id).2 := by
  rw [compareTexts_eq]

/-- Two texts of which a parser makes the trees `e` and `a`, both with the
grammar that the id resolves to. -/
def HasTrees (env : Environment) (s : Session) (id expected actual : Text) (e a : Node) : Prop :=
  ∃ language, s.Resolves env id language ∧ env.accept language.grammar = .ok () ∧
    expected.Encodable ∧ actual.Encodable ∧
    env.parse language.grammar (expected.flatMap Utf8.encodeOne) = .ok e ∧
    env.parse language.grammar (actual.flatMap Utf8.encodeOne) = .ok a

/-- An id that resolves to a language for which no parser is made. -/
def Refuses (env : Environment) (s : Session) (id : Text) (refusal : ParserRefusal) : Prop :=
  ∃ language, s.Resolves env id language ∧ env.accept language.grammar = .error refusal

/-- A text has no language, or no parser is made for its language, or it is parsed. -/
theorem parseText_cases (env : Environment) (s : Session) (source id : Text) :
    (∃ cause, (s.resolve env id).1 = .error cause ∧
        (s.parseText env source id).1 = .error (.grammar cause)) ∨
      (∃ refusal, s.Refuses env id refusal ∧
        (s.parseText env source id).1 = .error (.parser refusal)) ∨
      ∃ language, s.Resolves env id language ∧
        (s.parseText env source id).1 = (parseIn env language id source).mapError .grammar := by
  rw [parseText_eq]
  cases resolved : (s.resolve env id).1 with
  | error cause => exact .inl ⟨cause, rfl, rfl⟩
  | ok language =>
    have resolves : s.Resolves env id language := resolves_iff.mpr resolved
    simp only [answerIn]
    cases accepts : env.accept language.grammar with
    | error refusal =>
      exact .inr (.inl ⟨refusal, ⟨language, resolves, accepts⟩, underParser_of_refuses accepts⟩)
    | ok _ => exact .inr (.inr ⟨language, resolves, underParser_of_accepts accepts⟩)

theorem not_refuses_of_accepts (accepts : env.AcceptsGrammars) (refusal : ParserRefusal) :
    ¬ s.Refuses env id refusal := by
  rintro ⟨language, -, refuses⟩
  cases (accepts language.grammar).symm.trans refuses

theorem compareTexts_of_hasTrees {expected actual : Text} {e a : Node}
    (h : s.HasTrees env id expected actual e a) :
    (s.compareTexts env expected actual id).1 = .ok (.trees ⟨e, a, .root rootName⟩) := by
  obtain ⟨language, resolves, accepts, encodableE, encodableA, parsedE, parsedA⟩ := h
  have readE : parseIn env language id expected = .ok e :=
    parseIn_eq_ok_iff.mpr ⟨encodableE, parsedE⟩
  have readA : parseIn env language id actual = .ok a :=
    parseIn_eq_ok_iff.mpr ⟨encodableA, parsedA⟩
  rw [compareTexts_eq, resolves_iff.mp resolves, compared, underParser_of_accepts accepts]
  simp only [judged, readE, readA]

theorem compareTexts_of_refuses {expected actual : Text} {refusal : ParserRefusal}
    (h : s.Refuses env id refusal) :
    (s.compareTexts env expected actual id).1 = .error (.parser refusal) := by
  obtain ⟨language, resolves, refuses⟩ := h
  rw [compareTexts_eq, resolves_iff.mp resolves, compared, underParser_of_refuses refuses]

theorem compareTexts_eq_error_iff {expected actual : Text} {f : Failure} :
    (s.compareTexts env expected actual id).1 = .error f ↔
      ∃ refusal, s.Refuses env id refusal ∧ f = .parser refusal := by
  constructor
  · rw [compareTexts_eq]
    cases resolved : (s.resolve env id).1 with
    | error cause => exact nofun
    | ok language =>
      rw [compared]
      cases accepts : env.accept language.grammar with
      | error refusal =>
        rw [underParser_of_refuses accepts]
        intro failed
        exact ⟨refusal, ⟨language, resolves_iff.mpr resolved, accepts⟩,
          (Except.error.inj failed).symm⟩
      | ok _ =>
        rw [underParser_of_accepts accepts]
        exact nofun
  · rintro ⟨refusal, refuses, rfl⟩
    exact compareTexts_of_refuses refuses

/-- Two texts of which one has no tree are compared by their words, unless it is a parser that
is missing. -/
theorem compareTexts_of_not_hasTrees {expected actual : Text}
    (h : ∀ e a, ¬ s.HasTrees env id expected actual e a)
    (made : ∀ refusal, ¬ s.Refuses env id refusal) :
    ∃ cause, (s.compareTexts env expected actual id).1 = .ok (.words cause expected actual) := by
  rw [compareTexts_eq]
  cases resolved : (s.resolve env id).1 with
  | error cause => exact ⟨cause, rfl⟩
  | ok language =>
    have resolves : s.Resolves env id language := resolves_iff.mpr resolved
    cases accepts : env.accept language.grammar with
    | error refusal => exact (made refusal ⟨language, resolves, accepts⟩).elim
    | ok _ =>
      rw [compared, underParser_of_accepts accepts, judged]
      cases readE : parseIn env language id expected with
      | error cause => exact ⟨cause, rfl⟩
      | ok e =>
        cases readA : parseIn env language id actual with
        | error cause => exact ⟨cause, rfl⟩
        | ok a =>
          obtain ⟨encodableE, parsedE⟩ := parseIn_eq_ok_iff.mp readE
          obtain ⟨encodableA, parsedA⟩ := parseIn_eq_ok_iff.mp readA
          exact (h e a
            ⟨language, resolves, accepts, encodableE, encodableA, parsedE, parsedA⟩).elim

/-- Two texts have no parser, or are compared by their trees if they have them, or else by
their words. -/
theorem compareTexts_cases (env : Environment) (s : Session) (expected actual id : Text) :
    (∃ refusal, s.Refuses env id refusal ∧
        (s.compareTexts env expected actual id).1 = .error (.parser refusal)) ∨
      (∃ e a, s.HasTrees env id expected actual e a ∧
        (s.compareTexts env expected actual id).1 = .ok (.trees ⟨e, a, .root rootName⟩)) ∨
      (∀ refusal, ¬ s.Refuses env id refusal) ∧
        (∀ e a, ¬ s.HasTrees env id expected actual e a) ∧
        ∃ cause, (s.compareTexts env expected actual id).1 =
          .ok (.words cause expected actual) := by
  by_cases refused : ∃ refusal, s.Refuses env id refusal
  · obtain ⟨refusal, refuses⟩ := refused
    exact .inl ⟨refusal, refuses, compareTexts_of_refuses refuses⟩
  have made := not_exists.mp refused
  by_cases trees : ∃ e a, s.HasTrees env id expected actual e a
  · obtain ⟨e, a, trees⟩ := trees
    exact .inr (.inl ⟨e, a, trees, compareTexts_of_hasTrees trees⟩)
  · have none : ∀ e a, ¬ s.HasTrees env id expected actual e a :=
      fun e a found => trees ⟨e, a, found⟩
    exact .inr (.inr ⟨made, none, compareTexts_of_not_hasTrees none made⟩)

theorem texts_of_checkArguments {expected actual id : Argument} {x y t : Text}
    (h : checkArguments expected actual id = .ok (x, y, t)) :
    expected = .text x ∧ actual = .text y ∧ id = .text t := by
  unfold checkArguments at h
  split at h
  · split at h
    · cases h
    · cases h
      exact ⟨rfl, rfl, rfl⟩
  · cases h
  · cases h
  · cases h

def reportOf (id : Text) (verbose : Bool) (o : Outcome) : Report :=
  ⟨o.verdict, o.output id verbose⟩

theorem map_verdict_reportOf (id : Text) (verbose : Bool) (r : Except Failure Outcome) :
    (r.map (reportOf id verbose)).map Report.verdict = r.map Outcome.verdict := by
  cases r <;> rfl

/-- A comparison of texts under an id that is not blank reports their outcome, if there is
one. -/
theorem compare_of_texts (solid : ∃ c ∈ id, c.isBlank = false) (x y : Text) (verbose : Bool) :
    s.compare env (.text x) (.text y) (.text id) verbose =
      ((s.compareTexts env x y id).1.map (reportOf id verbose),
        (s.compareTexts env x y id).2) := by
  have kept : id.trim.isEmpty = false :=
    List.isEmpty_eq_false_iff.mpr (Text.trim_ne_nil_iff.mpr solid)
  have checked : checkArguments (.text x) (.text y) (.text id) = .ok (x, y, id) := by
    simp [checkArguments, kept]
  rw [compare, checked]
  cases compared : s.compareTexts env x y id with
  | mk result s' =>
    cases result with
    | error f =>
      simp only [compared]
      rfl
    | ok outcome =>
      simp only [compared]
      rfl

end Session

end SyntaxParity
