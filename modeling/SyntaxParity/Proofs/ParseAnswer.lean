import SyntaxParity.Proofs.ComparisonAnswer
import SyntaxParity.Proofs.History

/-!
What the parse of a source answers, in the order in which it is decided. The
language comes first: if there is none, the source is not looked at and the session
stays as it is. Once there is one it is remembered, whether or not a parser is made for
it, and whatever becomes of the source, which may be no text, or have no bytes, or be
too much for the parser.
-/

namespace SyntaxParity

/-- The first run of surrogates in a text: none stands before it, all of it are
surrogates, and what comes behind it does not begin with one. -/
def Utf8.SurrogateRun.IsFirstIn (run : SurrogateRun) (t : Text) : Prop :=
  ∃ before inside after : Text, t = before ++ (inside ++ after) ∧
    before.Encodable ∧ (∀ c ∈ inside, c.isSurrogate = true) ∧
    (∀ c ∈ after.head?, c.isSurrogate = false) ∧
    run.start = before.length ∧ inside.head? = some run.first ∧ run.length = inside.length

namespace Utf8

end Utf8

namespace Session

variable {env : Environment} {s s' : Session} {id : Text} {language : Language}

/-- The language of an id, and the session that has it: the session itself if the
language is remembered, and otherwise the one that remembers it from now on. -/
inductive Finds (env : Environment) (s : Session) (id : Text) : Language → Session → Prop where
  | remembered {language : Language} (cached : s.cache.lookup id.languageKey = some language) :
    Finds env s id language s
  | loaded {language : Language} (loads : s.Loads env id language) :
    Finds env s id language (s.remember id language)

theorem finds_iff : s.Finds env id language s' ↔ s.resolve env id = (.ok language, s') := by
  constructor
  · rintro (cached | loads)
    · exact resolve_of_cached cached
    · exact resolve_of_loads loads
  · intro resolved
    have spec := resolution_of_resolve env s id
    rw [resolved] at spec
    cases spec with
    | remembered cached => exact .remembered cached
    | loaded loads => exact .loaded loads

theorem Finds.resolves (h : s.Finds env id language s') : s.Resolves env id language := by
  rcases h with cached | loads
  · exact .inl cached
  · exact .inr loads

/-- A session that has found a language remembers it, and nothing else changes. -/
theorem Finds.cached (h : s.Finds env id language s') :
    s'.registry = s.registry ∧ s'.cache.lookup id.languageKey = some language ∧
      ∀ key, key ≠ id.languageKey → s'.cache.lookup key = s.cache.lookup key := by
  refine ⟨?_, lookup_of_resolve (finds_iff.mp h), ?_⟩
  · cases h <;> rfl
  · intro key other
    cases h with
    | remembered => rfl
    | loaded =>
      rw [remember, List.lookup_append, List.lookup_cons, beq_eq_false_iff_ne.mpr other]
      exact Option.or_none

structure Ready (env : Environment) (s : Session) (id : Text) (language : Language)
    (s' : Session) : Prop where
  found : s.Finds env id language s'
  accepts : env.accept language.grammar = .ok ()

/-- The answers to a parse, in the order in which they are decided: by the language, by the
making of a parser for it, by the source, and only then by the parser. -/
inductive Parsing (env : Environment) (s : Session) (id : Text) (source : Argument) :
    Except Failure Node → Session → Prop where
  | unregistered (fresh : s.cache.lookup id.languageKey = none)
    (absent : s.registry.get? id.languageKey = none) :
    Parsing env s id source (.error (.grammar (.unregistered (.text id)))) s
  | unloadable {provider : Provider} {cause : LoadFailure}
    (fresh : s.cache.lookup id.languageKey = none)
    (registered : s.registry.get? id.languageKey = some provider)
    (failed : env.load provider = .error cause) :
    Parsing env s id source (.error (.grammar (.unloadable provider id.languageKey cause))) s
  | refused {language : Language} {s' : Session} {refusal : ParserRefusal}
    (found : s.Finds env id language s')
    (refuses : env.accept language.grammar = .error refusal) :
    Parsing env s id source (.error (.parser refusal)) s'
  | notText {language : Language} {s' : Session} (ready : s.Ready env id language s')
    (other : ¬ source.IsText) :
    Parsing env s id source (.error (.misuse .notEncodable)) s'
  | unencodable {language : Language} {s' : Session} {t : Text} {run : Utf8.SurrogateRun}
    (ready : s.Ready env id language s') (given : source = .text t) (first : run.IsFirstIn t) :
    Parsing env s id source (.error (.grammar (.unencodable id run))) s'
  | parserFailed {language : Language} {s' : Session} {t reason : Text}
    (ready : s.Ready env id language s') (given : source = .text t) (encodable : t.Encodable)
    (failed : env.parse language.grammar (t.flatMap Utf8.encodeOne) = .error reason) :
    Parsing env s id source (.error (.grammar (.parserFailed id reason))) s'
  | tree {language : Language} {s' : Session} {t : Text} {root : Node}
    (ready : s.Ready env id language s') (given : source = .text t) (encodable : t.Encodable)
    (parsed : env.parse language.grammar (t.flatMap Utf8.encodeOne) = .ok root) :
    Parsing env s id source (.ok root) s'

/-- An error that names the language in normal form is about the language, and one
that names it as it was given is about the source. -/
theorem Parsing.languageId {source : Argument} {e : GrammarError}
    (h : Parsing env s id source (.error (.grammar e)) s') :
    (e.languageId = .text id.languageKey ∧ s' = s ∧ ∀ language, ¬ s.Resolves env id language) ∨
      (e.languageId = .text id ∧ ∃ language, s.Finds env id language s') := by
  cases h with
  | unregistered fresh absent =>
    refine .inl ⟨rfl, rfl, fun language => ?_⟩
    rw [resolves_iff, resolve_of_unregistered fresh absent]
    exact nofun
  | unloadable fresh registered failed =>
    refine .inl ⟨rfl, rfl, fun language => ?_⟩
    rw [resolves_iff, resolve_of_unloadable fresh registered failed]
    exact nofun
  | unencodable ready => exact .inr ⟨rfl, _, ready.found⟩
  | parserFailed ready => exact .inr ⟨rfl, _, ready.found⟩

end Session

end SyntaxParity
