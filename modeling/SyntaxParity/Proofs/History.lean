import SyntaxParity.Proofs.Resolution
import SyntaxParity.Session.Run

/-!
The course of a run, step by step, and what one request can do. A request
changes the registry, or resolves an id, or leaves the session as it is; one
that resolves an id makes its answer of the resolution alone, without looking at
the serial number of the language.
-/

namespace SyntaxParity

/-- One request of a run, between the session that serves it and the session
that it leaves behind. -/
structure Step where
  before : Session
  request : Request
  answer : Answer
  after : Session

namespace Session

def history (env : Environment) (s : Session) : List Request → List Step
  | [] => []
  | request :: rest =>
    ⟨s, request, (s.serve env request).1, (s.serve env request).2⟩ ::
      history env (s.serve env request).2 rest

theorem run_eq_history (env : Environment) (s : Session) (requests : List Request) :
    s.run env requests = (s.history env requests).map fun step => (step.answer, step.after) := by
  induction requests generalizing s with
  | nil => rfl
  | cons request rest ih => simp only [run, history, List.map_cons, ih]

theorem serve_of_mem_history {env : Environment} {s : Session} {requests : List Request}
    {step : Step} (h : step ∈ s.history env requests) :
    step.before.serve env step.request = (step.answer, step.after) := by
  induction requests generalizing s with
  | nil => cases h
  | cons request rest ih =>
    rcases List.mem_cons.mp h with rfl | later
    · rfl
    · exact ih later

end Session

def Language.renumber (f : Nat → Nat) (l : Language) : Language :=
  { l with serial := f l.serial }

def Answer.renumber (f : Nat → Nat) : Answer → Answer
  | .language l => .language (l.renumber f)
  | .parser l => .parser (l.renumber f)
  | answer => answer

theorem Answer.renumber_ofExcept {α : Type} {answer : α → Answer} {f : Nat → Nat}
    (fixed : ∀ a, (answer a).renumber f = answer a) (result : Except Failure α) :
    (ofExcept answer result).renumber f = ofExcept answer result := by
  cases result with
  | error failure => rfl
  | ok a => exact fixed a

def Request.resolves? : Request → Option Text
  | .language (.text id) | .parser (.text id) | .inspect _ (.text id) _
  | .compare _ _ (.text id) _ => some id
  | _ => none

/-- What a request with an id to resolve comes to: it is refused in every session,
or it answers to the resolution of the id and leaves behind what that does. -/
inductive Reply (env : Environment) (request : Request) (id : Text) : Prop where
  | refused (misuse : Misuse)
    (serve : ∀ s : Session, s.serve env request = (.failed (.misuse misuse), s))
  | resolved (reply : Except GrammarError Language → Answer)
    (serve : ∀ s : Session,
      s.serve env request = (reply (s.resolve env id).1, (s.resolve env id).2))
    (renumber : ∀ f result,
      reply (result.map (Language.renumber f)) = (reply result).renumber f)

def outlined (env : Environment) (language : Language) (id : Text) (source : Argument)
    (scope : Scope) : Except Failure Text :=
  match Session.readIn env language id source with
  | .error f => .error f
  | .ok root => (root.outline scope).mapError .incomplete

namespace Session

theorem inspect_text (env : Environment) (s : Session) (source : Argument) (id : Text)
    (scope : Scope) :
    s.inspect env source (.text id) scope =
      (answerIn env (fun language => outlined env language id source scope)
        (s.resolve env id).1, (s.resolve env id).2) := by
  rw [inspect, parse_text]
  rcases s.resolve env id with ⟨result, s'⟩
  cases result with
  | error cause => rfl
  | ok language =>
    simp only [answerIn, underParser, outlined]
    cases env.accept language.grammar with
    | error refusal => rfl
    | ok _ => cases readIn env language id source <;> rfl

/-- An answer that is made of a language by a parser for it shows no more of its number than
the language itself does. -/
theorem answerIn_renumber {α : Type} (env : Environment) {answer : Language → Except Failure α}
    {f : Nat → Nat} (same : ∀ l, answer (l.renumber f) = answer l)
    (result : Except GrammarError Language) :
    answerIn env answer (result.map (Language.renumber f)) = answerIn env answer result := by
  cases result with
  | error cause => rfl
  | ok language => exact congrArg (underParser env language) (same language)

theorem language_reply (env : Environment) (id : Text) : Reply env (.language (.text id)) id := by
  refine .resolved (fun result => .ofExcept .language (result.mapError .grammar)) ?_ ?_
  · intro s
    simp only [serve, resolveArgument_text]
  · intro f result
    cases result <;> rfl

theorem parser_reply (env : Environment) (id : Text) : Reply env (.parser (.text id)) id := by
  refine .resolved (fun result => .ofExcept .parser (answerIn env .ok result)) ?_ ?_
  · intro s
    simp only [serve, makeParser_text]
  · intro f result
    cases result with
    | error cause => rfl
    | ok language =>
      simp only [Except.map, answerIn, underParser, Language.renumber]
      cases env.accept language.grammar <;> rfl

theorem inspect_reply (env : Environment) (source : Argument) (id : Text) (scope : Scope) :
    Reply env (.inspect source (.text id) scope) id := by
  refine .resolved (fun result => .ofExcept .outline
    (answerIn env (fun language => outlined env language id source scope) result)) ?_ ?_
  · intro s
    simp only [serve, inspect_text]
  · intro f result
    rw [answerIn_renumber env (fun l => rfl), Answer.renumber_ofExcept fun _ => rfl]

theorem compare_reply (env : Environment) (expected actual : Argument) (id : Text)
    (verbose : Bool) : Reply env (.compare expected actual (.text id) verbose) id := by
  cases checked : checkArguments expected actual (.text id) with
  | error misuse =>
    refine .refused misuse ?_
    intro s
    simp only [serve, compare, checked]
    rfl
  | ok texts =>
    obtain ⟨x, y, i⟩ := texts
    obtain ⟨-, -, same⟩ := texts_of_checkArguments checked
    obtain rfl : i = id := (Argument.text.inj same).symm
    refine .resolved (fun result =>
      .ofExcept .compared ((compared env i x y result).map (reportOf i verbose))) ?_ ?_
    · intro s
      simp only [serve, compare, checked, compareTexts_eq]
      cases compared env i x y (s.resolve env i).1 <;> rfl
    · intro f result
      have same : compared env i x y (result.map (Language.renumber f)) =
          compared env i x y result := by
        cases result <;> rfl
      rw [same, Answer.renumber_ofExcept fun _ => rfl]

theorem reply_of_resolves (env : Environment) {request : Request} {id : Text}
    (h : request.resolves? = some id) : Reply env request id := by
  unfold Request.resolves? at h
  split at h
  · obtain rfl := Option.some.inj h
    exact language_reply env _
  · obtain rfl := Option.some.inj h
    exact parser_reply env _
  · obtain rfl := Option.some.inj h
    exact inspect_reply env _ _ _
  · obtain rfl := Option.some.inj h
    exact compare_reply env _ _ _ _
  · cases h

inductive Effect (env : Environment) (s : Session) : Request → Session → Prop where
  | register (id : Text) (provider : Provider) :
    Effect env s (.register id provider) { s with registry := s.registry.insert id provider }
  | unregister (id : Text) :
    Effect env s (.unregister id) { s with registry := s.registry.erase id }
  | idle (request : Request) : Effect env s request s
  | loads {request : Request} {id : Text} {language : Language}
    (named : request.resolves? = some id) (loads : s.Loads env id language) :
    Effect env s request (s.remember id language)

theorem effect_of_resolve (env : Environment) (s : Session) {request : Request} {id : Text}
    (named : request.resolves? = some id) : Effect env s request (s.resolve env id).2 := by
  have spec := resolution_of_resolve env s id
  generalize s.resolve env id = result at spec
  cases spec with
  | remembered => exact .idle request
  | loaded loads => exact .loads named loads
  | unregistered => exact .idle request
  | unloadable => exact .idle request

theorem effect_of_serve (env : Environment) (s : Session) (request : Request) :
    Effect env s request (s.serve env request).2 := by
  cases named : request.resolves? with
  | some id =>
    cases reply_of_resolves env named with
    | refused misuse serve =>
      rw [serve]
      exact .idle request
    | resolved reply serve =>
      rw [serve]
      exact effect_of_resolve env s named
  | none =>
    cases request with
    | register id provider => exact .register id provider
    | unregister id => exact .unregister id
    | supported id => cases id <;> exact .idle _
    | list => exact .idle _
    | language id =>
      cases id with
      | text t => cases named
      | bytes b => exact .idle _
      | other typeName => exact .idle _
    | parser id =>
      cases id with
      | text t => cases named
      | bytes b => exact .idle _
      | other typeName => exact .idle _
    | inspect source id scope =>
      cases id with
      | text t => cases named
      | bytes b => cases source <;> exact .idle _
      | other typeName => cases source <;> exact .idle _
    | compare expected actual id verbose =>
      cases id with
      | text t => cases named
      | bytes b => cases expected <;> cases actual <;> exact .idle _
      | other typeName => cases expected <;> cases actual <;> exact .idle _

end Session

end SyntaxParity
