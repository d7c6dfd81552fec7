import Mathlib.Logic.Equiv.Basic
import SyntaxParity.Proofs.Memory

/-!
What one key has to do with the others: nothing. A request concerns a key if it
changes the entry under it or names it, in whatever spelling. Two sessions that
agree at a key, up to the numbers of their languages, give a request that
concerns it the same answer and agree there afterwards; all other requests leave
a session at that key as it is. So a run may be thinned out to the requests that
concern the key.
-/

namespace SyntaxParity

/-- Whether a request changes the entry of a key or names the key. A request for
the list of all ids concerns no key, nor does one whose id is no text. -/
def Request.concerns (key : Text) : Request → Bool
  | .register id _ | .unregister id => id = key
  | .supported (.text id) | .language (.text id) | .parser (.text id) | .inspect _ (.text id) _
  | .compare _ _ (.text id) _ => id.languageKey = key
  | _ => false

theorem Request.concerns_of_resolves {request : Request} {id key : Text}
    (h : request.resolves? = some id) :
    request.concerns key = decide (id.languageKey = key) := by
  cases request with
  | language argument =>
    cases argument <;> cases h
    rfl
  | parser argument =>
    cases argument <;> cases h
    rfl
  | inspect source argument scope =>
    cases argument <;> cases h
    rfl
  | compare expected actual argument verbose =>
    cases argument <;> cases h
    rfl
  | register => cases h
  | unregister => cases h
  | supported => cases h
  | list => cases h

namespace Session

variable {env : Environment} {s s' t t' : Session} {request : Request} {key id : Text}

/-- Agreement of two sessions at a key: they have the same provider there, and
languages with the same grammar, or neither has any. -/
structure AgreesAt (key : Text) (s t : Session) : Prop where
  registered : s.registry.get? key = t.registry.get? key
  cached : (s.cache.lookup key).map Language.grammar = (t.cache.lookup key).map Language.grammar

theorem AgreesAt.refl (key : Text) (s : Session) : AgreesAt key s s :=
  ⟨rfl, rfl⟩

theorem AgreesAt.lookup_none (h : AgreesAt key s t) (inS : s.cache.lookup key = none) :
    t.cache.lookup key = none := by
  have cached := h.cached
  rwa [inS, Option.map_none, eq_comm, Option.map_eq_none_iff] at cached

theorem AgreesAt.lookup_some {l : Language} (h : AgreesAt key s t)
    (inS : s.cache.lookup key = some l) :
    ∃ l', t.cache.lookup key = some l' ∧ l'.grammar = l.grammar := by
  have cached := h.cached
  rwa [inS, Option.map_some, eq_comm, Option.map_eq_some_iff] at cached

/-- Renumbered by `f`, the language of the first session under a key is that of
the second. -/
def Renumbers (f : Nat → Nat) (key : Text) (s t : Session) : Prop :=
  t.cache.lookup key = (s.cache.lookup key).map (Language.renumber f)

theorem AgreesAt.exists_renumbers (h : AgreesAt key s t) :
    ∃ f : Equiv.Perm Nat, Renumbers f key s t := by
  unfold Renumbers
  cases inS : s.cache.lookup key with
  | none => exact ⟨.refl Nat, h.lookup_none inS⟩
  | some l =>
    obtain ⟨l', inT, grammar⟩ := h.lookup_some inS
    refine ⟨Equiv.swap l.serial l'.serial, ?_⟩
    rw [inT, Option.map_some, Language.renumber, Equiv.swap_apply_left, ← grammar]

/-- What renumbers the languages of later sessions renumbers those of the earlier
ones, since a language once remembered stays. -/
theorem Renumbers.of_keeps {f : Nat → Nat} (h : Renumbers f key s' t') (agrees : AgreesAt key s t)
    (keepsS : s.Keeps s') (keepsT : t.Keeps t') : Renumbers f key s t := by
  unfold Renumbers at h ⊢
  cases inS : s.cache.lookup key with
  | none => exact agrees.lookup_none inS
  | some l =>
    obtain ⟨l', inT, -⟩ := agrees.lookup_some inS
    rw [keepsS key l inS, keepsT key l' inT] at h
    rw [inT, h]

/-- A request that does not concern a key leaves a session at that key as it is. -/
theorem Effect.elsewhere (h : Effect env s request s') (other : request.concerns key = false) :
    s'.registry.get? key = s.registry.get? key ∧
      s'.cache.lookup key = s.cache.lookup key := by
  cases h with
  | register id provider =>
    have ne : key ≠ id := by simpa [Request.concerns, eq_comm] using other
    exact ⟨by rw [Registry.get?_insert, if_neg ne], rfl⟩
  | unregister id =>
    have ne : key ≠ id := by simpa [Request.concerns, eq_comm] using other
    exact ⟨by rw [Registry.get?_erase, if_neg ne], rfl⟩
  | idle => exact ⟨rfl, rfl⟩
  | @loads _ id language named loads =>
    rw [Request.concerns_of_resolves named, decide_eq_false_iff_not] at other
    refine ⟨rfl, ?_⟩
    rw [remember, List.lookup_append, List.lookup_cons, beq_eq_false_iff_ne.mpr (Ne.symm other)]
    exact Option.or_none

/-- In sessions that agree at the normal form of an id, the id resolves to
languages with the same grammar, or not at all for the same reason. -/
theorem resolve_agrees (env : Environment) (agrees : AgreesAt id.languageKey s t) :
    AgreesAt id.languageKey (s.resolve env id).2 (t.resolve env id).2 ∧
      (s.resolve env id).1.map Language.grammar = (t.resolve env id).1.map Language.grammar := by
  have spec := resolution_of_resolve env s id
  generalize s.resolve env id = result at spec
  cases spec with
  | @remembered l inS =>
    obtain ⟨l', inT, grammar⟩ := agrees.lookup_some inS
    rw [resolve_of_cached inT]
    exact ⟨agrees, congrArg Except.ok grammar.symm⟩
  | loaded loads =>
    obtain ⟨fresh, provider, grammar, registered, load, rfl⟩ := loads
    have freshT := agrees.lookup_none fresh
    have loadsT : t.Loads env id ⟨t.cache.length, grammar⟩ :=
      ⟨freshT, provider, grammar, agrees.registered ▸ registered, load, rfl⟩
    rw [resolve_of_loads loadsT]
    refine ⟨⟨agrees.registered, ?_⟩, rfl⟩
    simp only [remember, List.lookup_append, fresh, freshT, Option.none_or, List.lookup_cons_self,
      Option.map_some]
  | unregistered fresh absent =>
    rw [resolve_of_unregistered (agrees.lookup_none fresh) (agrees.registered ▸ absent)]
    exact ⟨agrees, rfl⟩
  | unloadable fresh registered failed =>
    rw [resolve_of_unloadable (agrees.lookup_none fresh) (agrees.registered ▸ registered) failed]
    exact ⟨agrees, rfl⟩

theorem resolve_renumber {f : Nat → Nat} (agrees : AgreesAt id.languageKey s t)
    (renumbers : Renumbers f id.languageKey (s.resolve env id).2 (t.resolve env id).2) :
    (s.resolve env id).1.map (Language.renumber f) = (t.resolve env id).1 := by
  have results := (resolve_agrees env agrees).2
  unfold Renumbers at renumbers
  cases resolvedS : s.resolve env id with
  | mk resultS s' =>
    cases resolvedT : t.resolve env id with
    | mk resultT t' =>
      rw [resolvedS, resolvedT] at results renumbers
      cases resultS with
      | error cause =>
        cases resultT with
        | error cause' => exact congrArg Except.error (Except.error.inj results)
        | ok l' => cases results
      | ok l =>
        cases resultT with
        | error cause' => cases results
        | ok l' =>
          simp only [lookup_of_resolve resolvedS, lookup_of_resolve resolvedT,
            Option.map_some] at renumbers
          exact congrArg Except.ok (Option.some.inj renumbers).symm

/-- Sessions that agree at a key give a request that concerns the key the same
answer, up to the number of a language, and agree at the key afterwards. -/
theorem serve_agrees (env : Environment) (agrees : AgreesAt key s t)
    (concern : request.concerns key = true) :
    AgreesAt key (s.serve env request).2 (t.serve env request).2 ∧
      ∀ f, Renumbers f key (s.serve env request).2 (t.serve env request).2 →
        (s.serve env request).1.renumber f = (t.serve env request).1 := by
  cases named : request.resolves? with
  | some id =>
    rw [Request.concerns_of_resolves named, decide_eq_true_iff] at concern
    subst concern
    cases reply_of_resolves env named with
    | refused misuse serve =>
      rw [serve, serve]
      exact ⟨agrees, fun f _ => rfl⟩
    | resolved reply serve renumber =>
      rw [serve, serve]
      refine ⟨(resolve_agrees env agrees).1, ?_⟩
      intro f renumbers
      rw [← renumber, resolve_renumber agrees renumbers]
  | none =>
    cases request with
    | register id provider =>
      refine ⟨⟨?_, agrees.cached⟩, fun f _ => rfl⟩
      simp only [serve, Registry.get?_insert, agrees.registered]
    | unregister id =>
      obtain rfl : id = key := by simpa [Request.concerns] using concern
      refine ⟨⟨?_, agrees.cached⟩, fun f _ => ?_⟩
      · simp only [serve, Registry.get?_erase, agrees.registered]
      · simp only [serve, Answer.renumber, agrees.registered]
    | supported id =>
      cases id with
      | text t =>
        obtain rfl : t.languageKey = key := by simpa [Request.concerns] using concern
        refine ⟨agrees, fun f _ => ?_⟩
        simp only [serve, Argument.languageId, Answer.renumber, Registry.supports, LanguageId.key,
          agrees.registered]
      | bytes b => cases concern
      | other typeName => cases concern
    | list => cases concern
    | language id => cases id <;> cases named <;> cases concern
    | parser id => cases id <;> cases named <;> cases concern
    | inspect source id scope => cases id <;> cases named <;> cases concern
    | compare expected actual id verbose => cases id <;> cases named <;> cases concern

theorem exists_renumbering (env : Environment) (agrees : AgreesAt key s t)
    (requests : List Request) :
    ∃ f : Equiv.Perm Nat, Renumbers f key s t ∧
      ((s.history env requests).filter fun step => step.request.concerns key).map
          (fun step => (step.answer.renumber f, (step.after.cache.lookup key).isSome)) =
        (t.history env (requests.filter (Request.concerns key))).map
          fun step => (step.answer, (step.after.cache.lookup key).isSome) := by
  -- the numbering is found where the run ends; it holds before, since languages stay
  induction requests generalizing s t with
  | nil =>
    obtain ⟨f, renumbers⟩ := agrees.exists_renumbers
    exact ⟨f, renumbers, rfl⟩
  | cons request rest ih =>
    have effectS := effect_of_serve env s request
    cases concern : request.concerns key with
    | true =>
      have effectT := effect_of_serve env t request
      obtain ⟨after, answer⟩ := serve_agrees env agrees concern
      obtain ⟨f, renumbers, answers⟩ := ih after
      refine ⟨f, renumbers.of_keeps agrees effectS.keeps effectT.keeps, ?_⟩
      have remembered : ((t.serve env request).2.cache.lookup key).isSome =
          ((s.serve env request).2.cache.lookup key).isSome := by
        rw [renumbers, Option.isSome_map]
      simp only [history, List.filter_cons, concern, if_true, List.map_cons, answers,
        answer f renumbers, remembered]
    | false =>
      obtain ⟨registered, cached⟩ := effectS.elsewhere concern
      have after : AgreesAt key (s.serve env request).2 t :=
        ⟨registered.trans agrees.registered, by rw [cached, agrees.cached]⟩
      obtain ⟨f, renumbers, answers⟩ := ih after
      refine ⟨f, ?_, ?_⟩
      · unfold Renumbers at renumbers ⊢
        rw [renumbers, cached]
      · simpa only [history, List.filter_cons, concern, Bool.false_eq_true, if_false] using answers

/-- Independence of keys. Take out of a run all requests that do not concern a
key. The other requests then get the answers they got before, results and
failures alike, and the key is remembered after each of them if and only if it
was, up to another numbering of the languages. Only a request for the list of all
ids, which concerns no key, sees more than one. -/
theorem run_of_concerning (env : Environment) (s : Session) (key : Text)
    (requests : List Request) :
    ∃ f : Equiv.Perm Nat,
      ((s.history env requests).filter fun step => step.request.concerns key).map
          (fun step => (step.answer.renumber f, (step.after.cache.lookup key).isSome)) =
        (s.history env (requests.filter (Request.concerns key))).map
          fun step => (step.answer, (step.after.cache.lookup key).isSome) := by
  obtain ⟨f, -, answers⟩ := exists_renumbering env (.refl key s) requests
  exact ⟨f, answers⟩

end Session

end SyntaxParity
