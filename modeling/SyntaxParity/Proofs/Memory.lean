import Mathlib.Data.List.Nodup
import SyntaxParity.Module
import SyntaxParity.Proofs.History

/-!
What a session remembers over a run. The memory only grows, and what it holds
under a key stays what it was when it was first put there: the language of the
provider that was registered under the key at that time. The languages are
numbered in the order in which they came, so two of them are the same if and
only if they stand under the same key.
-/

namespace SyntaxParity

/-- The step that puts a language under a key: it resolves an id with this normal
form, which is not remembered yet. -/
def Step.Loads (env : Environment) (step : Step) (key : Text) (language : Language) : Prop :=
  ∃ id, step.request.resolves? = some id ∧ id.languageKey = key ∧
    step.before.Loads env id language ∧ step.after = step.before.remember id language

structure Step.Gives (step : Step) (id : Text) (language : Language) : Prop where
  request : step.request = .language (.text id)
  answer : step.answer = .language language

namespace Session

variable {env : Environment} {s s' : Session} {request : Request} {requests : List Request}
  {step : Step} {key key' id id' : Text} {language language' : Language}

def Keeps (s s' : Session) : Prop :=
  ∀ key language, s.cache.lookup key = some language → s'.cache.lookup key = some language

theorem Keeps.refl (s : Session) : s.Keeps s :=
  fun _ _ cached => cached

theorem Keeps.trans {s'' : Session} (h : s.Keeps s') (h' : s'.Keeps s'') : s.Keeps s'' :=
  fun key language cached => h' key language (h key language cached)

theorem keeps_remember : s.Keeps (s.remember id language) := by
  intro key found cached
  simp [remember, List.lookup_append, cached]

theorem Effect.keeps (h : Effect env s request s') : s.Keeps s' := by
  cases h with
  | register id provider => exact .refl s
  | unregister id => exact .refl s
  | idle => exact .refl s
  | loads => exact keeps_remember

/-- What is remembered after a request was remembered before, or the request put
it there. -/
theorem Effect.cached_or_loads (h : Effect env s request s')
    (cached : s'.cache.lookup key = some language) :
    s.cache.lookup key = some language ∨
      ∃ id, request.resolves? = some id ∧ id.languageKey = key ∧ s.Loads env id language ∧
        s' = s.remember id language := by
  cases h with
  | register id provider => exact .inl cached
  | unregister id => exact .inl cached
  | idle => exact .inl cached
  | @loads _ id found named loads =>
    rw [remember, List.lookup_append, Option.or_eq_some_iff] at cached
    rcases cached with before | ⟨-, added⟩
    · exact .inl before
    · rw [List.lookup_cons, List.lookup_nil] at added
      split at added
      · next same =>
        obtain rfl := Option.some.inj added
        exact .inr ⟨id, named, (beq_iff_eq.mp same).symm, loads, rfl⟩
      · cases added

/-- The languages bear the numbers of the places at which they stand. -/
def Numbered (s : Session) : Prop :=
  s.cache.map (fun entry => entry.2.serial) = List.range s.cache.length

theorem Effect.numbered (h : Effect env s request s') (numbered : s.Numbered) : s'.Numbered := by
  cases h with
  | register id provider => exact numbered
  | unregister id => exact numbered
  | idle => exact numbered
  | loads named loads =>
    obtain ⟨-, provider, grammar, -, -, rfl⟩ := loads
    unfold Numbered at numbered ⊢
    simp [remember, numbered, List.range_succ]

theorem mem_of_lookup (cached : s.cache.lookup key = some language) :
    (key, language) ∈ s.cache := by
  obtain ⟨before, after, split, -⟩ := List.lookup_eq_some_iff.mp cached
  rw [split]
  exact List.mem_append_right _ List.mem_cons_self

theorem Numbered.serial_eq_iff (numbered : s.Numbered)
    (cached : s.cache.lookup key = some language)
    (cached' : s.cache.lookup key' = some language') :
    language.serial = language'.serial ↔ key = key' := by
  have nodup : (s.cache.map fun entry => entry.2.serial).Nodup := numbered ▸ List.nodup_range
  constructor
  · intro same
    have entries : (key, language) = (key', language') :=
      List.inj_on_of_nodup_map nodup (mem_of_lookup cached) (mem_of_lookup cached') same
    exact congrArg Prod.fst entries
  · rintro rfl
    rw [Option.some.inj (cached.symm.trans cached')]

theorem keeps_before (h : step ∈ s.history env requests) : s.Keeps step.before := by
  induction requests generalizing s with
  | nil => cases h
  | cons request rest ih =>
    rcases List.mem_cons.mp h with rfl | later
    · exact .refl s
    · exact (effect_of_serve env s request).keeps.trans (ih later)

theorem history_keeps (env : Environment) (s : Session) (requests : List Request) :
    (s.history env requests).Pairwise fun earlier later => earlier.after.Keeps later.before := by
  induction requests generalizing s with
  | nil => exact .nil
  | cons request rest ih =>
    rw [history, List.pairwise_cons]
    exact ⟨fun later member => keeps_before member, ih _⟩

theorem effect_of_mem_history (h : step ∈ s.history env requests) :
    Effect env step.before step.request step.after := by
  have effect := effect_of_serve env step.before step.request
  rw [serve_of_mem_history h] at effect
  exact effect

/-- What is remembered after a step of a run was remembered when the run began, or
some step up to this one put it there. -/
theorem cached_or_loads_of_history {n : Nat} (h : (s.history env requests)[n]? = some step)
    (cached : step.after.cache.lookup key = some language) :
    s.cache.lookup key = some language ∨
      ∃ m first, m ≤ n ∧ (s.history env requests)[m]? = some first ∧
        first.Loads env key language := by
  induction requests generalizing s n with
  | nil => simp [history] at h
  | cons request rest ih =>
    have first (cached : (s.serve env request).2.cache.lookup key = some language) :=
      (effect_of_serve env s request).cached_or_loads cached
    cases n with
    | zero =>
      obtain rfl : _ = step := by simpa [history] using h
      rcases first cached with before | loads
      · exact .inl before
      · exact .inr ⟨0, _, Nat.le_refl 0, rfl, loads⟩
    | succ n =>
      rcases ih (by simpa [history] using h) with cached | ⟨m, loader, le, found, loads⟩
      · rcases first cached with before | loads
        · exact .inl before
        · exact .inr ⟨0, _, Nat.zero_le _, rfl, loads⟩
      · exact .inr ⟨m + 1, loader, Nat.succ_le_succ le, by simpa [history] using found, loads⟩

/-- All that is remembered in the course of a run is remembered in one session,
where each language still bears the number of its place. -/
theorem exists_keeping (env : Environment) (numbered : s.Numbered) (requests : List Request) :
    ∃ last : Session, last.Numbered ∧ s.Keeps last ∧
      ∀ step ∈ s.history env requests, step.after.Keeps last := by
  induction requests generalizing s with
  | nil => exact ⟨s, numbered, .refl s, by simp [history]⟩
  | cons request rest ih =>
    have effect := effect_of_serve env s request
    obtain ⟨last, numbered, keeps, all⟩ := ih (effect.numbered numbered)
    refine ⟨last, numbered, effect.keeps.trans keeps, ?_⟩
    intro step member
    rcases List.mem_cons.mp member with rfl | later
    · exact keeps
    · exact all step later

theorem cached_of_gives (h : step ∈ s.history env requests) (gives : step.Gives id language) :
    step.after.cache.lookup id.languageKey = some language := by
  have served := serve_of_mem_history h
  rw [gives.request, gives.answer] at served
  simp only [serve, resolveArgument_text, Prod.mk.injEq] at served
  obtain ⟨answer, after⟩ := served
  rw [← after]
  cases resolved : step.before.resolve env id with
  | mk result s' =>
    rw [resolved] at answer
    cases result with
    | error cause => cases answer
    | ok found =>
      obtain rfl : found = language := Answer.language.inj answer
      exact lookup_of_resolve resolved

/-- The memory of a session over a run that begins with an empty one, whatever is
registered, unregistered, resolved and refused on the way. No key is lost, and no
language is exchanged for another. What stands under a key was put there by a
step that resolved an id with this normal form, at a time when nothing stood
there, and has the grammar of the provider that was then registered under the
key. A language that is handed out is the one that stands under the normal form
of its id, and two of them are the same if and only if the normal forms are. -/
theorem memory_over_run (env : Environment) (registry : Registry) (requests : List Request) :
    let steps := (Session.mk registry []).history env requests
    (∀ step ∈ steps, step.before.Keeps step.after) ∧
    steps.Pairwise (fun earlier later => earlier.after.Keeps later.before) ∧
    (∀ (n : Nat) (step : Step), steps[n]? = some step →
      ∀ key language, step.after.cache.lookup key = some language →
        ∃ (m : Nat) (first : Step),
          m ≤ n ∧ steps[m]? = some first ∧ first.Loads env key language) ∧
    (∀ step ∈ steps, ∀ id language, step.Gives id language →
      step.after.cache.lookup id.languageKey = some language) ∧
    (∀ step ∈ steps, ∀ step' ∈ steps, ∀ id id' language language',
      step.Gives id language → step'.Gives id' language' →
        (language.serial = language'.serial ↔ id.languageKey = id'.languageKey) ∧
          (language = language' ↔ id.languageKey = id'.languageKey)) := by
  intro steps
  refine ⟨?_, history_keeps env _ requests, ?_, ?_, ?_⟩
  · intro step member
    exact (effect_of_mem_history member).keeps
  · intro n step here key language cached
    rcases cached_or_loads_of_history here cached with before | loads
    · cases before
    · exact loads
  · intro step member id language gives
    exact cached_of_gives member gives
  · intro step member step' member' id id' language language' gives gives'
    -- the two languages need not be handed out in this order, so compare them at the end
    obtain ⟨last, numbered, -, all⟩ :=
      exists_keeping env (s := ⟨registry, []⟩) rfl requests
    have cached := all step member _ _ (cached_of_gives member gives)
    have cached' := all step' member' _ _ (cached_of_gives member' gives')
    have serials := numbered.serial_eq_iff cached cached'
    refine ⟨serials, ?_, ?_⟩
    · rintro rfl
      exact serials.mp rfl
    · intro same
      rw [same] at cached
      exact Option.some.inj (cached.symm.trans cached')

/-- Two ids of one provider have a language each, and one that has lost its
provider keeps the language, however it is spelled. -/
example :
    (initial.run ⟨Modules.standard.load, fun _ => .ok (), fun _ _ => .error ""⟩
        [.language (.text "javascript"), .unregister "javascript",
          .language (.text " JavaScript"), .language (.text "javascriptreact")]).map Prod.fst =
      [.language ⟨0, ⟨"tree_sitter_javascript.language"⟩⟩, .unregistered true,
        .language ⟨0, ⟨"tree_sitter_javascript.language"⟩⟩,
        .language ⟨1, ⟨"tree_sitter_javascript.language"⟩⟩] := by
  decide +kernel

end Session

end SyntaxParity
