import SyntaxParity.Proofs.History
import SyntaxParity.Proofs.Lowercase

/-!
Which entries of a registry are ever looked up. Language ids are looked up under
their normal forms, and a normal form has no normal form but itself; so an entry
under an id in normal form is found by each spelling of the id, and an entry under
any other id by none. What is remembered is remembered under normal forms alone.
-/

namespace SyntaxParity

def Text.IsNormal (id : Text) : Prop :=
  id.languageKey = id

instance (id : Text) : Decidable id.IsNormal :=
  inferInstanceAs (Decidable (id.languageKey = id))

/-- A normal form has no normal form but itself. -/
theorem Text.isNormal_languageKey (id : Text) : id.languageKey.IsNormal := by
  rw [IsNormal, languageKey, languageKey, trim_lowercase_trim, lowercase_lowercase]

namespace Registry

/-- The entry by which an id is supported: without it, the id is not. -/
def FindsEntry (r : Registry) (id key : Text) : Prop :=
  r.supports (.text id) = true ∧ (r.erase key).supports (.text id) = false

theorem supports_text (r : Registry) (id : Text) :
    r.supports (.text id) = (r.get? id.languageKey).isSome :=
  rfl

theorem findsEntry_iff {r : Registry} {id key : Text} (registered : (r.get? key).isSome = true) :
    r.FindsEntry id key ↔ id.languageKey = key := by
  rw [FindsEntry, supports_text, supports_text, get?_erase]
  constructor
  · rintro ⟨found, lost⟩
    by_contra other
    rw [if_neg other, found] at lost
    cases lost
  · rintro rfl
    exact ⟨registered, by rw [if_pos rfl]; rfl⟩

/-- An entry is found by some id if and only if its own id is in normal form. -/
theorem exists_findsEntry_iff {r : Registry} {key : Text}
    (registered : (r.get? key).isSome = true) : (∃ id, r.FindsEntry id key) ↔ key.IsNormal := by
  constructor
  · rintro ⟨id, found⟩
    rw [findsEntry_iff registered] at found
    exact found ▸ id.isNormal_languageKey
  · intro normal
    exact ⟨key, (findsEntry_iff registered).mpr normal⟩

theorem isSome_get?_iff_mem_ids {r : Registry} {key : Text} :
    (r.get? key).isSome = true ↔ key ∈ r.ids := by
  rw [ids, List.mem_mergeSort, get?, ← Option.ne_none_iff_isSome, ne_eq, List.lookup_eq_none_iff]
  simp

end Registry

def Request.looksUp : Request → Bool
  | .supported _ | .language _ | .parser _ | .inspect .. | .compare .. => true
  | .register .. | .unregister _ | .list => false

namespace Session

variable {env : Environment} {s s' t : Session} {request : Request} {requests : List Request}
  {step : Step}

def lookUps (env : Environment) (s : Session) (requests : List Request) : List Answer :=
  ((s.history env requests).filter fun step => step.request.looksUp).map Step.answer

def without (s : Session) (key : Text) : Session :=
  { s with registry := s.registry.erase key }

/-- Agreement of two sessions wherever ids are looked up: they remember the same, and
have the same providers under ids in normal form. -/
structure AgreesOnNormal (s t : Session) : Prop where
  cache : s.cache = t.cache
  registered : ∀ key : Text, key.IsNormal → s.registry.get? key = t.registry.get? key

theorem AgreesOnNormal.resolve (h : AgreesOnNormal s t) (env : Environment) (id : Text) :
    (s.resolve env id).1 = (t.resolve env id).1 ∧
      AgreesOnNormal (s.resolve env id).2 (t.resolve env id).2 := by
  have registered := h.registered id.languageKey id.isNormal_languageKey
  have spec := resolution_of_resolve env s id
  generalize s.resolve env id = result at spec
  cases spec with
  | remembered cached =>
    rw [resolve_of_cached (h.cache ▸ cached)]
    exact ⟨rfl, h⟩
  | loaded loads =>
    obtain ⟨fresh, provider, grammar, found, load, rfl⟩ := loads
    rw [resolve_of_loads ⟨h.cache ▸ fresh, provider, grammar, registered ▸ found, load, rfl⟩]
    rw [h.cache]
    exact ⟨rfl, by rw [remember, remember, h.cache], h.registered⟩
  | unregistered fresh absent =>
    rw [resolve_of_unregistered (h.cache ▸ fresh) (registered ▸ absent)]
    exact ⟨rfl, h⟩
  | unloadable fresh found failed =>
    rw [resolve_of_unloadable (h.cache ▸ fresh) (registered ▸ found) failed]
    exact ⟨rfl, h⟩

/-- Sessions that agree wherever ids are looked up give a request that looks one up
the same answer, and agree there after every request. -/
theorem AgreesOnNormal.serve (h : AgreesOnNormal s t) (env : Environment) (request : Request) :
    AgreesOnNormal (s.serve env request).2 (t.serve env request).2 ∧
      (request.looksUp = true → (s.serve env request).1 = (t.serve env request).1) := by
  cases named : request.resolves? with
  | some id =>
    cases reply_of_resolves env named with
    | refused misuse serve =>
      rw [serve, serve]
      exact ⟨h, fun _ => rfl⟩
    | resolved reply serve =>
      obtain ⟨results, after⟩ := h.resolve env id
      rw [serve, serve]
      exact ⟨after, fun _ => congrArg reply results⟩
  | none =>
    cases request with
    | register id provider =>
      refine ⟨⟨h.cache, fun key normal => ?_⟩, Bool.noConfusion⟩
      simp only [Session.serve, Registry.get?_insert, h.registered key normal]
    | unregister id =>
      refine ⟨⟨h.cache, fun key normal => ?_⟩, Bool.noConfusion⟩
      simp only [Session.serve, Registry.get?_erase, h.registered key normal]
    | supported id =>
      cases id with
      | text id =>
        refine ⟨h, fun _ => ?_⟩
        simp only [Session.serve, Argument.languageId, Registry.supports_text,
          h.registered _ id.isNormal_languageKey]
      | bytes _ | other _ => exact ⟨h, fun _ => rfl⟩
    | list => exact ⟨h, Bool.noConfusion⟩
    -- an id that is no text is refused in every session
    | language id | parser id =>
      cases id with
      | text _ => cases named
      | bytes _ | other _ => exact ⟨h, fun _ => rfl⟩
    | inspect source id scope =>
      cases id with
      | text _ => cases named
      | bytes _ | other _ => cases source <;> exact ⟨h, fun _ => rfl⟩
    | compare expected actual id verbose =>
      cases id with
      | text _ => cases named
      | bytes _ | other _ => cases expected <;> cases actual <;> exact ⟨h, fun _ => rfl⟩

/-- Over a run, sessions that agree wherever ids are looked up give the same answers to
all requests that look one up. -/
theorem AgreesOnNormal.lookUps_eq (h : AgreesOnNormal s t) (env : Environment)
    (requests : List Request) : s.lookUps env requests = t.lookUps env requests := by
  unfold lookUps
  induction requests generalizing s t with
  | nil => rfl
  | cons request rest ih =>
    obtain ⟨after, answer⟩ := h.serve env request
    simp only [history, List.filter_cons]
    split
    · next asks => rw [List.map_cons, List.map_cons, answer asks, ih after]
    · exact ih after

/-- An entry under an id that is not in normal form may be taken out, and nobody who
looks ids up can tell. -/
theorem agreesOnNormal_without {key : Text} (other : ¬ key.IsNormal) (s : Session) :
    AgreesOnNormal s (s.without key) := by
  refine ⟨rfl, fun key' normal => ?_⟩
  have ne : key' ≠ key := by
    rintro rfl
    exact other normal
  rw [without, Registry.get?_erase, if_neg ne]

def KeysNormal (s : Session) : Prop :=
  ∀ entry ∈ s.cache, entry.1.IsNormal

theorem Effect.keysNormal (h : Effect env s request s') (normal : s.KeysNormal) :
    s'.KeysNormal := by
  cases h with
  | register id provider => exact normal
  | unregister id => exact normal
  | idle => exact normal
  | @loads _ id language named loads =>
    intro entry member
    rcases List.mem_append.mp member with before | added
    · exact normal entry before
    · obtain rfl := List.mem_singleton.mp added
      exact id.isNormal_languageKey

theorem KeysNormal.of_mem_history (normal : s.KeysNormal) (h : step ∈ s.history env requests) :
    step.after.KeysNormal := by
  induction requests generalizing s with
  | nil => cases h
  | cons request rest ih =>
    have after := (effect_of_serve env s request).keysNormal normal
    rcases List.mem_cons.mp h with rfl | later
    · exact after
    · exact ih after later

/-- The entries that are looked up. A normal form has no normal form but itself. So an
entry of a registry is found by some id if and only if its own id is in normal form.
One in normal form that is listed is supported in each of its spellings, in every
session. An entry under any other id may be taken out of a session, and no request of a
run that looks an id up has another answer. And in the course of a run that begins with
nothing remembered, all that is remembered is remembered under ids in normal form. -/
theorem entries_looked_up (env : Environment) :
    (∀ id : Text, id.languageKey.languageKey = id.languageKey) ∧
    (∀ (r : Registry) (key : Text), (r.get? key).isSome = true →
      ((∃ id, r.FindsEntry id key) ↔ key.languageKey = key)) ∧
    (∀ (s : Session) (key id : Text), key ∈ s.registry.ids → key.languageKey = key →
      id.languageKey = key → s.serve env (.supported (.text id)) = (.supported true, s)) ∧
    (∀ (s : Session) (key : Text), key.languageKey ≠ key → ∀ requests,
      (s.without key).lookUps env requests = s.lookUps env requests) ∧
    (∀ (registry : Registry) (requests : List Request),
      ∀ step ∈ (Session.mk registry []).history env requests, ∀ entry ∈ step.after.cache,
        entry.1.languageKey = entry.1) := by
  refine ⟨Text.isNormal_languageKey, fun r key registered => ?_, ?_, ?_, ?_⟩
  · exact Registry.exists_findsEntry_iff registered
  · rintro s key id listed - rfl
    have registered := Registry.isSome_get?_iff_mem_ids.mpr listed
    simp only [serve, Argument.languageId, Registry.supports_text, registered]
  · intro s key other requests
    exact ((agreesOnNormal_without other s).lookUps_eq env requests).symm
  · intro registry requests step member
    have empty : (Session.mk registry []).KeysNormal := fun _ => List.not_mem_nil.elim
    exact empty.of_mem_history member

end Session

end SyntaxParity
