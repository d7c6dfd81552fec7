import Mathlib.Data.List.Forall2
import Mathlib.Data.List.TakeDrop
import SyntaxParity.CommandLine.Invocation

/-!
How the words of a command line are read. A command line asks for work if its
first word names a command, the words behind it are read without error, and none
is left over. A switch without value among these words sets what it sets wherever
it stands, and leaves the reading of all other words as it is, unless it takes the
place of a value, stands behind the separator, or comes between an operand and the
separator that goes with it.
-/

namespace SyntaxParity.CommandLine

namespace Token

/-- A switch that takes the next word for its value. -/
def Waits (t : Token) : Prop :=
  ∃ s isShort, t = .known s isShort none ∧ s.takesValue = true

theorem cut_eq (word : Text) :
    cut word = (word.takeWhile (· != equalsSign), (word.dropWhile (· != equalsSign)).tail?) := by
  rw [cut, List.span_eq_takeWhile_dropWhile]
  cases word.dropWhile (· != equalsSign) <;> rfl

theorem spellings_main :
    Form.spellings .main = [(("-h" : Text), Switch.help), (("--help" : Text), Switch.help)] := rfl

/-- No word can be taken for two switches of the main program. -/
theorem length_candidates_main_le {c : CodePoint} (rest : Text) :
    (candidates .main (hyphen :: c :: rest)).length ≤ 1 := by
  unfold candidates
  rw [spellings_main]
  split_ifs with long
  · have short : (cut (hyphen :: c :: rest)).1.isPrefixOf "-h" = false := by
      obtain rfl : c = hyphen := (List.cons.inj (List.cons.inj long).2).1
      have solid : hyphen ≠ equalsSign := by decide
      have apart : hyphen ≠ .ofChar 'h' := by decide
      simp [cut_eq, solid, apart, Text.ofString, List.isPrefixOf]
    rw [List.length_map, List.filter_cons_of_neg (by simp [short])]
    exact List.length_filter_le _ [_]
  · have single : c ≠ .ofChar '-' := fun same => long (by rw [same]; rfl)
    rw [List.filterMap_cons, List.filterMap_cons_none (by simp [single, Text.ofString])]
    split
    · exact Nat.zero_le 1
    · exact Nat.le_refl 1

theorem exists_ofWord_main (word : Text) : ∃ t, ofWord .main word = .ok t := by
  unfold ofWord
  split
  · exact ⟨_, rfl⟩
  · next opens =>
    split
    · exact ⟨_, rfl⟩
    · split
      · exact ⟨_, rfl⟩
      · next long =>
        obtain ⟨c, rest, rfl⟩ : ∃ c rest, word = hyphen :: c :: rest := by
          rcases word with _ | ⟨c, _ | ⟨d, rest⟩⟩
          · simp at opens
          · simp at long
          · simp at opens
            exact ⟨d, rest, by rw [opens]⟩
        have few := length_candidates_main_le (c := c) rest
        simp only
        split
        · exact ⟨_, rfl⟩
        · split
          · exact ⟨_, rfl⟩
          · split <;> exact ⟨_, rfl⟩
          · next x' several =>
            rcases few' : candidates .main (hyphen :: c :: rest) with _ | ⟨only, _ | ⟨other, more⟩⟩
            · exact (several few').elim
            · exact (x' only.1 only.2.1 only.2.2 few').elim
            · simp [few'] at few

theorem ofWord_ne_separator {f : Form} {word : Text} : ofWord f word ≠ .ok .separator := by
  intro h
  simp only [ofWord] at h
  grind

theorem ofWords_cons {f : Form} {word : Text} (solid : word ≠ doubleHyphen) (rest : List Text) :
    ofWords f (word :: rest) =
      match ofWord f word with
      | .error e => .error e
      | .ok token => (ofWords f rest).map (token :: ·) := by
  have solid : ¬ word = [hyphen, hyphen] := solid
  rw [ofWords]
  exact if_neg solid

theorem exists_of_ofWords_cons {f : Form} {word : Text} {rest : List Text} {tokens : List Token}
    (solid : word ≠ doubleHyphen) (h : ofWords f (word :: rest) = .ok tokens) :
    ∃ token more, ofWord f word = .ok token ∧ ofWords f rest = .ok more ∧
      tokens = token :: more := by
  rw [ofWords_cons solid] at h
  cases read : ofWord f word with
  | error e =>
    rw [read] at h
    cases h
  | ok token =>
    rw [read] at h
    cases others : ofWords f rest with
    | error e =>
      rw [others] at h
      cases h
    | ok more =>
      rw [others] at h
      exact ⟨token, more, rfl, rfl, (Except.ok.inj h).symm⟩

/-- Words in front of the separator are read one by one, whatever stands behind
them. -/
theorem ofWords_append {f : Form} {before after : List Text} {tokens : List Token}
    (solid : doubleHyphen ∉ before) :
    ofWords f (before ++ after) = .ok tokens ↔
      ∃ first last, List.Forall₂ (fun word token => ofWord f word = .ok token) before first ∧
        ofWords f after = .ok last ∧ tokens = first ++ last := by
  induction before generalizing tokens with
  | nil => simp
  | cons word before ih =>
    rw [List.mem_cons, not_or] at solid
    rw [List.cons_append]
    constructor
    · intro h
      obtain ⟨token, more, read, others, rfl⟩ := exists_of_ofWords_cons (Ne.symm solid.1) h
      obtain ⟨first, last, front, back, rfl⟩ := (ih solid.2).mp others
      exact ⟨token :: first, last, .cons read front, back, rfl⟩
    · rintro ⟨first, last, front, back, rfl⟩
      cases front with
      | @cons _ token _ first read front =>
        have others := (ih solid.2).mpr ⟨first, last, front, back, rfl⟩
        rw [ofWords_cons (Ne.symm solid.1), read, others]
        rfl

theorem exists_ofWords_main (words : List Text) : ∃ tokens, ofWords .main words = .ok tokens := by
  induction words with
  | nil => exact ⟨[], rfl⟩
  | cons word rest ih =>
    by_cases separator : word = doubleHyphen
    · rw [separator]
      exact ⟨_, rfl⟩
    · obtain ⟨token, read⟩ := exists_ofWord_main word
      obtain ⟨tokens, others⟩ := ih
      exact ⟨token :: tokens, by rw [ofWords_cons separator, read, others]; rfl⟩

end Token

namespace Reading

def beVerbose (r : Reading) : Reading :=
  { r with settings := { r.settings with verbose := true } }

theorem beVerbose_operands (r : Reading) : r.beVerbose.operands = r.operands := rfl

theorem beVerbose_assign (r : Reading) (word : Text) (s : Switch) :
    { r.beVerbose with settings := r.beVerbose.settings.assign word s } =
      beVerbose { r with settings := r.settings.assign word s } := by
  cases s <;> rfl

theorem beVerbose_turnOn (r : Reading) (s : Switch) :
    { r.beVerbose with settings := r.beVerbose.settings.turnOn s } =
      beVerbose { r with settings := r.settings.turnOn s } := by
  cases s <;> rfl

end Reading

theorem readTokens_help (f : Form) (r : Reading) (isShort : Bool) (rest : List Token) :
    readTokens f r (.known .help isShort none :: rest) = .error (.help f) := by
  by_cases value : ∃ word others, rest = .plain word :: others
  · obtain ⟨word, others, rfl⟩ := value
    rw [readTokens.eq_8, if_pos rfl]
  · rw [readTokens.eq_9 _ _ _ _ _ fun word others h => value ⟨word, others, h⟩, if_pos rfl]

theorem readTokens_turnOn {s : Switch} (other : s ≠ .help) (takes : ¬ s.takesValue = true)
    (f : Form) (r : Reading) (isShort : Bool) (rest : List Token) :
    readTokens f r (.known s isShort none :: rest) =
      readTokens f { r with settings := r.settings.turnOn s } rest := by
  by_cases value : ∃ word others, rest = .plain word :: others
  · obtain ⟨word, others, rfl⟩ := value
    rw [readTokens.eq_8, if_neg other, if_neg takes]
  · rw [readTokens.eq_9 _ _ _ _ _ fun word others h => value ⟨word, others, h⟩, if_neg other,
      if_neg takes]

theorem ne_help_of_takesValue {s : Switch} (takes : s.takesValue = true) : s ≠ .help := by
  rintro rfl
  cases takes

theorem readTokens_value {s : Switch} (takes : s.takesValue = true) (f : Form) (r : Reading)
    (isShort : Bool) (word : Text) (rest : List Token) :
    readTokens f r (.known s isShort none :: .plain word :: rest) =
      readTokens f { r with settings := r.settings.assign word s } rest := by
  rw [readTokens.eq_8, if_neg (ne_help_of_takesValue takes), if_pos takes]

theorem readTokens_valueless {s : Switch} (takes : s.takesValue = true) {t : Token}
    (valueless : ∀ word, t ≠ .plain word) (f : Form) (r : Reading) (isShort : Bool)
    (rest : List Token) :
    readTokens f r (.known s isShort none :: t :: rest) = .error (.usage f (.missingValue s)) := by
  rw [readTokens.eq_9 _ _ _ _ _ fun word others h => valueless word (List.cons.inj h).1,
    if_neg (ne_help_of_takesValue takes), if_pos takes]

/-- The tokens are read without regard to the verbose switch. -/
theorem readTokens_beVerbose (f : Form) (r : Reading) (tokens : List Token) :
    readTokens f r.beVerbose tokens = (readTokens f r tokens).map Reading.beVerbose := by
  fun_induction readTokens f r tokens with
  | case1 r => rfl
  | case2 r word rest room ih =>
    rw [readTokens.eq_2, Reading.beVerbose_operands, if_pos room]
    exact ih
  | case3 r word rest full ih =>
    rw [readTokens.eq_2, Reading.beVerbose_operands, if_neg full]
    exact ih
  | case4 r rest alone ih =>
    rw [readTokens.eq_3 _ _ _ alone]
    exact ih
  | case5 r word rest room ih =>
    rw [readTokens.eq_4, Reading.beVerbose_operands, if_pos room]
    exact ih
  | case6 r word rest full ih =>
    rw [readTokens.eq_4, Reading.beVerbose_operands, if_neg full]
    exact ih
  | case7 r word rest alone room ih =>
    rw [readTokens.eq_5 _ _ _ _ alone, Reading.beVerbose_operands, if_pos room]
    exact ih
  | case8 r word rest alone full ih =>
    rw [readTokens.eq_5 _ _ _ _ alone, Reading.beVerbose_operands, if_neg full]
    exact ih
  | case9 r word rest ih =>
    rw [readTokens.eq_6]
    exact ih
  | case10 r s isShort attached rest takes ih =>
    rw [readTokens.eq_7, if_pos takes, Reading.beVerbose_assign]
    exact ih
  | case11 r s attached rest takes =>
    rw [readTokens.eq_7, if_neg takes]
    rfl
  | case12 r s isShort attached rest takes long =>
    rw [readTokens.eq_7, if_neg takes, if_neg long]
    rfl
  | case13 r isShort rest =>
    rw [readTokens_help]
    rfl
  | case14 r s isShort other takes word rest ih =>
    rw [readTokens_value takes, Reading.beVerbose_assign]
    exact ih
  | case15 r s isShort rest other takes valueless =>
    rw [readTokens.eq_9 _ _ _ _ _ valueless, if_neg other, if_pos takes]
    rfl
  | case16 r s isShort rest other takes ih =>
    rw [readTokens_turnOn other takes, Reading.beVerbose_turnOn]
    exact ih

/-- The verbose switch may stand between any two tokens, unless one of them waits
for its value or a separator follows. -/
theorem readTokens_insert (f : Form) {last : List Token}
    (apart : last.head? ≠ some .separator) :
    ∀ (first : List Token) (r : Reading), .separator ∉ first →
      (∀ t, first.getLast? = some t → ¬ t.Waits) →
      readTokens f r (first ++ .known .verbose false none :: last) =
        (readTokens f r (first ++ last)).map Reading.beVerbose
  | [], r, _, _ => by
    rw [List.nil_append, List.nil_append, readTokens_turnOn (by decide) (by decide),
      ← readTokens_beVerbose]
    rfl
  | t :: first, r, single, waits => by
    have singleRest : .separator ∉ first := fun member => single (List.mem_cons_of_mem t member)
    have waitsRest : ∀ u, first.getLast? = some u → ¬ u.Waits := by
      intro u last
      apply waits
      rw [List.getLast?_cons, last, Option.getD_some]
    have ih := fun r => readTokens_insert f apart first r singleRest waitsRest
    rw [List.cons_append, List.cons_append]
    cases t with
    | separator => exact (single List.mem_cons_self).elim
    | plain word =>
      -- a separator right behind a plain word is read together with it, so with and without
      -- the switch none may stand there
      have apartRest : ∀ others, first ++ last ≠ .separator :: others := by
        intro others same
        cases first with
        | nil => exact apart (by rw [List.nil_append] at same; rw [same]; rfl)
        | cons u first =>
          obtain ⟨rfl, -⟩ := List.cons.inj same
          exact singleRest List.mem_cons_self
      have apartInsert : ∀ others,
          first ++ .known .verbose false none :: last ≠ .separator :: others := by
        intro others same
        cases first with
        | nil => cases same
        | cons u first =>
          obtain ⟨rfl, -⟩ := List.cons.inj same
          exact singleRest List.mem_cons_self
      rw [readTokens.eq_5 _ _ _ _ apartRest, readTokens.eq_5 _ _ _ _ apartInsert]
      split
      · exact ih _
      · exact ih _
    | unknown word =>
      rw [readTokens.eq_6, readTokens.eq_6]
      exact ih _
    | known s isShort attached =>
      cases attached with
      | some attached =>
        rw [readTokens.eq_7, readTokens.eq_7]
        split
        · exact ih _
        · split <;> rfl
      | none =>
        by_cases help : s = .help
        · rw [help, readTokens_help, readTokens_help]
          rfl
        by_cases takes : s.takesValue = true
        · cases first with
          | nil => exact (waits _ rfl ⟨s, isShort, rfl, takes⟩).elim
          | cons u first =>
            by_cases value : ∃ word, u = .plain word
            · obtain ⟨word, rfl⟩ := value
              have singleBehind : .separator ∉ first := fun member =>
                singleRest (List.mem_cons_of_mem _ member)
              have waitsBehind : ∀ v, first.getLast? = some v → ¬ v.Waits := by
                intro v last
                apply waitsRest
                rw [List.getLast?_cons, last, Option.getD_some]
              rw [List.cons_append, List.cons_append, readTokens_value takes,
                readTokens_value takes]
              exact readTokens_insert f apart first _ singleBehind waitsBehind
            · have valueless : ∀ word, u ≠ .plain word := fun word same => value ⟨word, same⟩
              rw [List.cons_append, List.cons_append, readTokens_valueless takes valueless,
                readTokens_valueless takes valueless]
              rfl
        · rw [readTokens_turnOn help takes, readTokens_turnOn help takes]
          exact ih _

theorem Command.ofName?_eq_some_iff {word : Text} {c : Command} :
    Command.ofName? word = some c ↔ word = c.name := by
  constructor
  · intro found
    rw [ofName?] at found
    have named := List.find?_some found
    exact (of_decide_eq_true named).symm
  · rintro rfl
    cases c <;> rfl

/-- The main program leaves words over, or its first word names the command. -/
theorem readMain_eq_ok {leftOver words rest left : List Text} {tokens : List Token} {c : Command}
    (h : readMain leftOver words tokens = .ok (c, rest, left)) :
    left ≠ [] ∨ (left = leftOver ∧ words = c.name :: rest) := by
  fun_induction readMain leftOver words tokens with
  | case1 leftOver word words other tokens ih =>
    -- a word that is passed over stays among those left over
    rcases ih h with some | ⟨some, -⟩
    · exact .inl some
    · exact .inl (by rw [some]; simp)
  | case4 leftOver word words other tokens command named =>
    cases h
    exact .inr ⟨rfl, by rw [Command.ofName?_eq_some_iff.mp named]⟩
  | _ => cases h

namespace Invocation

/-- The words behind the name of a command are read by the form of that command, and
those left over are reported by the main program. -/
theorem ofWords_command (c : Command) (rest : List Text) :
    ofWords (c.name :: rest) =
      match readCommand c.form rest with
      | .error d => .error d
      | .ok r =>
        if r.leftOver.isEmpty then .ok (.ofReading c r)
        else .error (.usage .main (.unrecognized r.leftOver)) := by
  obtain ⟨tokens, tokenized⟩ := Token.exists_ofWords_main rest
  have name : Token.ofWord .main c.name = .ok (.plain c.name) := by cases c <;> rfl
  have solid : c.name ≠ doubleHyphen := by cases c <;> decide
  have named : Command.ofName? c.name = some c := Command.ofName?_eq_some_iff.mpr rfl
  rw [ofWords, Token.ofWords_cons solid, name, tokenized]
  cases read : readCommand c.form rest with
  | error d => simp only [Except.map, readMain, named, read]
  | ok r => simp only [Except.map, readMain, named, read, List.nil_append]

/-- A command line asks for work if its first word names a command, and the words
behind that are read without any left over. -/
theorem ofWords_eq_ok_iff {words : List Text} {invocation : Invocation} :
    ofWords words = .ok invocation ↔
      ∃ c rest r, words = c.name :: rest ∧ readCommand c.form rest = .ok r ∧ r.leftOver = [] ∧
        invocation = .ofReading c r := by
  constructor
  · intro h
    obtain ⟨tokens, tokenized⟩ := Token.exists_ofWords_main words
    rw [ofWords, tokenized] at h
    simp only at h
    cases found : readMain [] words tokens with
    | error d => simp [found] at h
    | ok result =>
      obtain ⟨c, rest, left⟩ := result
      simp only [found] at h
      cases read : readCommand c.form rest with
      | error d => simp [read] at h
      | ok r =>
        simp only [read] at h
        split at h
        · next nothing =>
          obtain ⟨inFront, behind⟩ := List.append_eq_nil_iff.mp (List.isEmpty_iff.mp nothing)
          rcases readMain_eq_ok found with some | ⟨-, named⟩
          · exact (some inFront).elim
          · exact ⟨c, rest, r, named, read, behind, (Except.ok.inj h).symm⟩
        · cases h
  · rintro ⟨c, rest, r, rfl, read, none, rfl⟩
    rw [ofWords_command, read]
    simp only [none, List.isEmpty_nil, ↓reduceIte]

end Invocation

/-- A place among the words of a command where one more switch without value may
stand: not behind the separator, not where a value is awaited, and not right in
front of the separator unless nothing stands before it. -/
structure TakesSwitch (f : Form) (before after : List Text) : Prop where
  unseparated : doubleHyphen ∉ before
  unawaited : ∀ word token, before.getLast? = some word → Token.ofWord f word = .ok token →
    ¬ token.Waits
  apart : before = [] ∨ after.head? ≠ some doubleHyphen

theorem separator_notMem {f : Form} {words : List Text} {tokens : List Token}
    (read : List.Forall₂ (fun word token => Token.ofWord f word = .ok token) words tokens) :
    .separator ∉ tokens := by
  induction read with
  | nil => exact List.not_mem_nil
  | cons first _ ih =>
    rw [List.mem_cons, not_or]
    exact ⟨fun same => Token.ofWord_ne_separator (same ▸ first), ih⟩

theorem exists_getLast? {f : Form} {words : List Text} {tokens : List Token} {token : Token}
    (read : List.Forall₂ (fun word token => Token.ofWord f word = .ok token) words tokens)
    (last : tokens.getLast? = some token) :
    ∃ word, words.getLast? = some word ∧ Token.ofWord f word = .ok token := by
  induction read with
  | nil => cases last
  | @cons word first words tokens head tail ih =>
    cases tail with
    | nil =>
      obtain rfl := Option.some.inj last
      exact ⟨word, rfl, head⟩
    | cons _ _ =>
      rw [List.getLast?_cons_cons] at last ⊢
      exact ih last

theorem head?_ofWords {f : Form} {words : List Text} {tokens : List Token}
    (h : Token.ofWords f words = .ok tokens) (apart : words.head? ≠ some doubleHyphen) :
    tokens.head? ≠ some .separator := by
  cases words with
  | nil =>
    obtain rfl := Except.ok.inj h
    exact Option.some_ne_none _ ∘ Eq.symm
  | cons word rest =>
    have solid : word ≠ doubleHyphen := fun same => apart (congrArg some same)
    obtain ⟨token, more, read, -, rfl⟩ := Token.exists_of_ofWords_cons solid h
    exact fun same => Token.ofWord_ne_separator (Option.some.inj same ▸ read)

theorem readCommand_eq_ok_iff {f : Form} {words : List Text} {r : Reading} :
    readCommand f words = .ok r ↔
      ∃ tokens, Token.ofWords f words = .ok tokens ∧ readTokens f .initial tokens = .ok r ∧
        ¬ r.operands.length < f.operands.length := by
  unfold readCommand
  cases Token.ofWords f words with
  | error e => simp
  | ok tokens =>
    cases read : readTokens f .initial tokens with
    | error d => simp [read]
    | ok r' =>
      simp only [read, Except.ok.injEq, exists_eq_left']
      split
      · next short => grind
      · next full => grind

/-- The verbose switch is read wherever a switch may stand, and nothing else is read
in another way because of it. -/
theorem readCommand_insert {before after : List Text} {r : Reading}
    (place : TakesSwitch .compare before after)
    (h : readCommand .compare (before ++ after) = .ok r) :
    readCommand .compare (before ++ ("--verbose" : Text) :: after) = .ok r.beVerbose := by
  rw [readCommand_eq_ok_iff] at h ⊢
  obtain ⟨tokens, tokenized, read, full⟩ := h
  obtain ⟨first, last, front, back, rfl⟩ := (Token.ofWords_append place.unseparated).mp tokenized
  have switch : Token.ofWords .compare (("--verbose" : Text) :: after) =
      .ok (.known .verbose false none :: last) := by
    rw [Token.ofWords_cons (by decide), back]
    rfl
  refine ⟨first ++ .known .verbose false none :: last,
    (Token.ofWords_append place.unseparated).mpr ⟨first, _, front, switch, rfl⟩, ?_, full⟩
  have inserted : readTokens .compare .initial (first ++ .known .verbose false none :: last) =
      (readTokens .compare .initial (first ++ last)).map Reading.beVerbose := by
    rcases place.apart with rfl | apart
    · cases front
      rw [List.nil_append, List.nil_append, readTokens_turnOn (by decide) (by decide),
        ← readTokens_beVerbose]
      rfl
    · refine readTokens_insert .compare (head?_ofWords back apart) first .initial
        (separator_notMem front) ?_
      intro token last
      obtain ⟨word, lastWord, token⟩ := exists_getLast? front last
      exact place.unawaited word _ lastWord token
  rw [inserted, read]
  rfl

/-- A command line for a comparison asks for the same comparison, and for its trace,
once the verbose switch is added. -/
theorem Invocation.ofWords_insert {before after : List Text} {expected actual : Operand}
    {asked : Option Text} {verbose : Bool} (place : TakesSwitch .compare before after)
    (h : ofWords (Command.compare.name :: (before ++ after)) =
      .ok (.compare expected actual asked verbose)) :
    ofWords (Command.compare.name :: (before ++ ("--verbose" : Text) :: after)) =
      .ok (.compare expected actual asked true) := by
  obtain ⟨c, rest, r, words, read, none, same⟩ := ofWords_eq_ok_iff.mp h
  cases c with
  | compare =>
    obtain rfl := (List.cons.inj words).2
    refine ofWords_eq_ok_iff.mpr ⟨.compare, _, r.beVerbose, rfl, readCommand_insert place read,
      none, ?_⟩
    cases same
    rfl
  | inspect => cases same
  | languages => cases same

end SyntaxParity.CommandLine
