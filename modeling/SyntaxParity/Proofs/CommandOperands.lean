import SyntaxParity.Proofs.CommandWords

/-!
Which operands and values of a command line can be absent. A double hyphen is never
the value of a switch; of the values given to one, the last counts, and a double hyphen
for none. It can take the place of an operand only behind the separator,
and the operand next to the separator is kept whatever it is; so the first operand of
a command is never absent, and the second only behind a second double hyphen.
-/

namespace SyntaxParity.CommandLine

namespace Token

/-- The tokens that words can have: behind the separator stand words only, and no word
in front of it is a double hyphen. -/
inductive Spelled : List Token → Prop where
  | nil : Spelled []
  | separator (words : List Text) : Spelled (.separator :: words.map .plain)
  | cons {t : Token} {rest : List Token} (first : t ≠ .separator)
    (solid : t ≠ .plain doubleHyphen) (others : Spelled rest) : Spelled (t :: rest)

theorem Spelled.tail {t : Token} {rest : List Token} (h : Spelled (t :: rest))
    (first : t ≠ .separator) : Spelled rest := by
  cases h with
  | separator => exact (first rfl).elim
  | cons _ _ others => exact others

theorem Spelled.ne_doubleHyphen {word : Text} {rest : List Token}
    (h : Spelled (.plain word :: rest)) : word ≠ doubleHyphen := by
  cases h with
  | cons _ solid _ => exact fun same => solid (congrArg plain same)

/-- A separator before no word is the last token. -/
theorem Spelled.eq_nil {rest : List Token} (h : Spelled (.separator :: rest))
    (alone : ∀ word others, rest = .plain word :: others → False) : rest = [] := by
  cases h with
  | separator words =>
    cases words with
    | nil => rfl
    | cons word words => exact (alone word _ rfl).elim
  | cons first _ _ => exact (first rfl).elim

theorem eq_of_ofWord_plain {f : Form} {word word' : Text} (h : ofWord f word = .ok (.plain word')) :
    word' = word := by
  simp only [ofWord] at h
  grind

theorem spelled_of_ofWords {f : Form} {words : List Text} {tokens : List Token}
    (h : ofWords f words = .ok tokens) : Spelled tokens := by
  induction words generalizing tokens with
  | nil =>
    obtain rfl := Except.ok.inj h
    exact .nil
  | cons word rest ih =>
    by_cases separator : word = doubleHyphen
    · rw [separator] at h
      obtain rfl := Except.ok.inj h
      exact .separator rest
    · obtain ⟨token, more, read, others, rfl⟩ := exists_of_ofWords_cons separator h
      refine .cons (fun same => ofWord_ne_separator (same ▸ read)) ?_ (ih others)
      intro same
      rw [same] at read
      exact separator (eq_of_ofWord_plain read).symm

/-- A double hyphen is a plain word only behind the separator. -/
theorem exists_behind_separator {f : Form} {words : List Text} {tokens : List Token}
    (h : ofWords f words = .ok tokens) (plain : .plain doubleHyphen ∈ tokens) :
    ∃ before after, words = before ++ doubleHyphen :: after ∧ doubleHyphen ∈ after := by
  induction words generalizing tokens with
  | nil =>
    obtain rfl := Except.ok.inj h
    cases plain
  | cons word rest ih =>
    by_cases separator : word = doubleHyphen
    · rw [separator] at h
      obtain rfl := Except.ok.inj h
      exact ⟨[], rest, by rw [separator]; rfl, by simpa using plain⟩
    · obtain ⟨token, more, read, others, rfl⟩ := exists_of_ofWords_cons separator h
      rcases List.mem_cons.mp plain with same | behind
      · exact (separator (eq_of_ofWord_plain (same ▸ read)).symm).elim
      · obtain ⟨before, after, rfl, member⟩ := ih others behind
        exact ⟨word :: before, after, rfl, member⟩

end Token

theorem valueOf_ne_doubleHyphen (word : Text) : valueOf word ≠ some doubleHyphen := by
  unfold valueOf
  split_ifs with same
  · exact nofun
  · exact fun kept => same (Option.some.inj kept)

/-- A reading whose first operand, if there is one, is not absent, and whose language is
not a double hyphen. -/
structure Reading.Sound (r : Reading) : Prop where
  first : r.operands.head? ≠ some none
  language : r.settings.language ≠ some doubleHyphen

namespace Reading.Sound

variable {r : Reading}

theorem initial : Sound .initial :=
  ⟨by decide, by decide⟩

theorem addOperand (sound : r.Sound) {operand : Operand}
    (kept : r.operands = [] → operand ≠ none) : (r.addOperand operand).Sound := by
  refine ⟨?_, sound.language⟩
  cases operands : r.operands with
  | nil =>
    rw [Reading.addOperand, operands]
    exact fun same => kept operands (Option.some.inj same)
  | cons first others =>
    rw [Reading.addOperand, operands]
    exact fun same => sound.first (by rw [operands]; exact same)

theorem addLeftOver (sound : r.Sound) (words : List Text) : (r.addLeftOver words).Sound :=
  ⟨sound.first, sound.language⟩

theorem assign (sound : r.Sound) (word : Text) (s : Switch) :
    Sound { r with settings := r.settings.assign word s } := by
  refine ⟨sound.first, ?_⟩
  cases s with
  | language => exact valueOf_ne_doubleHyphen word
  | help => exact sound.language
  | verbose => exact sound.language
  | allNodes => exact sound.language

theorem turnOn (sound : r.Sound) (s : Switch) :
    Sound { r with settings := r.settings.turnOn s } := by
  refine ⟨sound.first, ?_⟩
  cases s <;> exact sound.language

end Reading.Sound

theorem Reading.addOperand_ne_nil (r : Reading) (operand : Operand) :
    (r.addOperand operand).operands ≠ [] := by
  simp [addOperand]

/-- Sound readings stay sound. As long as there is no operand, the tokens to come are as
words can have them; with the first operand nothing is asked of them any more. -/
theorem sound_of_readTokens {f : Form} (takes : f.operands ≠ []) {r r' : Reading}
    {tokens : List Token} (sound : r.Sound) (spelled : r.operands = [] → Token.Spelled tokens)
    (h : readTokens f r tokens = .ok r') : r'.Sound := by
  -- a reading that takes no more operands has one
  have given {r : Reading} (full : ¬ r.operands.length < f.operands.length) : r.operands ≠ [] := by
    intro none
    rw [none] at full
    exact full (List.length_pos_iff.mpr takes)
  fun_induction readTokens f r tokens with
  | case1 r =>
    obtain rfl := Except.ok.inj h
    exact sound
  | case2 r word rest room ih =>
    refine ih (sound.addOperand fun _ => Option.some_ne_none word) ?_ h
    exact fun none => (r.addOperand_ne_nil _ none).elim
  | case3 r word rest full ih =>
    exact ih (sound.addLeftOver _) (fun none => (given full none).elim) h
  | case4 r rest alone ih =>
    refine ih (sound.addLeftOver _) (fun none => ?_) h
    rw [(spelled none).eq_nil alone]
    exact .nil
  | case5 r word rest room ih =>
    refine ih (sound.addOperand fun _ => Option.some_ne_none word) ?_ h
    exact fun none => (r.addOperand_ne_nil _ none).elim
  | case6 r word rest full ih =>
    exact ih (sound.addLeftOver _) (fun none => (given full none).elim) h
  | case7 r word rest alone room ih =>
    refine ih (sound.addOperand fun none => ?_) ?_ h
    · rw [valueOf, if_neg (spelled none).ne_doubleHyphen]
      exact Option.some_ne_none word
    · exact fun none => (r.addOperand_ne_nil _ none).elim
  | case8 r word rest alone full ih =>
    exact ih (sound.addLeftOver _) (fun none => (given full none).elim) h
  | case9 r word rest ih =>
    exact ih (sound.addLeftOver _) (fun none => (spelled none).tail (by simp)) h
  | case10 r s isShort attached rest takes ih =>
    exact ih (sound.assign _ _) (fun none => (spelled none).tail (by simp)) h
  | case11 r s attached rest takes => cases h
  | case12 r s isShort attached rest takes long => cases h
  | case13 r isShort rest => cases h
  | case14 r s isShort other takes word rest ih =>
    exact ih (sound.assign _ _) (fun none => ((spelled none).tail (by simp)).tail (by simp)) h
  | case15 r s isShort rest other takes valueless => cases h
  | case16 r s isShort rest other takes ih =>
    exact ih (sound.turnOn _) (fun none => (spelled none).tail (by simp)) h

/-- An operand that is absent was so before, or its place is taken by a double hyphen. -/
theorem absent_of_readTokens {f : Form} {r r' : Reading} {tokens : List Token}
    (h : readTokens f r tokens = .ok r') (absent : none ∈ r'.operands) :
    none ∈ r.operands ∨ .plain doubleHyphen ∈ tokens := by
  fun_induction readTokens f r tokens with
  | case1 r =>
    obtain rfl := Except.ok.inj h
    exact .inl absent
  | case2 r word rest room ih | case5 r word rest room ih =>
    -- the word next to the separator is kept whatever it is
    rcases ih h with before | behind
    · left
      simpa [Reading.addOperand] using before
    · exact .inr (by simp [behind])
  | case7 r word rest alone room ih =>
    rcases ih h with before | behind
    · rcases List.mem_append.mp before with before | added
      · exact .inl before
      · right
        have dropped : valueOf word = none := (List.mem_singleton.mp added).symm
        have same : word = doubleHyphen := by simpa [valueOf] using dropped
        rw [same]
        exact List.mem_cons_self
    · exact .inr (List.mem_cons_of_mem _ behind)
  | case3 r word rest full ih | case6 r word rest full ih | case8 r word rest alone full ih
  | case4 r rest alone ih | case9 r word rest ih | case10 r s isShort attached rest takes ih
  | case14 r s isShort other takes word rest ih | case16 r s isShort rest other takes ih =>
    rcases ih h with before | behind
    · exact .inl before
    · exact .inr (by simp_all)
  | case11 | case12 | case13 | case15 => cases h

def Token.languagesGiven : List Token → List Text
  | .known .language _ (some value) :: rest => value :: languagesGiven rest
  | .known .language _ none :: .plain value :: rest => value :: languagesGiven rest
  | _ :: rest => languagesGiven rest
  | [] => []

/-- Of the values that are given to the language switch the last one counts. -/
theorem language_of_readTokens {f : Form} {r r' : Reading} {tokens : List Token}
    (h : readTokens f r tokens = .ok r') :
    r'.settings.language =
      (Token.languagesGiven tokens).getLast?.elim r.settings.language valueOf := by
  have given (value : Text) (values : List Text) (o : Option Text) :
      (value :: values).getLast?.elim o valueOf =
        values.getLast?.elim (valueOf value) valueOf := by
    rw [List.getLast?_cons]
    cases values.getLast? <;> rfl
  fun_induction readTokens f r tokens with
  | case1 r =>
    obtain rfl := Except.ok.inj h
    rfl
  | case2 r word rest _ ih | case3 r word rest _ ih | case4 r rest _ ih | case5 r word rest _ ih
  | case6 r word rest _ ih | case7 r word rest _ _ ih | case8 r word rest _ _ ih
  | case9 r word rest ih => exact ih h
  | case10 r s isShort attached rest takes ih =>
    cases s with
    | language => rw [Token.languagesGiven, given, ih h]; rfl
    | help | verbose | allNodes => cases takes
  | case14 r s isShort other takes word rest ih =>
    cases s with
    | language => rw [Token.languagesGiven, given, ih h]; rfl
    | help | verbose | allNodes => cases takes
  | case16 r s isShort rest other takes ih =>
    cases s with
    | language => exact (takes rfl).elim
    | help => exact (other rfl).elim
    | verbose | allNodes => exact ih h
  | case11 | case12 | case13 | case15 => cases h

/-- The value that the words of a command line give to the language switch, the last if there
are several. -/
def languageGiven? : (words : List Text) → Option Text
  | [] => none
  | name :: rest =>
    match Command.ofName? name with
    | none => none
    | some c =>
      match Token.ofWords c.form rest with
      | .error _ => none
      | .ok tokens => (Token.languagesGiven tokens).getLast?

theorem language_of_readCommand {c : Command} {rest : List Text} {r : Reading}
    (read : readCommand c.form rest = .ok r) :
    r.settings.language = (languageGiven? (c.name :: rest)).bind valueOf := by
  obtain ⟨tokens, tokenized, reads, -⟩ := readCommand_eq_ok_iff.mp read
  have named : Command.ofName? c.name = some c := Command.ofName?_eq_some_iff.mpr rfl
  rw [language_of_readTokens reads, languageGiven?, named]
  simp only [tokenized]
  cases (Token.languagesGiven tokens).getLast? <;> rfl

/-- The language that a comparison or an outline is asked for under is the value given last,
unless that is a double hyphen. -/
theorem asked_of_compare {words : List Text} {expected actual : Operand} {asked : Option Text}
    {verbose : Bool} (h : Invocation.ofWords words = .ok (.compare expected actual asked verbose)) :
    asked = (languageGiven? words).bind valueOf := by
  obtain ⟨c, rest, r, rfl, read, -, same⟩ := Invocation.ofWords_eq_ok_iff.mp h
  cases c with
  | compare =>
    obtain ⟨-, -, rfl, -⟩ := Invocation.compare.inj same
    exact language_of_readCommand read
  | inspect | languages => cases same

theorem asked_of_inspect {words : List Text} {file : Operand} {asked : Option Text}
    {allNodes : Bool} (h : Invocation.ofWords words = .ok (.inspect file asked allNodes)) :
    asked = (languageGiven? words).bind valueOf := by
  obtain ⟨c, rest, r, rfl, read, -, same⟩ := Invocation.ofWords_eq_ok_iff.mp h
  cases c with
  | inspect =>
    obtain ⟨-, rfl, -⟩ := Invocation.inspect.inj same
    exact language_of_readCommand read
  | compare | languages => cases same

/-- The expected operand of a comparison is never absent, and the language that it asks
for is never a double hyphen. -/
theorem given_of_ofWords {words : List Text} {expected actual : Operand} {asked : Option Text}
    {verbose : Bool} (h : Invocation.ofWords words = .ok (.compare expected actual asked verbose)) :
    (∃ word, expected = some word) ∧ asked ≠ some doubleHyphen := by
  obtain ⟨c, rest, r, -, read, -, same⟩ := Invocation.ofWords_eq_ok_iff.mp h
  cases c with
  | inspect => cases same
  | languages => cases same
  | compare =>
    obtain ⟨tokens, tokenized, reads, full⟩ := readCommand_eq_ok_iff.mp read
    have sound : r.Sound :=
      sound_of_readTokens (List.cons_ne_nil _ _) .initial (fun _ =>
        Token.spelled_of_ofWords tokenized) reads
    obtain ⟨rfl, -, rfl, -⟩ := Invocation.compare.inj same
    refine ⟨?_, sound.language⟩
    have first := sound.first
    rcases operands : r.operands with _ | ⟨_ | word, others⟩
    · rw [operands] at full
      exact (full (by decide)).elim
    · rw [operands] at first
      exact (first rfl).elim
    · exact ⟨word, rfl⟩

/-- An actual operand is absent only where a second double hyphen stands behind the
separator. -/
theorem doubleHyphen_of_absent {words : List Text} {expected : Operand} {asked : Option Text}
    {verbose : Bool} (h : Invocation.ofWords words = .ok (.compare expected none asked verbose)) :
    ∃ before after, words = before ++ doubleHyphen :: after ∧ doubleHyphen ∈ after := by
  obtain ⟨c, rest, r, rfl, read, -, same⟩ := Invocation.ofWords_eq_ok_iff.mp h
  cases c with
  | inspect | languages => cases same
  | compare =>
    obtain ⟨tokens, tokenized, reads, full⟩ := readCommand_eq_ok_iff.mp read
    have second : none = r.operands[1]?.join := (Invocation.compare.inj same).2.1
    have absent : none ∈ r.operands := by
      have bound : 1 < r.operands.length := Nat.lt_of_lt_of_le (by decide) (Nat.le_of_not_lt full)
      rw [List.getElem?_eq_getElem bound, Option.join_some] at second
      rw [second]
      exact List.getElem_mem bound
    rcases absent_of_readTokens reads absent with before | behind
    · cases before
    · obtain ⟨before, after, rfl, member⟩ := Token.exists_behind_separator tokenized behind
      exact ⟨Command.compare.name :: before, after, rfl, member⟩

end SyntaxParity.CommandLine
