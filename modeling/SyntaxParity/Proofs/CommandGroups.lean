import SyntaxParity.Proofs.CommandRuns
import SyntaxParity.Proofs.CommandWords

/-!
Command lines of a comparison that are made of groups: operands, and switches with what
belongs to them, in any number and any order. A switch may be cut short where that leaves
one meaning. How such a line is read can be said from its groups: the operands are kept in
order, the last language counts, and the verbose switch counts wherever it stands. Behind
switches, a second double hyphen next to an operand drops the actual operand.
-/

namespace SyntaxParity.CommandLine

/-- A word that begins one spelling of a form only, which is a spelling of the switch. -/
def Form.Abbreviates (f : Form) (word : Text) (s : Switch) : Prop :=
  ∃ name, f.spellings.filter (fun (spelling, _) => word.isPrefixOf spelling) = [(name, s)]

namespace Form.Abbreviates

variable {f : Form} {word : Text} {s : Switch}

theorem exists_spelling (abbreviates : f.Abbreviates word s) :
    ∃ name, (name, s) ∈ f.spellings ∧ word <+: name := by
  obtain ⟨name, only⟩ := abbreviates
  obtain ⟨member, begins⟩ := List.mem_filter.mp (only ▸ List.mem_singleton_self (name, s))
  exact ⟨name, member, List.isPrefixOf_iff_prefix.mp begins⟩

/-- A whole spelling abbreviates its own switch. -/
theorem eq_of_lookup {s' : Switch} (abbreviates : f.Abbreviates word s)
    (known : f.spellings.lookup word = some s') : s' = s := by
  obtain ⟨name, only⟩ := abbreviates
  obtain ⟨first, last, split, -⟩ := List.lookup_eq_some_iff.mp known
  have member : (word, s') ∈ f.spellings.filter fun (spelling, _) => word.isPrefixOf spelling := by
    apply List.mem_filter.mpr
    exact ⟨by rw [split]; simp, by simp⟩
  rw [only] at member
  exact (Prod.mk.inj (List.mem_singleton.mp member)).2

end Form.Abbreviates

namespace Token

variable {f : Form} {s : Switch} {rest : Text}

theorem kept_of_notMem {word : Text} (solid : equalsSign ∉ word) :
    ∀ c ∈ word, (c != equalsSign) = true := by
  intro c member
  exact bne_iff_ne.mpr (ne_of_mem_of_not_mem member solid)

theorem cut_of_notMem {word : Text} (solid : equalsSign ∉ word) : cut word = (word, none) := by
  have kept := kept_of_notMem solid
  rw [cut_eq, List.takeWhile_eq_self_iff.mpr kept, List.dropWhile_eq_nil_iff.mpr kept]
  rfl

theorem cut_attached {word : Text} (solid : equalsSign ∉ word) (value : Text) :
    cut (word ++ equalsSign :: value) = (word, some value) := by
  have kept := kept_of_notMem solid
  rw [cut_eq, List.takeWhile_append_of_pos kept, List.dropWhile_append_of_pos kept]
  simp

/-- The one reading of a word that cuts a long spelling short. -/
theorem candidates_of_abbreviates (word : Text) {beginning : Text} {attached : Option Text}
    (long : word.take 2 = [hyphen, hyphen]) (parts : cut word = (beginning, attached))
    (abbreviates : f.Abbreviates beginning s) :
    ∃ name, beginning <+: name ∧ candidates f word = [(name, s, attached)] := by
  obtain ⟨name, only⟩ := abbreviates
  have begins := (List.mem_filter.mp (only ▸ List.mem_singleton_self (name, s))).2
  refine ⟨name, List.isPrefixOf_iff_prefix.mp begins, ?_⟩
  rw [candidates, if_pos long, parts]
  simp only [only, List.map_cons, List.map_nil]

theorem isShort_of_long (rest : Text) : isShort (hyphen :: hyphen :: rest) = false := rfl

theorem isShort_of_prefix {name : Text} (begins : hyphen :: hyphen :: rest <+: name) :
    isShort name = false := by
  obtain ⟨more, rfl⟩ := begins
  exact isShort_of_long (rest ++ more)

/-- A long spelling that is cut short is read as its switch. -/
theorem ofWord_of_abbreviates (solid : equalsSign ∉ hyphen :: hyphen :: rest)
    (abbreviates : f.Abbreviates (hyphen :: hyphen :: rest) s) :
    ofWord f (hyphen :: hyphen :: rest) = .ok (.known s false none) := by
  obtain ⟨name, begins, only⟩ :=
    candidates_of_abbreviates (hyphen :: hyphen :: rest) rfl (cut_of_notMem solid) abbreviates
  have opens : ¬ (hyphen :: hyphen :: rest).head? ≠ some hyphen := fun other => other rfl
  have long : ¬ (hyphen :: hyphen :: rest).length = 1 := by simp
  rw [ofWord, if_neg opens]
  cases known : f.spellings.lookup (hyphen :: hyphen :: rest) with
  | some s' =>
    rw [abbreviates.eq_of_lookup known]
    rfl
  | none =>
    simp only [if_neg long, cut_of_notMem solid, Option.isSome_none, Bool.false_eq_true,
      ↓reduceIte, only, isShort_of_prefix begins]

/-- What stands behind an equals sign is attached to the switch in front of it. -/
theorem ofWord_attached (plain : ∀ p ∈ f.spellings, equalsSign ∉ p.1)
    (solid : equalsSign ∉ hyphen :: hyphen :: rest)
    (abbreviates : f.Abbreviates (hyphen :: hyphen :: rest) s) (value : Text) :
    ofWord f (hyphen :: hyphen :: rest ++ equalsSign :: value) =
      .ok (.known s false (some value)) := by
  have parts := cut_attached solid value
  obtain ⟨name, begins, only⟩ :=
    candidates_of_abbreviates (hyphen :: hyphen :: rest ++ equalsSign :: value) rfl parts
      abbreviates
  have opens : ¬ (hyphen :: hyphen :: rest ++ equalsSign :: value).head? ≠ some hyphen :=
    fun other => other rfl
  have long : ¬ (hyphen :: hyphen :: rest ++ equalsSign :: value).length = 1 := by simp
  have unknown : f.spellings.lookup (hyphen :: hyphen :: rest ++ equalsSign :: value) = none := by
    apply List.lookup_eq_none_iff.mpr
    intro p member
    apply bne_iff_ne.mpr
    intro same
    apply plain p member
    rw [← same]
    simp
  rw [ofWord, if_neg opens, unknown]
  simp only [if_neg long, parts, Option.isSome_some, ↓reduceIte, only, isShort_of_prefix begins]
  cases known : f.spellings.lookup (hyphen :: hyphen :: rest) with
  | some s' => rw [abbreviates.eq_of_lookup known, isShort_of_long]
  | none => rfl

end Token

/-- The spellings of the switches of a comparison other than help have two hyphens in front
and no equals sign. -/
theorem long_of_mem_spellings {name : Text} {s : Switch}
    (member : (name, s) ∈ Form.spellings .compare) (other : s ≠ .help) :
    (∃ tail, name = Token.hyphen :: Token.hyphen :: tail) ∧ Token.equalsSign ∉ name := by
  have long : ∀ p ∈ Form.spellings .compare, p.2 ≠ .help →
      p.1.take 2 = [Token.hyphen, Token.hyphen] ∧ Token.equalsSign ∉ p.1 := by
    decide
  obtain ⟨front, solid⟩ := long (name, s) member other
  refine ⟨⟨name.drop 2, ?_⟩, solid⟩
  calc
    name = name.take 2 ++ name.drop 2 := (List.take_append_drop 2 name).symm
    _ = Token.hyphen :: Token.hyphen :: name.drop 2 := by rw [front]; rfl

/-- So it is with what abbreviates such a switch, since a shorter beginning is one of several
spellings. -/
theorem long_of_abbreviates {word : Text} {s : Switch}
    (abbreviates : Form.compare.Abbreviates word s) (other : s ≠ .help) :
    ∃ rest, word = Token.hyphen :: Token.hyphen :: rest ∧ Token.equalsSign ∉ word := by
  obtain ⟨name, member, begins⟩ := abbreviates.exists_spelling
  obtain ⟨⟨tail, rfl⟩, plain⟩ := long_of_mem_spellings member other
  have solid : Token.equalsSign ∉ word := fun sign => plain (begins.subset sign)
  obtain ⟨unique, only⟩ := abbreviates
  rcases word with _ | ⟨c, _ | ⟨d, rest⟩⟩
  · cases only
  · obtain ⟨rfl, -⟩ := List.cons_prefix_cons.mp begins
    cases only
  · obtain ⟨rfl, behind⟩ := List.cons_prefix_cons.mp begins
    obtain ⟨rfl, -⟩ := List.cons_prefix_cons.mp behind
    exact ⟨rest, rfl, solid⟩

/-- A piece of the command line of a comparison: an operand, or a switch with what belongs
to it. The value of the language is the next word or attached by an equals sign. -/
inductive Group where
  | operand (word : Text) (plain : word.head? ≠ some Token.hyphen)
  | verbose (spelling : Text) (abbreviates : Form.compare.Abbreviates spelling .verbose)
  | language (spelling value : Text) (abbreviates : Form.compare.Abbreviates spelling .language)
    (plain : value.head? ≠ some Token.hyphen)
  | attached (spelling value : Text) (abbreviates : Form.compare.Abbreviates spelling .language)

namespace Group

def words : Group → List Text
  | operand word _ => [word]
  | verbose spelling _ => [spelling]
  | language spelling value _ _ => [spelling, value]
  | attached spelling value _ => [spelling ++ Token.equalsSign :: value]

def tokens : Group → List Token
  | operand word _ => [.plain word]
  | verbose _ _ => [.known .verbose false none]
  | language _ value _ _ => [.known .language false none, .plain value]
  | attached _ value _ => [.known .language false (some value)]

def operand? : Group → Option Text
  | operand word _ => some word
  | _ => none

def language? : Group → Option Text
  | language _ value _ _ => some value
  | attached _ value _ => some value
  | _ => none

def isVerbose : Group → Bool
  | verbose _ _ => true
  | _ => false

theorem ofWord_tokens (g : Group) :
    List.Forall₂ (fun word token => Token.ofWord .compare word = .ok token) g.words g.tokens := by
  have plain {word : Text} (plain : word.head? ≠ some Token.hyphen) :
      Token.ofWord .compare word = .ok (.plain word) := if_pos plain
  have known {word : Text} {s : Switch} (abbreviates : Form.compare.Abbreviates word s)
      (other : s ≠ .help) : Token.ofWord .compare word = .ok (.known s false none) := by
    obtain ⟨rest, rfl, solid⟩ := long_of_abbreviates abbreviates other
    exact Token.ofWord_of_abbreviates solid abbreviates
  cases g with
  | operand word free => exact .cons (plain free) .nil
  | verbose spelling abbreviates => exact .cons (known abbreviates (by decide)) .nil
  | language spelling value abbreviates free =>
    exact .cons (known abbreviates (by decide)) (.cons (plain free) .nil)
  | attached spelling value abbreviates =>
    obtain ⟨rest, rfl, solid⟩ := long_of_abbreviates abbreviates (by decide)
    have names : ∀ p ∈ Form.spellings .compare, Token.equalsSign ∉ p.1 := by decide
    exact .cons (Token.ofWord_attached names solid abbreviates value) .nil

def operands (groups : List Group) : List Text :=
  groups.filterMap operand?

def languages (groups : List Group) : List Text :=
  groups.filterMap language?

/-- The language that a line of groups asks for: the last that it gives, unless this is a
double hyphen. -/
def asked (groups : List Group) : Option Text :=
  (languages groups).getLast?.bind valueOf

def settings (groups : List Group) : Settings :=
  ⟨asked groups, groups.any isVerbose, false⟩

theorem operands_concat (done : List Group) (g : Group) :
    operands (done ++ [g]) = operands done ++ g.operand?.toList := by
  rw [operands, List.filterMap_append]
  cases found : g.operand? <;> simp [operands, found]

theorem asked_concat (done : List Group) (g : Group) :
    asked (done ++ [g]) = match g.language? with
      | some value => valueOf value
      | none => asked done := by
  rw [asked, languages, List.filterMap_append]
  cases found : g.language? <;> simp [asked, languages, found]

theorem settings_operand (done : List Group) (word : Text)
    (plain : word.head? ≠ some Token.hyphen) :
    settings (done ++ [operand word plain]) = settings done := by
  simp [settings, asked_concat, language?, isVerbose]

theorem settings_verbose (done : List Group) (spelling : Text)
    (abbreviates : Form.compare.Abbreviates spelling .verbose) :
    settings (done ++ [verbose spelling abbreviates]) = (settings done).turnOn .verbose := by
  simp [settings, asked_concat, language?, isVerbose, Settings.turnOn]

theorem settings_language (done : List Group) {g : Group} {value : Text}
    (gives : g.language? = some value) :
    settings (done ++ [g]) = (settings done).assign value .language := by
  have quiet : g.isVerbose = false := by
    cases g with
    | verbose => cases gives
    | _ => rfl
  simp [settings, asked_concat, gives, quiet, Settings.assign]

end Group

/-- What is read of a line of groups. Operands beyond those of a comparison are left over. -/
def Reading.ofGroups (groups : List Group) : Reading where
  operands := ((Group.operands groups).take Form.compare.operands.length).map some
  settings := Group.settings groups
  leftOver := (Group.operands groups).drop Form.compare.operands.length

theorem Reading.ofGroups_operand (done : List Group) (word : Text)
    (plain : word.head? ≠ some Token.hyphen) :
    ofGroups (done ++ [.operand word plain]) =
      if (ofGroups done).operands.length < Form.compare.operands.length then
        (ofGroups done).addOperand (some word)
      else
        (ofGroups done).addLeftOver [word] := by
  have operands : Group.operands (done ++ [.operand word plain]) =
      Group.operands done ++ [word] := Group.operands_concat _ _
  have bound : (ofGroups done).operands.length < Form.compare.operands.length ↔
      (Group.operands done).length < Form.compare.operands.length := by
    simp only [ofGroups, List.length_map, List.length_take]
    omega
  simp only [bound]
  rw [ofGroups, operands, Group.settings_operand, List.take_append, List.drop_append]
  split
  · next room =>
    obtain ⟨more, left⟩ := Nat.exists_eq_succ_of_ne_zero (Nat.sub_ne_zero_of_lt room)
    rw [left, List.take_succ_cons, List.drop_succ_cons, List.take_nil, List.drop_nil,
      List.append_nil, List.map_append]
    rfl
  · next full =>
    rw [Nat.sub_eq_zero_of_le (Nat.le_of_not_lt full), List.take_zero, List.drop_zero,
      List.append_nil]
    rfl

/-- Of a group without operand, the settings are read. -/
theorem Reading.ofGroups_switch (done : List Group) {g : Group} (none : g.operand? = none) :
    ofGroups (done ++ [g]) =
      { ofGroups done with settings := Group.settings (done ++ [g]) } := by
  simp only [ofGroups, Group.operands_concat, none, Option.toList_none, List.append_nil]

/-- A group is read as a whole, whatever stands behind it, unless a separator stands behind an
operand. -/
theorem readTokens_group (done : List Group) (g : Group) {rest : List Token}
    (apart : g.operand? = none ∨ rest.head? ≠ some .separator) :
    readTokens .compare (.ofGroups done) (g.tokens ++ rest) =
      readTokens .compare (.ofGroups (done ++ [g])) rest := by
  cases g with
  | operand word plain =>
    have alone : ∀ others, rest ≠ .separator :: others := by
      rintro others rfl
      rcases apart with switch | apart
      · cases switch
      · exact apart rfl
    have kept : valueOf word = some word := by
      apply if_neg
      rintro rfl
      exact plain rfl
    rw [Group.tokens, List.singleton_append, readTokens.eq_5 _ _ _ _ alone, kept,
      Reading.ofGroups_operand]
    split <;> rfl
  | verbose spelling abbreviates =>
    rw [Reading.ofGroups_switch done rfl, Group.settings_verbose]
    exact readTokens_turnOn (by decide) (by decide) _ _ _ _
  | language spelling value abbreviates plain =>
    rw [Reading.ofGroups_switch done rfl, Group.settings_language done rfl]
    exact readTokens_value rfl _ _ _ _ _
  | attached spelling value abbreviates =>
    rw [Reading.ofGroups_switch done rfl, Group.settings_language done rfl]
    exact readTokens.eq_7 _ _ _ _ _ _

theorem separator_notMem_tokens (groups : List Group) :
    .separator ∉ groups.flatMap Group.tokens := by
  intro member
  obtain ⟨g, -, member⟩ := List.mem_flatMap.mp member
  exact separator_notMem g.ofWord_tokens member

/-- A line of groups is read as its groups say. -/
theorem readTokens_groups (done groups : List Group) :
    readTokens .compare (.ofGroups done) (groups.flatMap Group.tokens) =
      .ok (.ofGroups (done ++ groups)) := by
  induction groups generalizing done with
  | nil => rw [List.flatMap_nil, List.append_nil, readTokens.eq_1]
  | cons g groups ih =>
    have apart : (groups.flatMap Group.tokens).head? ≠ some .separator :=
      fun first => separator_notMem_tokens groups (List.mem_of_mem_head? first)
    rw [List.flatMap_cons, readTokens_group done g (.inr apart), ih, List.append_assoc,
      List.singleton_append]

/-- Switches are read as they say, whatever stands behind them. -/
theorem readTokens_switches (done groups : List Group) (rest : List Token)
    (switches : Group.operands groups = []) :
    readTokens .compare (.ofGroups done) (groups.flatMap Group.tokens ++ rest) =
      readTokens .compare (.ofGroups (done ++ groups)) rest := by
  induction groups generalizing done with
  | nil => rw [List.flatMap_nil, List.nil_append, List.append_nil]
  | cons g groups ih =>
    obtain ⟨none, others⟩ : g.operand? = none ∧ Group.operands groups = [] := by
      simpa [Group.operands, List.filterMap_eq_nil_iff] using switches
    rw [List.flatMap_cons, List.append_assoc, readTokens_group done g (.inl none), ih _ others,
      List.append_assoc, List.singleton_append]

/-- A double hyphen is the beginning of several switches, so no word that is read as a token
is one. -/
theorem doubleHyphen_notMem {words : List Text} {tokens : List Token}
    (read : List.Forall₂ (fun word token => Token.ofWord .compare word = .ok token) words tokens) :
    doubleHyphen ∉ words := by
  induction read with
  | nil => exact List.not_mem_nil
  | cons first _ ih =>
    rw [List.mem_cons, not_or]
    refine ⟨?_, ih⟩
    rintro rfl
    cases first

theorem ofWord_groups (groups : List Group) :
    List.Forall₂ (fun word token => Token.ofWord .compare word = .ok token)
      (groups.flatMap Group.words) (groups.flatMap Group.tokens) := by
  induction groups with
  | nil => exact .nil
  | cons g groups ih => exact List.rel_append g.ofWord_tokens ih

theorem ofWords_groups (groups : List Group) {after : List Text} {last : List Token}
    (behind : Token.ofWords .compare after = .ok last) :
    Token.ofWords .compare (groups.flatMap Group.words ++ after) =
      .ok (groups.flatMap Group.tokens ++ last) :=
  have single := ofWord_groups groups
  (Token.ofWords_append (doubleHyphen_notMem single)).mpr ⟨_, last, single, behind, rfl⟩

/-- A line of groups is refused for a lack of operands, and else read as its groups say. -/
theorem readCommand_groups (groups : List Group) :
    readCommand .compare (groups.flatMap Group.words) =
      if (Group.operands groups).length < Form.compare.operands.length then
        .error (.usage .compare
          (.missing (Form.compare.operands.drop (Group.operands groups).length)))
      else
        .ok (.ofGroups groups) := by
  have nothing : Token.ofWords .compare [] = .ok [] := rfl
  have tokenized := ofWords_groups groups nothing
  have read : readTokens .compare .initial (groups.flatMap Group.tokens) =
      .ok (.ofGroups groups) := readTokens_groups [] groups
  have count : (Reading.ofGroups groups).operands.length =
      min Form.compare.operands.length (Group.operands groups).length := by
    rw [Reading.ofGroups, List.length_map, List.length_take]
  rw [List.append_nil, List.append_nil] at tokenized
  rw [readCommand, tokenized]
  simp only [read, count]
  by_cases short : (Group.operands groups).length < Form.compare.operands.length
  · rw [Nat.min_eq_right (Nat.le_of_lt short)]
  · rw [Nat.min_eq_left (Nat.le_of_not_lt short), if_neg (Nat.lt_irrefl _), if_neg short]

def Group.line (groups : List Group) : List Text :=
  Command.compare.name :: groups.flatMap Group.words

theorem ofWords_of_few {groups : List Group}
    (few : (Group.operands groups).length < Form.compare.operands.length) :
    Invocation.ofWords (Group.line groups) =
      .error (.usage .compare
        (.missing (Form.compare.operands.drop (Group.operands groups).length))) := by
  have read := readCommand_groups groups
  rw [if_pos few] at read
  rw [Group.line, Invocation.ofWords_command, Command.form, read]

theorem ofWords_of_many {groups : List Group}
    (many : Form.compare.operands.length < (Group.operands groups).length) :
    Invocation.ofWords (Group.line groups) =
      .error (.usage .main
        (.unrecognized ((Group.operands groups).drop Form.compare.operands.length))) := by
  have read := readCommand_groups groups
  have left : ¬ (Reading.ofGroups groups).leftOver.isEmpty = true := by
    rw [List.isEmpty_iff, Reading.ofGroups, List.drop_eq_nil_iff]
    exact Nat.not_le_of_lt many
  rw [if_neg (Nat.lt_asymm many)] at read
  rw [Group.line, Invocation.ofWords_command, Command.form, read]
  exact if_neg left

theorem ofWords_of_two {groups : List Group} {expected actual : Text}
    (two : Group.operands groups = [expected, actual]) :
    Invocation.ofWords (Group.line groups) =
      .ok (.compare (some expected) (some actual) (Group.asked groups)
        (groups.any Group.isVerbose)) := by
  have enough : ¬ [expected, actual].length < Form.compare.operands.length := Nat.lt_irrefl 2
  have read := readCommand_groups groups
  rw [two, if_neg enough] at read
  have left : (Reading.ofGroups groups).leftOver = [] := by
    rw [Reading.ofGroups, two]
    rfl
  rw [Group.line, Invocation.ofWords_eq_ok_iff]
  refine ⟨.compare, _, _, rfl, read, left, ?_⟩
  rw [Invocation.ofReading, Reading.ofGroups, two]
  rfl

/-- What a line asks for that begins with switches is told by what is read behind them. -/
theorem ofWords_of_switches {front : List Group} (switches : Group.operands front = [])
    {after : List Text} {last : List Token} (behind : Token.ofWords .compare after = .ok last)
    {r : Reading} (read : readTokens .compare (.ofGroups front) last = .ok r)
    (full : ¬ r.operands.length < Form.compare.operands.length) (none : r.leftOver = []) :
    Invocation.ofWords (Command.compare.name :: (front.flatMap Group.words ++ after)) =
      .ok (.ofReading .compare r) := by
  have reads : readTokens .compare .initial (front.flatMap Group.tokens ++ last) = .ok r :=
    (readTokens_switches [] front last switches).trans read
  exact Invocation.ofWords_eq_ok_iff.mpr ⟨.compare, _, r, rfl,
    readCommand_eq_ok_iff.mpr ⟨_, ofWords_groups front behind, reads, full⟩, none, rfl⟩

/-- A second double hyphen is dropped, and with it the actual operand, if it stands behind the
operand that the separator goes with. That may be on either side of the separator. -/
theorem ofWords_drops_doubleHyphen {front : List Group} (switches : Group.operands front = [])
    (word : Text) :
    Invocation.ofWords (Command.compare.name ::
        (front.flatMap Group.words ++ [doubleHyphen, word, doubleHyphen])) =
      .ok (.compare (some word) none (Group.asked front) (front.any Group.isVerbose)) ∧
    (word.head? ≠ some Token.hyphen →
      Invocation.ofWords (Command.compare.name ::
          (front.flatMap Group.words ++ [word, doubleHyphen, doubleHyphen])) =
        .ok (.compare (some word) none (Group.asked front) (front.any Group.isVerbose))) := by
  have blank : Reading.ofGroups front = ⟨[], Group.settings front, []⟩ := by
    simp [Reading.ofGroups, switches]
  let r : Reading := ⟨[some word, none], Group.settings front, []⟩
  have asks : Invocation.ofReading .compare r =
      .compare (some word) none (Group.asked front) (front.any Group.isVerbose) := rfl
  have full : ¬ r.operands.length < Form.compare.operands.length := Nat.lt_irrefl 2
  refine ⟨?_, fun plain => ?_⟩
  · have read : readTokens .compare (.ofGroups front)
        [.separator, .plain word, .plain doubleHyphen] = .ok r := by
      rw [blank]
      rfl
    exact asks ▸ ofWords_of_switches switches rfl read full rfl
  · have behind : Token.ofWords .compare [word, doubleHyphen, doubleHyphen] =
        .ok [.plain word, .separator, .plain doubleHyphen] := by
      have other : word ≠ doubleHyphen := by
        rintro rfl
        exact plain rfl
      rw [Token.ofWords_cons other, Token.ofWord, if_pos plain]
      rfl
    have read : readTokens .compare (.ofGroups front)
        [.plain word, .separator, .plain doubleHyphen] = .ok r := by
      rw [blank]
      rfl
    exact asks ▸ ofWords_of_switches switches behind read full rfl

/-- Lines of the same operands and languages, with or without the verbose switch on both
sides, ask for the same. -/
theorem ofWords_of_same {groups others : List Group}
    (operands : Group.operands others = Group.operands groups)
    (languages : Group.languages others = Group.languages groups)
    (verbose : others.any Group.isVerbose = groups.any Group.isVerbose) :
    Invocation.ofWords (Group.line others) = Invocation.ofWords (Group.line groups) := by
  have settings : Group.settings others = Group.settings groups := by
    rw [Group.settings, Group.settings, Group.asked, Group.asked, languages, verbose]
  have read : readCommand .compare (others.flatMap Group.words) =
      readCommand .compare (groups.flatMap Group.words) := by
    rw [readCommand_groups, readCommand_groups, Reading.ofGroups, Reading.ofGroups, operands,
      settings]
  rw [Group.line, Group.line, Invocation.ofWords_command, Invocation.ofWords_command,
    Command.form, read]

/-- What a wrong command line comes to is told by its words alone. -/
theorem run_of_usage {words : List Text} {f : Form} {e : UsageError}
    (wrong : Invocation.ofWords words = .error (.usage f e)) :
    ∃ errors, ∀ env read, run env read words = ⟨.exit exitError, [], errors⟩ := by
  refine ⟨(Dismissal.usage f e).transcript.errors, fun env read => ?_⟩
  rw [run, wrong]
  rfl

/-- A command line for a comparison that is made of groups, in any number and any order. With
two operands, these are compared in their order, under the last language that is given, with
a trace if the verbose switch stands anywhere; only a language that is a double hyphen counts
for none. So lines with the same groups ask for the same if their operands and their languages
stand in the same order. With fewer operands, the missing ones are named, and with more, those
that are too many; either way, nothing is printed to the output and no file has a part in what
the run comes to. -/
theorem comparison_of_groups (groups : List Group) :
    (∀ expected actual, Group.operands groups = [expected, actual] →
      Invocation.ofWords (Group.line groups) =
          .ok (.compare (some expected) (some actual) (Group.asked groups)
            (groups.any Group.isVerbose)) ∧
        ∀ env read, run env read (Group.line groups) =
          runCompare env read (some expected) (some actual) (Group.asked groups)
            (groups.any Group.isVerbose)) ∧
    (∀ others : List Group, others.Perm groups → Group.operands others = Group.operands groups →
      Group.languages others = Group.languages groups →
      ∀ env read, run env read (Group.line others) = run env read (Group.line groups)) ∧
    ((Group.operands groups).length < 2 →
      Invocation.ofWords (Group.line groups) =
        .error (.usage .compare
          (.missing (Form.compare.operands.drop (Group.operands groups).length)))) ∧
    (2 < (Group.operands groups).length →
      Invocation.ofWords (Group.line groups) =
        .error (.usage .main (.unrecognized ((Group.operands groups).drop 2)))) ∧
    ((Group.operands groups).length ≠ 2 →
      ∃ errors, ∀ env read, run env read (Group.line groups) = ⟨.exit exitError, [], errors⟩) := by
  refine ⟨?_, ?_, ofWords_of_few, ofWords_of_many, ?_⟩
  · intro expected actual two
    have asks := ofWords_of_two two
    exact ⟨asks, fun env read => run_of_ofWords asks⟩
  · intro others reordered operands languages env read
    have verbose : others.any Group.isVerbose = groups.any Group.isVerbose := reordered.any_eq
    rw [run, run, ofWords_of_same operands languages verbose]
  · intro count
    rcases Nat.lt_or_gt_of_ne count with few | many
    · exact run_of_usage (ofWords_of_few few)
    · exact run_of_usage (ofWords_of_many many)

/-- Switches that are cut short, between and behind the operands; the last language counts. -/
example : (Invocation.ofWords
    ["compare", "--lang=cpp", "a.py", "--verb", "b.py", "--la", "java"]).toOption =
      some (.compare (some "a.py") (some "b.py") (some "java") true) := by
  decide +kernel

/-- It is not always the last language that is asked for: a double hyphen counts for none, and
takes back a language that stands before it. -/
theorem last_language_not_always_asked :
    ¬ ∀ (groups : List Group) (expected actual : Text),
      Group.operands groups = [expected, actual] →
      Invocation.ofWords (Group.line groups) =
        .ok (.compare (some expected) (some actual) (Group.languages groups).getLast?
          (groups.any Group.isVerbose)) := by
  intro asksForLast
  have whole : Form.compare.Abbreviates "--language" .language := ⟨"--language", by decide⟩
  let groups : List Group :=
    [.operand "a.txt" (by decide), .operand "b.txt" (by decide),
      .attached "--language" "python" whole, .attached "--language" doubleHyphen whole]
  have operands : Group.operands groups = ["a.txt", "b.txt"] := by rfl
  have asks := (asksForLast groups "a.txt" "b.txt" operands).symm.trans (ofWords_of_two operands)
  have language : (Group.languages groups).getLast? = Group.asked groups :=
    (Invocation.compare.inj (Except.ok.inj asks)).2.2.1
  have given : (Group.languages groups).getLast? = some doubleHyphen := by rfl
  have dropped : Group.asked groups = none := by rfl
  rw [given, dropped] at language
  cases language

end SyntaxParity.CommandLine
