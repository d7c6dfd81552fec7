import SyntaxParity.CommandLine.Token

/-!
What a command line asks for. The main program finds the command and hands the
words behind it to the form of that command; words that neither understands are
reported by the main program, after all else is in order.
-/

namespace SyntaxParity.CommandLine

inductive Dismissal where
  | help (form : Form)
  | usage (form : Form) (error : UsageError)

def doubleHyphen : Text := "--"

/-- The value that a word gives. A double hyphen in the place of a value is taken
for one more separator, and the value is absent. -/
def valueOf (word : Text) : Option Text :=
  if word = doubleHyphen then none else some word

abbrev Operand := Option Text

structure Settings where
  language : Option Text
  verbose : Bool
  allNodes : Bool
deriving DecidableEq

namespace Settings

def initial : Settings :=
  ⟨none, false, false⟩

def turnOn (s : Settings) : Switch → Settings
  | .verbose => { s with verbose := true }
  | .allNodes => { s with allNodes := true }
  | _ => s

/-- The settings with the word behind a switch as its value. An absent value
takes back an earlier one. -/
def assign (s : Settings) (word : Text) : Switch → Settings
  | .language => { s with language := valueOf word }
  | _ => s

end Settings

structure Reading where
  operands : List Operand
  settings : Settings
  leftOver : List Text
deriving DecidableEq

namespace Reading

def initial : Reading :=
  ⟨[], .initial, []⟩

def addOperand (r : Reading) (operand : Operand) : Reading :=
  { r with operands := r.operands ++ [operand] }

def addLeftOver (r : Reading) (words : List Text) : Reading :=
  { r with leftOver := r.leftOver ++ words }

end Reading

def Switch.isLetter (s : Switch) (c : CodePoint) : Bool :=
  s.names.contains [Token.hyphen, c]

/-- The outcome of a short switch without value that has something attached. Its
own letter may be repeated there; from the first other letter on, the attached
text is a value that the switch does not take. Only help has a short spelling. -/
def shortCluster (f : Form) (s : Switch) (attached : Text) : Dismissal :=
  match attached.dropWhile s.isLetter with
  | [] => if attached.isEmpty then .usage f (.unwantedValue s []) else .help f
  | value => .usage f (.unwantedValue s value)

/-- The tokens of a command read in order. A separator goes with the operand
beside it, and is left over where there is none. -/
def readTokens (f : Form) (r : Reading) : List Token → Except Dismissal Reading
  | [] => .ok r
  | .separator :: .plain word :: rest =>
    if r.operands.length < f.operands.length then
      readTokens f (r.addOperand (some word)) rest
    else
      readTokens f (r.addLeftOver [doubleHyphen, word]) rest
  | .separator :: rest => readTokens f (r.addLeftOver [doubleHyphen]) rest
  | .plain word :: .separator :: rest =>
    if r.operands.length < f.operands.length then
      readTokens f (r.addOperand (some word)) rest
    else
      readTokens f (r.addLeftOver [word]) (.separator :: rest)
  | .plain word :: rest =>
    if r.operands.length < f.operands.length then
      readTokens f (r.addOperand (valueOf word)) rest
    else
      readTokens f (r.addLeftOver [word]) rest
  | .unknown word :: rest => readTokens f (r.addLeftOver [word]) rest
  | .known s isShort (some attached) :: rest =>
    if s.takesValue then
      readTokens f { r with settings := r.settings.assign attached s } rest
    else if isShort then
      .error (shortCluster f s attached)
    else
      .error (.usage f (.unwantedValue s attached))
  | .known s _ none :: rest =>
    if s = .help then .error (.help f)
    else if s.takesValue then
      match rest with
      | .plain word :: rest =>
        readTokens f { r with settings := r.settings.assign word s } rest
      | _ => .error (.usage f (.missingValue s))
    else
      readTokens f { r with settings := r.settings.turnOn s } rest

def readCommand (f : Form) (words : List Text) : Except Dismissal Reading :=
  match Token.ofWords f words with
  | .error e => .error (.usage f e)
  | .ok tokens =>
    match readTokens f .initial tokens with
    | .error d => .error d
    | .ok r =>
      if r.operands.length < f.operands.length then
        .error (.usage f (.missing (f.operands.drop r.operands.length)))
      else
        .ok r

/-- The command that a main command line names, the words behind it, and the
words left over in front of it. A separator in the place of the command is taken
for its name. -/
def readMain (leftOver : List Text) :
    (words : List Text) → List Token → Except Dismissal (Command × List Text × List Text)
  | word :: words, .unknown _ :: tokens => readMain (leftOver ++ [word]) words tokens
  | _, .known _ isShort (some attached) :: _ =>
    .error (if isShort then shortCluster .main .help attached
      else .usage .main (.unwantedValue .help attached))
  | _, .known _ _ none :: _ => .error (.help .main)
  | word :: words, .plain _ :: _ =>
    match Command.ofName? word with
    | some command => .ok (command, words, leftOver)
    | none => .error (.usage .main (.unknownCommand word))
  | word :: _, .separator :: _ :: _ => .error (.usage .main (.unknownCommand word))
  | _, _ => .error (.usage .main (.missing Form.main.operands))

inductive Invocation where
  | compare (expected actual : Operand) (language : Option Text) (verbose : Bool)
  | inspect (file : Operand) (language : Option Text) (allNodes : Bool)
  | languages
deriving DecidableEq

def Invocation.operands : Invocation → List Operand
  | .compare expected actual _ _ => [expected, actual]
  | .inspect file _ _ => [file]
  | .languages => []

def Invocation.ofReading (c : Command) (r : Reading) : Invocation :=
  let operand (i : Nat) : Operand := r.operands[i]?.join
  match c with
  | .compare => .compare (operand 0) (operand 1) r.settings.language r.settings.verbose
  | .inspect => .inspect (operand 0) r.settings.language r.settings.allNodes
  | .languages => .languages

def Invocation.ofWords (words : List Text) : Except Dismissal Invocation :=
  match Token.ofWords .main words with
  | .error e => .error (.usage .main e)
  | .ok tokens =>
    match readMain [] words tokens with
    | .error d => .error d
    | .ok (command, rest, leftOver) =>
      match readCommand command.form rest with
      | .error d => .error d
      | .ok r =>
        if (leftOver ++ r.leftOver).isEmpty then .ok (.ofReading command r)
        else .error (.usage .main (.unrecognized (leftOver ++ r.leftOver)))

end SyntaxParity.CommandLine
