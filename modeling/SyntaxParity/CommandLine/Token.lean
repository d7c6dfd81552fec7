import SyntaxParity.CommandLine.Form
import SyntaxParity.Text.Digits
import SyntaxParity.Text.Quoted

/-!
The words of a command line, read as switches, values and the separator behind
which no word is a switch. Long switches may be cut short where that leaves one
meaning, and a value may be attached to a switch.
-/

namespace SyntaxParity.CommandLine

inductive Token where
  /-- A word that is no switch. -/
  | plain (word : Text)
  /-- The first double hyphen. -/
  | separator
  /-- A switch, with what is attached to it in the same word. -/
  | known (switch : Switch) (isShort : Bool) (attached : Option Text)
  /-- A word that looks like a switch and is none that is known. -/
  | unknown (word : Text)
deriving DecidableEq

inductive UsageError where
  | missing (operands : List Text)
  | unrecognized (words : List Text)
  | ambiguous (word : Text) (spellings : List Text)
  | unwantedValue (switch : Switch) (value : Text)
  | missingValue (switch : Switch)
  | unknownCommand (word : Text)
deriving DecidableEq

def UsageError.message : UsageError → Text
  | .missing operands =>
    "the following arguments are required: " ++ .joinWith ", " operands
  | .unrecognized words => "unrecognized arguments: " ++ .joinWith " " words
  | .ambiguous word spellings =>
    .concat ["ambiguous option: ", word, " could match ", .joinWith ", " spellings]
  | .unwantedValue switch value =>
    .concat ["argument ", switch.title, ": ignored explicit argument ", value.quoted]
  | .missingValue switch => .concat ["argument ", switch.title, ": expected one argument"]
  | .unknownCommand word =>
    .concat
      ["argument command: invalid choice: ", word.quoted, " (choose from ",
       .joinWith ", " (Command.all.map fun command => command.name.quoted), ")"]

namespace Token

def hyphen : CodePoint := .ofChar '-'

def equalsSign : CodePoint := .ofChar '='

/-- A word cut at its first equals sign: what stands before it, and what is
attached by it. -/
def cut (word : Text) : Text × Option Text :=
  match word.span (· != equalsSign) with
  | (before, []) => (before, none)
  | (before, _ :: after) => (before, some after)

/-- The readings of a word as a switch that is cut short or has a value behind
it. A word with one hyphen at the front may be a short switch with something
attached. -/
def candidates (f : Form) (word : Text) : List (Text × Switch × Option Text) :=
  if word.take 2 = [hyphen, hyphen] then
    let (beginning, attached) := cut word
    (f.spellings.filter fun (name, _) => beginning.isPrefixOf name).map
      fun (name, switch) => (name, switch, attached)
  else
    f.spellings.filterMap fun (name, switch) =>
      if name = word.take 2 then some (name, switch, some (word.drop 2))
      else if word.isPrefixOf name then some (name, switch, none)
      else none

def isShort (name : Text) : Bool :=
  name.take 2 != [hyphen, hyphen]

def ofWord (f : Form) (word : Text) : Except UsageError Token :=
  if word.head? ≠ some hyphen then .ok (.plain word)
  else
    match f.spellings.lookup word with
    | some switch => .ok (.known switch (isShort word) none)
    | none =>
      if word.length = 1 then .ok (.plain word)
      else
        let (before, attached) := cut word
        match if attached.isSome then f.spellings.lookup before else none with
        | some switch => .ok (.known switch (isShort before) attached)
        | none =>
          match candidates f word with
          | [(name, switch, attached)] => .ok (.known switch (isShort name) attached)
          | [] =>
            if word.isNegativeNumber || word.contains (.ofChar ' ') then .ok (.plain word)
            else .ok (.unknown word)
          | several => .error (.ambiguous word (several.map Prod.fst))

def ofWords (f : Form) : List Text → Except UsageError (List Token)
  | [] => .ok []
  | word :: rest =>
    if word = [hyphen, hyphen] then
      .ok (.separator :: rest.map .plain)
    else
      match ofWord f word with
      | .error e => .error e
      | .ok token => (ofWords f rest).map (token :: ·)

end Token

end SyntaxParity.CommandLine
