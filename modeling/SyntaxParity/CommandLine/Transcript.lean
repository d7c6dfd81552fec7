import SyntaxParity.CommandLine.Invocation
import SyntaxParity.FileTree
import SyntaxParity.Session

namespace SyntaxParity.CommandLine

inductive Breakdown where
  | read (failure : ReadFailure)
  | absentOperand
  | failed (failure : Failure)
deriving DecidableEq

def Breakdown.message : Breakdown → Text
  | .read failure => failure.message
  | .absentOperand => "'list' object has no attribute 'read_text'"
  | .failed failure => failure.message

inductive Ending where
  | exit (code : Nat)
  | broken (breakdown : Breakdown)
deriving DecidableEq

structure Transcript where
  ending : Ending
  output : Text
  errors : Text
deriving DecidableEq

def exitEqual : Nat := 0

def exitDifferent : Nat := 1

def exitError : Nat := 2

def Dismissal.transcript : Dismissal → Transcript
  | .help f => ⟨.exit exitEqual, f.help, []⟩
  | .usage f e =>
    ⟨.exit exitError, [],
      .printLines (f.usage ++ [.concat [f.program, ": error: ", e.message]])⟩

abbrev Reader := Path → Except ReadFailure Bytes

/-- The path of an operand. An absent operand is written as an empty path
wherever one is shown. -/
def Operand.path (operand : Operand) : Path :=
  .ofText (operand.getD [])

def Operand.source (operand : Operand) (read : Reader) : Except Breakdown Text :=
  match operand with
  | none => .error .absentOperand
  | some word =>
    match (read (.ofText word)).bind Bytes.sourceText with
    | .error failure => .error (.read failure)
    | .ok text => .ok text

/-- The language of a run: the one that is asked for, unless it is empty, and
else the one that a path tells. -/
def chooseLanguage (asked : Option Text) (p : Path) : Text :=
  let name := asked.getD []
  if name.isEmpty then p.language else name

def banner (expected actual : Path) (language : Text) : List Text :=
  let rule : Text := List.replicate 80 (.ofChar '=')
  [rule,
   .concat ["Comparing ", expected.render, " with ", actual.render, " as ", language],
   rule]

def verdictLines (v : Verdict) : List Text :=
  if v.isEqual then ["Equal"]
  else [.concat ["Found ", .ofNat v.differences.length, " difference(s):"], v.report]

/-- The comparison of two files. Both are read, the expected one first, before
anything is printed. -/
def runCompare (env : Environment) (read : Reader) (expected actual : Operand)
    (asked : Option Text) (verbose : Bool) : Transcript :=
  let language := chooseLanguage asked expected.path
  match expected.source read with
  | .error b => ⟨.broken b, [], []⟩
  | .ok expectedText =>
    match actual.source read with
    | .error b => ⟨.broken b, [], []⟩
    | .ok actualText =>
      let opening : Text :=
        if verbose then .printLines (banner expected.path actual.path language) else []
      match (Session.initial.compare env (.text expectedText) (.text actualText) (.text language)
          verbose).1 with
      | .error f => ⟨.broken (.failed f), opening, []⟩
      | .ok report =>
        ⟨.exit (if report.verdict.isEqual then exitEqual else exitDifferent),
          opening ++ report.output ++ .printLines (verdictLines report.verdict), []⟩

def runInspect (env : Environment) (read : Reader) (file : Operand) (asked : Option Text)
    (allNodes : Bool) : Transcript :=
  let language := chooseLanguage asked file.path
  match file.source read with
  | .error b => ⟨.broken b, [], []⟩
  | .ok text =>
    match (Session.initial.parseText env text language).1 with
    | .error (.grammar e) =>
      ⟨.exit exitError, [],
        .printLines [.concat
          ["Tree-sitter not supported for language: ", language, " (", e.message, ")"]]⟩
    | .error f => ⟨.broken (.failed f), [], []⟩
    | .ok root =>
      match root.outline (if allNodes then .all else .named) with
      | .error c => ⟨.broken (.failed (.incomplete c)), [], []⟩
      | .ok outline => ⟨.exit exitEqual, .printLines [outline], []⟩

def runLanguages : Transcript :=
  ⟨.exit exitEqual, .printLines Registry.standard.ids, []⟩

def Invocation.run (env : Environment) (read : Reader) : Invocation → Transcript
  | .compare expected actual asked verbose => runCompare env read expected actual asked verbose
  | .inspect file asked allNodes => runInspect env read file asked allNodes
  | .languages => runLanguages

def run (env : Environment) (read : Reader) (words : List Text) : Transcript :=
  match Invocation.ofWords words with
  | .error d => d.transcript
  | .ok invocation => invocation.run env read

end SyntaxParity.CommandLine
