import SyntaxParity.Comparison
import SyntaxParity.Outline
import SyntaxParity.Registry
import SyntaxParity.Verdict

/-!
A session resolves language ids to languages and remembers each language it
loads. The memory only grows: neither a change of the registry nor a failure
takes a language out of it. On top stand the parse of a source text and the
comparison of two of them, by their trees where both parse, by their words where
one does not.
-/

namespace SyntaxParity

/-- A loaded language: its grammar, and a serial number that tells it from every
other language of the session. -/
structure Language where
  serial : Nat
  grammar : Grammar
deriving DecidableEq

inductive GrammarError where
  | unregistered (id : LanguageId)
  | unloadable (provider : Provider) (key : Text) (cause : LoadFailure)
  | unencodable (id : Text) (run : Utf8.SurrogateRun)
  | parserFailed (id : Text) (message : Text)
deriving DecidableEq

namespace GrammarError

/-- The language id of an error: in normal form when the language could not be
resolved, as it was given when the text could not be parsed. -/
def languageId : GrammarError → LanguageId
  | .unregistered id => id.key
  | .unloadable _ key _ => .text key
  | .unencodable id _ => .text id
  | .parserFailed id _ => .text id

def message : GrammarError → Text
  | .unregistered id => "No grammar registered for " ++ id.quoted
  | .unloadable provider key cause =>
    .concat
      ["Could not load grammar ", provider.moduleName, ".", provider.functionName, " for ",
       key.quoted, ": ", cause.message]
  | .unencodable _ run => "Source is not encodable as UTF-8: " ++ run.message
  | .parserFailed id reason =>
    .concat ["Parser failed for ", id.quoted, ": ", reason]

end GrammarError

/-- Why a request was not answered: an argument was refused, a source text has
no tree, no parser could be made for its language, or its tree lacks a child. -/
inductive Failure where
  | misuse (misuse : Misuse)
  | grammar (error : GrammarError)
  | parser (refusal : ParserRefusal)
  | incomplete (child : MissingChild)
deriving DecidableEq

def Failure.message : Failure → Text
  | .misuse m => m.message
  | .grammar e => e.message
  | .parser r => r.message
  | .incomplete c => c.message

/-- The registry, and the languages loaded so far under the normal forms of
their ids, in the order in which they were loaded. -/
structure Session where
  registry : Registry
  cache : List (Text × Language)
deriving DecidableEq

inductive Outcome where
  | trees (pair : Pair)
  | words (cause : GrammarError) (expected actual : Text)

namespace Outcome

def verdict : Outcome → Verdict
  | .trees pair => ⟨pair.differences.map Difference.render⟩
  | .words _ expected actual => ⟨expected.compareWords actual⟩

def trace (id : Text) : Outcome → List Text
  | .trees pair => ("Comparing syntax trees for " ++ id.quoted) :: pair.trace
  | .words cause _ _ =>
    [.concat ["AST comparison unavailable for ", id.quoted, ": ", cause.message],
     "Falling back to whitespace-collapsed string comparison"]

def output (id : Text) (verbose : Bool) (o : Outcome) : Text :=
  if verbose then .printLines (o.trace id) else []

end Outcome

structure Report where
  verdict : Verdict
  output : Text
deriving DecidableEq

namespace Session

def initial : Session :=
  ⟨.standard, []⟩

def rootName : Text := "root"

def cachedKeys (s : Session) : List Text :=
  (s.cache.map Prod.fst).mergeSort Text.le

/-- The language of an id. One that is not loaded yet is loaded from its
provider and remembered; a failure leaves the session as it is. -/
def resolve (env : Environment) (s : Session) (id : Text) :
    Except GrammarError Language × Session :=
  let key := id.languageKey
  match s.cache.lookup key with
  | some language => (.ok language, s)
  | none =>
    match s.registry.get? key with
    | none => (.error (.unregistered (.text id)), s)
    | some provider =>
      match env.load provider with
      | .error cause => (.error (.unloadable provider key cause), s)
      | .ok grammar =>
        let language : Language := ⟨s.cache.length, grammar⟩
        (.ok language, { s with cache := s.cache ++ [(key, language)] })

/-- The tree of a source text in a language that was found under `id`. -/
def parseIn (env : Environment) (language : Language) (id source : Text) :
    Except GrammarError Node :=
  match Utf8.encode source with
  | .error run => .error (.unencodable id run)
  | .ok bytes =>
    match env.parse language.grammar bytes with
    | .error reason => .error (.parserFailed id reason)
    | .ok root => .ok root

def resolveArgument (env : Environment) (s : Session) (id : Argument) :
    Except Failure Language × Session :=
  match id.languageId with
  | .error m => (.error (.misuse m), s)
  | .ok (.bytes b) => (.error (.grammar (.unregistered (.bytes b))), s)
  | .ok (.text t) =>
    match s.resolve env t with
    | (.error e, s) => (.error (.grammar e), s)
    | (.ok language, s) => (.ok language, s)

def parserFor (env : Environment) (language : Language) : Except Failure Language :=
  match env.accept language.grammar with
  | .error refusal => .error (.parser refusal)
  | .ok () => .ok language

/-- The language of an argument, once a parser is made for it. -/
def makeParser (env : Environment) (s : Session) (id : Argument) :
    Except Failure Language × Session :=
  match s.resolveArgument env id with
  | (.error f, s) => (.error f, s)
  | (.ok language, s) => (parserFor env language, s)

def parseText (env : Environment) (s : Session) (source id : Text) :
    Except Failure Node × Session :=
  match s.makeParser env (.text id) with
  | (.error f, s) => (.error f, s)
  | (.ok language, s) => ((parseIn env language id source).mapError .grammar, s)

/-- The tree of a source that need not be a text. The parser is made before the source is
looked at. -/
def parse (env : Environment) (s : Session) (source id : Argument) :
    Except Failure Node × Session :=
  match id, source with
  | .text id, .text source => s.parseText env source id
  | id, _ =>
    match s.makeParser env id with
    | (.error f, s) => (.error f, s)
    | (.ok _, s) => (.error (.misuse .notEncodable), s)

/-- The comparison of two source texts, by their trees if both have one. The
actual text is not parsed when the expected one has no tree. Of the failures of a parse, only
an error of a grammar leads to the comparison by words. -/
def compareTexts (env : Environment) (s : Session) (expected actual id : Text) :
    Except Failure Outcome × Session :=
  match s.parseText env expected id with
  | (.error (.grammar e), s) => (.ok (.words e expected actual), s)
  | (.error f, s) => (.error f, s)
  | (.ok expectedRoot, s) =>
    match s.parseText env actual id with
    | (.error (.grammar e), s) => (.ok (.words e expected actual), s)
    | (.error f, s) => (.error f, s)
    | (.ok actualRoot, s) => (.ok (.trees ⟨expectedRoot, actualRoot, .root rootName⟩), s)

/-- The three arguments of a comparison as texts. The first that is none is
refused, and then a language id of blanks. -/
def checkArguments (expected actual id : Argument) : Except Misuse (Text × Text × Text) :=
  match expected, actual, id with
  | .text e, .text a, .text i => if i.trim.isEmpty then .error .blankLanguage else .ok (e, a, i)
  | .text _, .text _, i => .error (.notText "language_id" i.typeName)
  | .text _, a, _ => .error (.notText "actual" a.typeName)
  | e, _, _ => .error (.notText "expected" e.typeName)

def compare (env : Environment) (s : Session) (expected actual id : Argument) (verbose : Bool) :
    Except Failure Report × Session :=
  match checkArguments expected actual id with
  | .error m => (.error (.misuse m), s)
  | .ok (expected, actual, id) =>
    match s.compareTexts env expected actual id with
    | (.error f, s) => (.error f, s)
    | (.ok outcome, s) => (.ok ⟨outcome.verdict, outcome.output id verbose⟩, s)

def inspect (env : Environment) (s : Session) (source id : Argument) (scope : Scope) :
    Except Failure Text × Session :=
  match s.parse env source id with
  | (.error f, s) => (.error f, s)
  | (.ok root, s) => ((root.outline scope).mapError .incomplete, s)

end Session

end SyntaxParity
