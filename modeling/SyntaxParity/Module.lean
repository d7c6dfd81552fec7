import SyntaxParity.Argument
import SyntaxParity.Grammar

/-!
The modules in which the providers of grammars are found. A module is a list of
members by name: those it is given, then a record of itself, then the operations
that every module has. The record tells what a module is called and, if it is a
package, where to search for the modules inside it.
-/

namespace SyntaxParity

inductive Member where
  /-- A function that yields a grammar. -/
  | grammar (grammar : Grammar)
  /-- A function that fails, with an error of this kind and message. -/
  | failing (kind message : Text)
  /-- A function that is asked for each member the module lacks, and refuses. -/
  | refusing
  /-- A value that is no function. -/
  | value (value : Argument)

namespace Member

def nothing : Member :=
  .value (.other "NoneType")

/-- The types of value that can be gone through, beside texts and bytes. No content stands for
the common places to search. -/
def searchableTypes : List Text :=
  ["NoneType", "list", "dict", "tuple", "set", "frozenset"]

def typeName : Member → Text
  | .value v => v.typeName
  | _ => "function"

def isSearchPath : Member → Bool
  | .value (.text _) | .value (.bytes _) => true
  | .value (.other typeName) => searchableTypes.contains typeName
  | _ => false

def call : Member → Except LoadFailure Grammar
  | .grammar g => .ok g
  | .failing kind message => .error (.raised kind message)
  | .refusing =>
    .error (.raised "TypeError" "__getattr__() missing 1 required positional argument: 'name'")
  | .value v => .error (.notCallable v.typeName)

end Member

/-- A module: its members by name. Of two members of one name the first counts. -/
structure Module where
  members : List (Text × Member)

namespace Module

def nameKey : Text := "__name__"

def searchPathKey : Text := "__path__"

def fallbackKey : Text := "__getattr__"

/-- The operations that every module has. None of them yields a grammar when it
is called without arguments. -/
def operations : List (Text × Member) :=
  let failing (message : Text) (names : List Text) : List (Text × Member) :=
    names.map fun name => (name, .failing "TypeError" message)
  failing "module() missing required argument 'name' (pos 1)" ["__class__", "__init__"] ++
  failing "module.__new__(): not enough arguments" ["__new__"] ++
  failing "expected 1 argument, got 0"
    ["__delattr__", "__eq__", "__ge__", "__getattribute__", "__gt__", "__le__", "__lt__",
     "__ne__"] ++
  failing " expected 2 arguments, got 0" ["__setattr__"] ++
  failing "__format__() takes exactly one argument (0 given)" ["__format__"] ++
  failing "__reduce_ex__() takes exactly one argument (0 given)" ["__reduce_ex__"] ++
  failing "cannot pickle 'module' object" ["__reduce__"] ++
  failing "an integer is required"
    ["__dir__", "__getstate__", "__init_subclass__", "__repr__", "__str__", "__subclasshook__"]

def made (name : Text) (given : List (Text × Member)) : Module where
  members := given ++
    [(nameKey, .value (.text name)), ("__doc__", .nothing), ("__loader__", .nothing),
     ("__package__", .nothing), ("__spec__", .nothing),
     ("__annotations__", .value (.other "dict")), ("__dict__", .value (.other "dict"))] ++
    operations

/-- A package that was read from files. It refuses the members it lacks by
itself. The contents of its record do not matter here, apart from its name. -/
def package (name : Text) (given : List (Text × Member)) : Module where
  members := given ++
    [(fallbackKey, .refusing), (nameKey, .value (.text name)),
     (searchPathKey, .value (.other "list")), ("__all__", .value (.other "list")),
     ("__doc__", .value (.text "")), ("__file__", .value (.text "")),
     ("__cached__", .value (.text "")), ("__package__", .value (.text name)),
     ("__loader__", .failing "TypeError" "'SourceFileLoader' object is not callable"),
     ("__spec__", .failing "TypeError" "'ModuleSpec' object is not callable"),
     ("__annotations__", .value (.other "dict")), ("__builtins__", .value (.other "dict")),
     ("__dict__", .value (.other "dict"))] ++
    operations

/-- What a module is called in messages: the name in its record, if that is a
text. -/
def title? (m : Module) : Option Text :=
  match m.members.lookup nameKey with
  | some (.value (.text name)) => some name
  | _ => none

def lacking (m : Module) (name : Text) : LoadFailure :=
  match m.members.lookup fallbackKey with
  | some .refusing => .memberRefused (m.title?.getD []) name
  | some (.value v) => .notCallable v.typeName
  | _ => .memberNotFound m.title? name

def member (m : Module) (name : Text) : Except LoadFailure Member :=
  match m.members.lookup name with
  | some found => .ok found
  | none => .error (m.lacking name)

def searchFailure (m : Module) (title name : Text) : LoadFailure :=
  match m.member searchPathKey with
  | .error (.memberNotFound ..) => .outsidePackage name title
  | .error failure => failure
  | .ok path => if path.isSearchPath then .moduleNotFound name else .notIterable path.typeName

end Module

abbrev Modules := List (Text × Module)

namespace Modules

def ancestors (name : Text) : List Text :=
  let parts := name.splitOnP (· == .ofNat 0x2e)
  ((List.range (parts.length - 1)).map fun i => .joinWith "." (parts.take (i + 1))).reverse

/-- Why a module is not found that lies in modules of these names, innermost
first. The search starts below the innermost of them that is at hand. -/
def searchFailure (modules : Modules) (name : Text) : (ancestors : List Text) → LoadFailure
  | [] => .moduleNotFound name
  | ancestor :: outer =>
    match modules.lookup ancestor with
    | none => searchFailure modules ancestor outer
    | some found => found.searchFailure ancestor name

/-- The module of a name. A module at hand is found by its name alone, whatever
it lies in. -/
def find (modules : Modules) (name : Text) : Except LoadFailure Module :=
  if name.isEmpty then
    .error .emptyModuleName
  else if name.head? = some (.ofNat 0x2e) then
    .error (.relativeModule name)
  else
    match modules.lookup name with
    | some found => .ok found
    | none => .error (modules.searchFailure name (ancestors name))

def load (modules : Modules) (p : Provider) : Except LoadFailure Grammar :=
  match modules.find p.moduleName with
  | .error failure => .error failure
  | .ok found =>
    match found.member p.functionName with
    | .error failure => .error failure
    | .ok member => member.call

/-- The grammar packages that come with the outside parser. A grammar is named
after its module and its function. -/
def standard : Modules :=
  let provide (moduleName : Text) (functionNames : List Text) : Text × Module :=
    (moduleName, .package moduleName (functionNames.map fun functionName =>
      (functionName, .grammar ⟨.concat [moduleName, ".", functionName]⟩)))
  [provide "tree_sitter_python" ["language"],
   provide "tree_sitter_javascript" ["language"],
   provide "tree_sitter_java" ["language"],
   provide "tree_sitter_c_sharp" ["language"],
   provide "tree_sitter_cpp" ["language"],
   provide "tree_sitter_typescript" ["language_typescript", "language_tsx"]]

end Modules

end SyntaxParity
