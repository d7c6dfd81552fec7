import SyntaxParity.Node

/-!
Grammars and where they come from. A grammar is provided by a function of a
module; the module may be missing, may lack the function, and the function may
fail. How grammars are provided is given from outside, as is the parser, which
need not take every grammar that can be loaded.
-/

namespace SyntaxParity

structure Grammar where
  name : Text
deriving DecidableEq

/-- Where a grammar comes from: a function of a module. -/
structure Provider where
  moduleName : Text
  functionName : Text := "language"
deriving DecidableEq

inductive LoadFailure where
  | emptyModuleName
  /-- A module name that begins with a dot is relative to nothing here. -/
  | relativeModule (moduleName : Text)
  | moduleNotFound (moduleName : Text)
  /-- The module would have to lie in one that is no package. -/
  | outsidePackage (moduleName enclosingName : Text)
  /-- A value of this type cannot be gone through for places to search. -/
  | notIterable (typeName : Text)
  /-- The module, which need not have a name, lacks the member. -/
  | memberNotFound (moduleName : Option Text) (memberName : Text)
  /-- The module itself says that it lacks the member. -/
  | memberRefused (moduleName memberName : Text)
  | notCallable (typeName : Text)
  /-- The function failed, with an error of this kind and message. -/
  | raised (kind message : Text)
deriving DecidableEq

/-- What is said of a failed provider. A module that refuses a member itself
shows names in their quoted form; otherwise a missing member and its module are
shown as they are. An error about a missing key shows the key in its quoted
form. -/
def LoadFailure.message : LoadFailure → Text
  | .emptyModuleName => "Empty module name"
  | .relativeModule name =>
    "the 'package' argument is required to perform a relative import for " ++ name.quoted
  | .moduleNotFound name => "No module named " ++ name.quoted
  | .outsidePackage name enclosingName =>
    .concat ["No module named ", name.quoted, "; ", enclosingName.quoted, " is not a package"]
  | .notIterable typeName => .concat ["'", typeName, "' object is not iterable"]
  | .memberNotFound (some moduleName) memberName =>
    .concat ["module '", moduleName, "' has no attribute '", memberName, "'"]
  | .memberNotFound none memberName =>
    .concat ["module has no attribute '", memberName, "'"]
  | .memberRefused moduleName memberName =>
    .concat ["module ", moduleName.quoted, " has no attribute ", memberName.quoted]
  | .notCallable typeName => .concat ["'", typeName, "' object is not callable"]
  | .raised kind message => if kind = ("KeyError" : Text) then message.quoted else message

/-- Why no parser was made for a grammar: an error of this kind and message. -/
structure ParserRefusal where
  kind : Text
  message : Text
deriving DecidableEq

/-- What lies outside: the provision of grammars, the making of a parser for a grammar, which
may be refused, and the parser, which turns source bytes into a tree or fails with a message. -/
structure Environment where
  load : Provider → Except LoadFailure Grammar
  accept : Grammar → Except ParserRefusal Unit
  parse : Grammar → Bytes → Except Text Node

end SyntaxParity
