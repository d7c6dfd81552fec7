import SyntaxParity.Session

namespace SyntaxParity

inductive Request where
  | register (id : Text) (provider : Provider)
  | unregister (id : Text)
  | supported (id : Argument)
  | list
  | language (id : Argument)
  | parser (id : Argument)
  | inspect (source id : Argument) (scope : Scope)
  | compare (expected actual id : Argument) (verbose : Bool)
deriving DecidableEq

inductive Answer where
  | registered (provider : Provider)
  | unregistered (wasPresent : Bool)
  | supported (isSupported : Bool)
  | listed (ids : List Text)
  | language (language : Language)
  | parser (language : Language)
  | outline (outline : Text)
  | compared (report : Report)
  | failed (failure : Failure)
deriving DecidableEq

namespace Answer

def ofExcept {α : Type} (answer : α → Answer) : Except Failure α → Answer
  | .error f => .failed f
  | .ok a => answer a

end Answer

namespace Session

def serve (env : Environment) (s : Session) : Request → Answer × Session
  | .register id provider =>
    (.registered provider, { s with registry := s.registry.insert id provider })
  | .unregister id =>
    (.unregistered (s.registry.get? id).isSome, { s with registry := s.registry.erase id })
  | .supported id =>
    match id.languageId with
    | .error m => (.failed (.misuse m), s)
    | .ok id => (.supported (s.registry.supports id), s)
  | .list => (.listed s.registry.ids, s)
  | .language id =>
    match s.resolveArgument env id with
    | (result, s) => (.ofExcept .language result, s)
  | .parser id =>
    match s.makeParser env id with
    | (result, s) => (.ofExcept .parser result, s)
  | .inspect source id scope =>
    match s.inspect env source id scope with
    | (result, s) => (.ofExcept .outline result, s)
  | .compare expected actual id verbose =>
    match s.compare env expected actual id verbose with
    | (result, s) => (.ofExcept .compared result, s)

/-- The answers to a sequence of requests, each with the session after it. -/
def run (env : Environment) (s : Session) : List Request → List (Answer × Session)
  | [] => []
  | request :: rest =>
    let (answer, next) := s.serve env request
    (answer, next) :: run env next rest

end Session

end SyntaxParity
