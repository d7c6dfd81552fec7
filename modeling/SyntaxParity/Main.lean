import SyntaxParity.CommandLine.Transcript
import SyntaxParity.Module

namespace SyntaxParity.CommandLine

def bareEnvironment : Environment where
  load := Modules.load []
  accept := fun _ => .ok ()
  parse := fun _ _ => .error "no parser is linked in"

/-- A text as a string, with the replacement character for each surrogate. -/
def shown (t : Text) : String :=
  String.ofList (t.map fun c => c.toChar?.getD '\ufffd')

def readFile (p : Path) : IO (Except ReadFailure Bytes) := do
  try
    return .ok (← IO.FS.readBinFile (shown p.render)).toList
  catch
    | .inappropriateType _ 21 _ => return .error (.isADirectory p)
    | .inappropriateType .. => return .error (.notADirectory p)
    | .invalidArgument .. => return .error (.nameTooLong p)
    | _ => return .error (.notFound p)

def readFiles (words : List Text) : IO Reader := do
  let operands :=
    match Invocation.ofWords words with
    | .ok invocation => invocation.operands
    | .error _ => []
  let contents ← (operands.map Operand.path).mapM fun p => do return (p, ← readFile p)
  return fun p => (contents.lookup p).getD (.error (.notFound p))

end SyntaxParity.CommandLine

open SyntaxParity CommandLine in
/-- The program: exit code one when the run breaks off. -/
def main (arguments : List String) : IO UInt32 := do
  let words := arguments.map Text.ofString
  let reader ← readFiles words
  let transcript := run bareEnvironment reader words
  (← IO.getStdout).putStr (shown transcript.output)
  (← IO.getStderr).putStr (shown transcript.errors)
  match transcript.ending with
  | .exit code => return UInt32.ofNat code
  | .broken b =>
    (← IO.getStderr).putStrLn (shown b.message)
    return 1
