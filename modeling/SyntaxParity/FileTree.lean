import SyntaxParity.Path
import SyntaxParity.Utf8
import SyntaxParity.Text.Newline

/-!
Files by path, and the text of a source file. A file name is a sequence of
bytes, and two texts that stand for the same bytes name the same file. Paths are
followed one component after the other, so a step back out of a directory asks
that the directory exists. Above the directory at which paths start there are
directories only.
-/

namespace SyntaxParity

inductive ReadFailure where
  | notFound (path : Path)
  | notADirectory (path : Path)
  | isADirectory (path : Path)
  | nameTooLong (path : Path)
  /-- The path holds a NUL. -/
  | nullInPath
  /-- The path holds surrogates that stand for no byte. -/
  | unencodablePath (run : Utf8.SurrogateRun)
  /-- The bytes of the file are not UTF-8. -/
  | malformed (malformed : Utf8.Malformed)
deriving DecidableEq

def ReadFailure.message : ReadFailure → Text
  | .notFound p => "[Errno 2] No such file or directory: " ++ p.render.quoted
  | .notADirectory p => "[Errno 20] Not a directory: " ++ p.render.quoted
  | .isADirectory p => "[Errno 21] Is a directory: " ++ p.render.quoted
  | .nameTooLong p => "[Errno 36] File name too long: " ++ p.render.quoted
  | .nullInPath => "embedded null byte"
  | .unencodablePath run => run.message
  | .malformed m => m.message

def CodePoint.isByteEscape (c : CodePoint) : Bool :=
  0xdc80 ≤ c.val && c.val ≤ 0xdcff

/-- The bytes of a file name: a code point that stands for a byte gives that
byte, any other its UTF-8 form. -/
def Text.fileName (t : Text) : Bytes :=
  t.flatMap fun c => if c.isByteEscape then [UInt8.ofNat (c.val - 0xdc00)] else Utf8.encodeOne c

/-- The files and directories below a start directory, by the file names that
lead to them. -/
structure FileTree where
  files : List (List Bytes × Bytes)
  directories : List (List Bytes)

/-- Where a walk along a path stands: at an entry below the start directory, or
in a directory outside of it. -/
inductive Position where
  | below (names : List Bytes)
  | outside
deriving DecidableEq

namespace FileTree

def nameLimit : Nat := 255

def pathLimit : Nat := 4095

/-- Whether a directory stands at a place: the start directory, one that is
listed, or one that holds an entry. -/
def isDirectory (t : FileTree) (names : List Bytes) : Bool :=
  names.isEmpty ||
    (t.files.map Prod.fst).any (fun entry => names.isPrefixOf entry && names != entry) ||
    t.directories.any names.isPrefixOf

def enter (t : FileTree) (p : Path) :
    Position → (component : Text) → Except ReadFailure Position
  | .outside, component =>
    if component = ".." then .ok .outside
    else if nameLimit < component.fileName.length then .error (.nameTooLong p)
    else .error (.notFound p)
  | .below names, component =>
    if !t.isDirectory names then
      .error (if (t.files.lookup names).isSome then .notADirectory p else .notFound p)
    else if component = ".." then
      .ok (if names.isEmpty then .outside else .below names.dropLast)
    else if nameLimit < component.fileName.length then .error (.nameTooLong p)
    else .ok (.below (names ++ [component.fileName]))

def locate (t : FileTree) (p : Path) : Except ReadFailure Position :=
  p.components.foldlM (t.enter p) (if p.root.isEmpty then .below [] else .outside)

def read (t : FileTree) (p : Path) : Except ReadFailure Bytes :=
  let written := p.render
  match Utf8.runFrom? (fun c => c.isSurrogate && !c.isByteEscape) written with
  | some run => .error (.unencodablePath run)
  | none =>
    if written.any (·.val == 0) then .error .nullInPath
    else if pathLimit < written.fileName.length then .error (.nameTooLong p)
    else
      match t.locate p with
      | .error failure => .error failure
      | .ok .outside => .error (.isADirectory p)
      | .ok (.below names) =>
        if t.isDirectory names then .error (.isADirectory p)
        else
          match t.files.lookup names with
          | some bytes => .ok bytes
          | none => .error (.notFound p)

end FileTree

def Bytes.sourceText (bytes : Bytes) : Except ReadFailure Text :=
  match Utf8.decode bytes with
  | .error m => .error (.malformed m)
  | .ok t => .ok t.unifyNewlines

end SyntaxParity
