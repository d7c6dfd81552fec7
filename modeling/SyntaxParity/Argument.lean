import SyntaxParity.Bytes
import SyntaxParity.Text.Blank

namespace SyntaxParity

/-- What a caller hands over where a text is expected. Of a value that is neither a text nor
bytes, no more is known than the name of its type. -/
inductive Argument where
  | text (text : Text)
  | bytes (bytes : Bytes)
  | other (typeName : Text)
deriving DecidableEq

def Argument.typeName : Argument → Text
  | .text _ => "str"
  | .bytes _ => "bytes"
  | .other typeName => typeName

inductive Misuse where
  /-- No blanks can be looked for in a value of this type. -/
  | notSearchable (typeName : Text)
  /-- Blanks were to be looked for in bytes. -/
  | bytesSearched
  /-- A language id of this type has no blanks to strip. -/
  | notStrippable (typeName : Text)
  /-- A source that is no text has no UTF-8 form. -/
  | notEncodable
  /-- The named argument of a comparison is no text. -/
  | notText (role typeName : Text)
  /-- The language id of a comparison holds nothing but blanks. -/
  | blankLanguage
  /-- A value of this type is no path. -/
  | notPath (typeName : Text)
  /-- Bytes were given for a path. -/
  | bytesPath
deriving DecidableEq

def Misuse.message : Misuse → Text
  | .notSearchable typeName =>
    .concat ["expected string or bytes-like object, got '", typeName, "'"]
  | .bytesSearched => "cannot use a string pattern on a bytes-like object"
  | .notStrippable typeName => .concat ["'", typeName, "' object has no attribute 'strip'"]
  | .notEncodable => "encoding without a string argument"
  | .notText role typeName => .concat [role, " must be a str, not ", typeName]
  | .blankLanguage => "language_id must not be empty"
  | .notPath typeName =>
    .concat ["expected str, bytes or os.PathLike object, not ", typeName]
  | .bytesPath =>
    "argument should be a str object or an os.PathLike object returning str, not <class 'bytes'>"

namespace Argument

def searched : Argument → Except Misuse Text
  | .text t => .ok t
  | .bytes _ => .error .bytesSearched
  | .other typeName => .error (.notSearchable typeName)

def dense (a : Argument) : Except Misuse Text :=
  a.searched.map Text.dense

def collapse (a : Argument) : Except Misuse Text :=
  a.searched.map Text.collapse

end Argument

end SyntaxParity
