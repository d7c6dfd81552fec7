import SyntaxParity.Text

/-!
The forms of the command line: the main program and its three commands, with
the switches and operands that each accepts and the texts that explain them.
-/

namespace SyntaxParity.CommandLine

inductive Command where
  | compare
  | inspect
  | languages
deriving DecidableEq

namespace Command

def all : List Command :=
  [.compare, .inspect, .languages]

def name : Command → Text
  | .compare => "compare"
  | .inspect => "inspect"
  | .languages => "languages"

def ofName? (name : Text) : Option Command :=
  all.find? fun command => command.name = name

end Command

inductive Switch where
  | help
  | language
  | verbose
  | allNodes
deriving DecidableEq

namespace Switch

def names : Switch → List Text
  | .help => ["-h", "--help"]
  | .language => ["--language"]
  | .verbose => ["--verbose"]
  | .allNodes => ["--all"]

def takesValue : Switch → Bool
  | .language => true
  | _ => false

/-- How messages call a switch: by all of its spellings. -/
def title (s : Switch) : Text :=
  .joinWith "/" s.names

end Switch

/-- What a program accepts behind its name, and how it explains itself: the
usage, and the details that help adds to it. -/
structure Form where
  program : Text
  switches : List Switch
  operands : List Text
  usage : List Text
  details : List Text

namespace Form

def help (f : Form) : Text :=
  .printLines (f.usage ++ [] :: f.details)

def spellings (f : Form) : List (Text × Switch) :=
  f.switches.flatMap fun s => s.names.map fun name => (name, s)

def main : Form where
  program := "ast-compare"
  switches := [.help]
  operands := ["command"]
  usage := ["usage: ast-compare [-h] \x7bcompare,inspect,languages\x7d ..."]
  details :=
    ["Compare source files by their Tree-sitter syntax trees",
     "",
     "positional arguments:",
     "  \x7bcompare,inspect,languages\x7d",
     "    compare             Compare two source files",
     "    inspect             Print the syntax tree of a file",
     "    languages           List supported language identifiers",
     "",
     "options:",
     "  -h, --help            show this help message and exit"]

def compare : Form where
  program := "ast-compare compare"
  switches := [.help, .language, .verbose]
  operands := ["expected", "actual"]
  usage :=
    ["usage: ast-compare compare [-h] [--language LANGUAGE] [--verbose]",
     "                           expected actual"]
  details :=
    ["positional arguments:",
     "  expected             File with the expected code",
     "  actual               File with the actual code",
     "",
     "options:",
     "  -h, --help           show this help message and exit",
     "  --language LANGUAGE  Language identifier (default: inferred from the",
     "                       expected file's extension)",
     "  --verbose            Show detailed comparison trace"]

def inspect : Form where
  program := "ast-compare inspect"
  switches := [.help, .language, .allNodes]
  operands := ["file"]
  usage := ["usage: ast-compare inspect [-h] [--language LANGUAGE] [--all] file"]
  details :=
    ["positional arguments:",
     "  file                 Source file to parse",
     "",
     "options:",
     "  -h, --help           show this help message and exit",
     "  --language LANGUAGE  Language identifier (default: inferred from the file",
     "                       extension)",
     "  --all                Include anonymous nodes such as punctuation"]

def languages : Form where
  program := "ast-compare languages"
  switches := [.help]
  operands := []
  usage := ["usage: ast-compare languages [-h]"]
  details :=
    ["options:",
     "  -h, --help  show this help message and exit"]

end Form

def Command.form : Command → Form
  | .compare => .compare
  | .inspect => .inspect
  | .languages => .languages

end SyntaxParity.CommandLine
