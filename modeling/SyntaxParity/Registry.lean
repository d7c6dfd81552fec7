import SyntaxParity.Grammar
import SyntaxParity.LanguageId

namespace SyntaxParity

structure Registry where
  entries : List (Text × Provider)
deriving DecidableEq

namespace Registry

def standard : Registry where
  entries :=
    [("javascript", { moduleName := "tree_sitter_javascript" }),
     ("javascriptreact", { moduleName := "tree_sitter_javascript" }),
     ("typescript",
      { moduleName := "tree_sitter_typescript", functionName := "language_typescript" }),
     ("typescriptreact",
      { moduleName := "tree_sitter_typescript", functionName := "language_tsx" }),
     ("python", { moduleName := "tree_sitter_python" }),
     ("java", { moduleName := "tree_sitter_java" }),
     ("csharp", { moduleName := "tree_sitter_c_sharp" }),
     ("cpp", { moduleName := "tree_sitter_cpp" })]

/-- The provider registered under exactly this id. -/
def get? (r : Registry) (id : Text) : Option Provider :=
  r.entries.lookup id

def erase (r : Registry) (id : Text) : Registry :=
  ⟨r.entries.filter fun entry => entry.1 != id⟩

def insert (r : Registry) (id : Text) (provider : Provider) : Registry :=
  ⟨(r.erase id).entries ++ [(id, provider)]⟩

theorem get?_erase (r : Registry) (id key : Text) :
    (r.erase id).get? key = if key = id then none else r.get? key := by
  unfold get? erase
  induction r.entries with
  | nil => simp
  | cons entry rest ih =>
    rw [List.filter_cons, List.lookup_cons]
    grind

theorem get?_insert (r : Registry) (id key : Text) (provider : Provider) :
    (r.insert id provider).get? key = if key = id then some provider else r.get? key := by
  have erased := r.get?_erase id key
  unfold get? at erased ⊢
  rw [insert, List.lookup_append, erased, List.lookup_cons]
  grind

def ids (r : Registry) : List Text :=
  (r.entries.map Prod.fst).mergeSort Text.le

/-- Whether a grammar is registered for a language id, however it is spelled. -/
def supports (r : Registry) (id : LanguageId) : Bool :=
  match id.key with
  | .text key => (r.get? key).isSome
  | .bytes _ => false

end Registry

end SyntaxParity
