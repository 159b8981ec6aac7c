import ChangeImpact.Extraction.PythonDeclarations
import ChangeImpact.Extraction.PythonReferences
import ChangeImpact.Extraction.ScriptDeclarations
import ChangeImpact.Extraction.ScriptReferences

/-!
Languages by file extension. A table lists the extensions of the languages whose grammar is there; of two
languages that list one extension the later has it.
-/

set_option autoImplicit false

namespace ChangeImpact

inductive Grammar where
  | python
  | javascript
  | typescript
  | typescriptMarkup
  deriving DecidableEq, Repr

structure Language where
  name : String
  extensions : List String
  grammar : Option Grammar
  deriving Repr

namespace Language

def standard : List Language :=
  [{ name := "javascript", extensions := [".js", ".jsx", ".mjs", ".cjs"], grammar := some .javascript },
    { name := "typescript", extensions := [".ts"], grammar := some .typescript },
    { name := "tsx", extensions := [".tsx"], grammar := some .typescriptMarkup },
    { name := "python", extensions := [".py", ".pyw"], grammar := some .python }]

end Language

structure LanguageEntry where
  name : String
  grammar : Grammar
  deriving DecidableEq, Repr

structure LanguageTable where
  entries : List (String × LanguageEntry)

namespace LanguageTable

def add (table : LanguageTable) (language : Language) : LanguageTable :=
  match language.grammar with
  | none => table
  | some grammar =>
      let claimed := language.extensions.map fun extension =>
        (Text.lower extension, ({ name := language.name, grammar } : LanguageEntry))
      { entries := Json.Fields.merge table.entries claimed }

def ofLanguages (languages : List Language) : LanguageTable :=
  languages.foldl add { entries := [] }

def standard : LanguageTable := ofLanguages Language.standard

def extensions (table : LanguageTable) : List String :=
  Text.sorted (table.entries.map Prod.fst)

def find? (table : LanguageTable) (file : String) : Option LanguageEntry :=
  table.entries.lookup (Path.fileExtension file)

def supports (table : LanguageTable) (file : String) : Bool := (table.find? file).isSome

def languageOf? (table : LanguageTable) (file : String) : Option String :=
  (table.find? file).map LanguageEntry.name

end LanguageTable

namespace Extraction

open ChangeImpact.Syntax (Tree Outline emptyTree)

def ofTree (grammar : Grammar) (file : String) (tree : Tree) :
    Except Fault (List Declaration × List Reference) :=
  match grammar with
  | .python => do
      .ok (← Python.declarations file tree, ← Python.dialect.references file tree)
  | _ => do
      .ok (← Script.declarations file tree, ← Script.dialect.references file tree)

def unsupported (file : String) : Extraction :=
  let extension := Path.fileExtension file
  let shown := if extension = "" then "(none)" else extension
  { file
    language := unknownLanguage
    errors := [s!"No parser available for file extension: {shown}"] }

/-- What one file gives: its text, with what its grammar found in it. A tree that cannot be read leaves
only the fault. -/
def ofFile (table : LanguageTable) (file : String) (octets : ByteArray) (outline : Outline) :
    Extraction :=
  match table.find? file with
  | none => unsupported file
  | some entry =>
      match ofTree entry.grammar file ((outline.tree? octets).getD emptyTree) with
      | .ok (declarations, references) =>
          { file
            language := entry.name
            declarations
            references
            errors := if outline.hasError then [parseErrorMarker] else [] }
      | .error fault => { file, language := entry.name, errors := [fault.message] }

end Extraction

end ChangeImpact
