import ChangeImpact.Extraction.PythonNames
import ChangeImpact.Extraction.Scope

/-!
References of Python files. Functions and classes open scopes; a class refers to its bases, a call to
the name it goes to, and an import to the modules it depends on.
-/

set_option autoImplicit false

namespace ChangeImpact.Extraction.Python

open ChangeImpact.Syntax (Tree)

def scopeKinds : List String := ["function_definition", "class_definition"]

def scopeName? (tree : Tree) : Option String :=
  if scopeKinds.contains tree.kind then (tree.child? "name").map Tree.text else none

def scopeReferences (name : String) (tree : Tree) : Except Fault (List Reference) :=
  if tree.kind = "class_definition" then do
    let bases ← baseClasses tree
    .ok (bases.map fun base =>
      { source := name, target := base.2, kind := .inherits, metadata := onLine tree.startLine })
  else .ok []

def nodeReferences (file current : String) (tree : Tree) : Except Fault (List Reference) :=
  if tree.kind = "call" then
    match tree.child? "function" with
    | none => .ok []
    | some callee => do
        let name ← calleeName callee
        .ok (match name with
          | some target =>
              if target = "" then []
              else
                [{ source := current, target, kind := .calls, metadata := onLine tree.startLine }]
          | none => [])
  else if tree.kind = "import_statement" ∨ tree.kind = "import_from_statement" then
    .ok ((importTargets tree).map fun target =>
      { source := file, target, kind := .imports, metadata := onLine tree.startLine })
  else .ok []

/-- A scope that ends closes the innermost one, which must be there. -/
def close (_ : List Nat) : List OpenScope → Except Fault (List OpenScope)
  | [] => .error .noOpenScope
  | _ :: outer => .ok outer

def dialect : Dialect :=
  { scopeName?, scopeReferences, nodeReferences, close, close_own := fun _ _ _ => rfl }

end ChangeImpact.Extraction.Python
