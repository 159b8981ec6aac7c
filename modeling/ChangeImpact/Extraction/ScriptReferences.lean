import ChangeImpact.Extraction.ScriptNames
import ChangeImpact.Extraction.Scope

/-!
References of JavaScript and TypeScript files. Functions, methods, classes, interfaces and variables
that hold a function open scopes; classes refer to what they extend and implement, calls to the name
they go to, and imports and exports to the modules they name.
-/

set_option autoImplicit false

namespace ChangeImpact.Extraction.Script

open ChangeImpact.Syntax (Tree)

def scopeReferences (name : String) (tree : Tree) : Except Fault (List Reference) :=
  if isClassLike tree then do
    let inherited ← heritage tree
    let refersTo := fun kind (base : String × String) =>
      { source := name, target := base.2, kind, metadata := onLine tree.startLine : Reference }
    .ok (inherited.supers.map (refersTo .inherits) ++
      inherited.interfaces.map (refersTo .implements))
  else .ok []

def callOf (current : String) (metadata : Metadata) : Option String → List Reference
  | some target =>
      if target = "" then [] else [{ source := current, target, kind := .calls, metadata }]
  | none => []

def importOf (file target : String) (line : Nat) : Reference :=
  { source := file, target, kind := .imports, metadata := onLine line }

def nodeReferences (file current : String) (tree : Tree) : Except Fault (List Reference) :=
  let line := onLine tree.startLine
  if tree.kind = "call_expression" then
    match loadedModule? tree with
    | some specifier => .ok [importOf file specifier tree.startLine]
    | none =>
        match tree.child? "function" with
        | some callee => do .ok (callOf current line (← calleeName callee))
        | none => .ok []
  else if tree.kind = "new_expression" then
    match tree.child? "constructor" with
    | some callee => do
        .ok (callOf current (line ++ [("constructor", .bool true)]) (← calleeName callee))
    | none => .ok []
  else if tree.kind = "import_statement" ∨ tree.kind = "export_statement" then
    match tree.child? "source" with
    | some source => .ok [importOf file (stripQuotes source.text) tree.startLine]
    | none => .ok []
  else .ok []

/-- A scope that ends closes the innermost one only if that is its own. -/
def close (place : List Nat) : List OpenScope → Except Fault (List OpenScope)
  | [] => .ok []
  | scope :: outer => .ok (if scope.place = place then outer else scope :: outer)

def dialect : Dialect :=
  { scopeName?, scopeReferences, nodeReferences, close
    close_own := fun _ _ _ => congrArg Except.ok (if_pos rfl) }

end ChangeImpact.Extraction.Script
