import ChangeImpact.Extraction.PythonNames
import ChangeImpact.Path

/-!
Declarations of Python files: the module itself, functions and methods, classes, imports and the
assignments at the top of the file.
-/

set_option autoImplicit false

namespace ChangeImpact.Extraction.Python

open ChangeImpact.Syntax (Tree Visit preorder)
open ChangeImpact.Json (Value)

/-- The names that one top statement gives to `__all__`, and whether it starts the list anew. -/
def exportList? (statement : Tree) : Option (Bool × List String) :=
  if statement.kind ≠ "expression_statement" then none
  else
    match statement.named with
    | [] => none
    | expr :: _ =>
        if expr.kind ≠ "assignment" ∧ expr.kind ≠ "augmented_assignment" then none
        else
          match expr.child? "left", expr.child? "right" with
          | some left, some right =>
              if left.text = "__all__" ∧ (right.kind = "list" ∨ right.kind = "tuple") then
                let names := (right.named.filter fun item => item.kind == "string").map
                  fun item => stripQuotes item.text
                some (expr.kind == "assignment", names)
              else none
          | _, _ => none

/-- The names listed in `__all__`, if the file has one: an assignment resets, an addition extends. -/
def exportedNames? (root : Tree) : Option (List String) :=
  (root.named.filterMap exportList?).foldl
    (fun names (change : Bool × List String) =>
      if change.1 then some change.2 else some (names.getD [] ++ change.2))
    none

def enclosingClass? (visit : Visit) : Option String :=
  let outer :=
    match visit.ancestors with
    | parent :: rest => if parent.kind = "decorated_definition" then rest else parent :: rest
    | [] => []
  match outer with
  | body :: owner :: _ =>
      if body.kind = "block" ∧ owner.kind = "class_definition" then
        (owner.child? "name").map Tree.text
      else none
  | _ => none

def decorators (visit : Visit) : List String :=
  match visit.parent? with
  | some parent =>
      if parent.kind = "decorated_definition" then
        (parent.named.filter fun child => child.kind == "decorator").map Tree.text
      else []
  | none => []

/-- The kinds of nodes whose inside belongs to another function. -/
def nestedKinds : List String :=
  ["function_definition", "class_definition", "lambda", "decorated_definition"]

/-- Whether one of the pending trees holds a yield that is not inside a nested definition. -/
def yieldAmong : List Tree → Bool
  | [] => false
  | tree :: rest =>
      if tree.kind = "yield" then true
      else if nestedKinds.contains tree.kind then yieldAmong rest
      else yieldAmong (tree.children.reverse ++ rest)
termination_by pending => Tree.sizes pending
decreasing_by
  · simp only [Tree.sizes]
    have := Tree.size_pos tree
    omega
  · have same : Tree.sizes tree.children.reverse = Tree.sizes tree.children := by
      induction tree.children with
      | nil => rfl
      | cons head tail ih =>
          rw [List.reverse_cons, Syntax.Tree.sizes_append, ih]
          simp only [Tree.sizes]
          omega
    simp only [Syntax.Tree.sizes_append, same, Tree.sizes, Tree.size_eq tree]
    omega

def containsYield : Option Tree → Bool
  | none => false
  | some body => yieldAmong body.children.reverse

def functionProposal (exported : List String) (visit : Visit) : List Declaration :=
  let tree := visit.tree
  match tree.child? "name" with
  | none => []
  | some nameNode =>
      let name := nameNode.text
      let className := enclosingClass? visit
      [spanning tree .functionKind name
        [("async", .bool (tree.hasChild "async")),
          ("generator", .bool (containsYield (tree.child? "body"))),
          ("decorators", textList (decorators visit)),
          ("parameters", textList (parameterNames (tree.child? "parameters"))),
          ("isMethod", .bool className.isSome),
          ("className", .ofOption className),
          ("exported", .bool (className.isNone && exported.contains name))]]

def classProposal (exported : List String) (visit : Visit) : Except Fault (List Declaration) :=
  let tree := visit.tree
  match tree.child? "name" with
  | none => .ok []
  | some nameNode => do
      let bases ← baseClasses tree
      .ok [spanning tree .classKind nameNode.text
        [("baseClasses", textList (bases.map Prod.fst)),
          ("decorators", textList (decorators visit)),
          ("exported", .bool (exported.contains nameNode.text))]]

def importProposal? (statement entry : Tree) : Option Declaration :=
  let declared := fun name renamed =>
    spanning statement .importKind name [("importType", .str "import"), ("alias", .ofOption renamed)]
  if entry.kind = "dotted_name" then some (declared entry.text none)
  else if entry.kind = "aliased_import" then
    (entry.child? "name").map fun name => declared name.text ((entry.child? "alias").map Tree.text)
  else none

def fromImportProposal (statement : Tree) : List Declaration :=
  match statement.child? "module_name" with
  | none => []
  | some moduleName =>
      [spanning statement .importKind moduleName.text
        [("importType", .str "from"),
          ("importedNames", textList (importedNames statement)),
          ("isWildcard", .bool (statement.hasChild "wildcard_import")),
          ("relative", .bool (Text.startsWith moduleName.text "."))]]

def isTopAssignment (visit : Visit) : Bool :=
  match visit.ancestors with
  | parent :: grandparent :: _ =>
      parent.kind == "expression_statement" && grandparent.kind == "module"
  | _ => false

def assignmentProposal (exported : List String) (tree : Tree) : List Declaration :=
  match tree.child? "left" with
  | none => []
  | some left =>
      let name := left.text
      if left.kind ≠ "identifier" ∨ (Text.startsWith name "__" ∧ Text.endsWith name "__") then []
      else
        let plain :=
          spanning tree .variableKind name
            [("isConstant", .bool (name == Text.upper name)),
              ("exported", .bool (exported.contains name))]
        match tree.child? "right" with
        | none => [plain]
        | some right =>
            if right.kind = "lambda" then
              [spanning tree .functionKind name
                [("async", .bool false), ("generator", .bool false), ("lambda", .bool true),
                  ("decorators", textList []),
                  ("parameters", textList (parameterNames (right.child? "parameters"))),
                  ("isMethod", .bool false), ("className", .null),
                  ("exported", .bool (exported.contains name))]]
            else [plain]

def proposals (exported : List String) (visit : Visit) : Except Fault (List Declaration) :=
  let tree := visit.tree
  if tree.kind = "function_definition" then .ok (functionProposal exported visit)
  else if tree.kind = "class_definition" then classProposal exported visit
  else if tree.kind = "import_statement" then .ok (tree.named.filterMap (importProposal? tree))
  else if tree.kind = "import_from_statement" then .ok (fromImportProposal tree)
  else if tree.kind = "assignment" ∧ isTopAssignment visit then
    .ok (assignmentProposal exported tree)
  else .ok []

def entryNames : List String := ["__main__.py", "main.py"]

def moduleDeclaration (file : String) (root : Tree) : Declaration :=
  { kind := .moduleKind
    name := file
    lineStart := .ofNat 1
    lineEnd := .ofNat root.endLine
    metadata :=
      [("isEntryPoint", .bool (entryNames.contains (Path.fileName file))),
        ("hasAll", .bool (exportedNames? root).isSome)] }

def declarations (file : String) (root : Tree) : Except Fault (List Declaration) := do
  let exported := (exportedNames? root).getD []
  let proposed ← (preorder root).mapM (proposals exported)
  .ok (Declaration.firsts (moduleDeclaration file root :: proposed.flatten))

end ChangeImpact.Extraction.Python
