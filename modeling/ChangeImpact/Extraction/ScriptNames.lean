import ChangeImpact.Extraction.Basic

/-!
Names in JavaScript and TypeScript syntax trees: what an expression is called by, what a class extends
and implements, and the module that a call loads.
-/

set_option autoImplicit false

namespace ChangeImpact.Extraction.Script

open ChangeImpact.Syntax (Tree)

def functionKinds : List String := ["function_declaration", "generator_function_declaration"]

def functionValueKinds : List String :=
  ["arrow_function", "function_expression", "function", "generator_function"]

def classKinds : List String := ["class_declaration", "abstract_class_declaration", "class"]

def isClassLike (tree : Tree) : Bool :=
  classKinds.contains tree.kind || tree.kind == "interface_declaration"

def rightmostName (expr : Tree) : Except Fault (Option String) :=
  if expr.kind = "identifier" ∨ expr.kind = "type_identifier" ∨ expr.kind = "property_identifier" then
    .ok (some expr.text)
  else if expr.kind = "member_expression" then
    match _found : expr.child? "property" with
    | some property => rightmostName property
    | none => .ok none
  else if expr.kind = "nested_type_identifier" then
    match _found : expr.child? "name" with
    | some name => rightmostName name
    | none => .ok none
  else if expr.kind = "generic_type" then
    match _found : expr.child? "name" with
    | some name => rightmostName name
    | none =>
        match _operands : expr.named with
        | [] => .error .missingOperand
        | operand :: _ => rightmostName operand
  else .ok none
termination_by expr.size
decreasing_by
  · exact Tree.size_lt_of_mem (Tree.mem_children_of_child? _found)
  · exact Tree.size_lt_of_mem (Tree.mem_children_of_child? _found)
  · exact Tree.size_lt_of_mem (Tree.mem_children_of_child? _found)
  · exact Tree.size_lt_of_mem
      (Tree.mem_children_of_mem_named (_operands ▸ List.mem_cons_self))

def calleeName (callee : Tree) : Except Fault (Option String) :=
  if callee.kind = "call_expression" then
    match _found : callee.child? "function" with
    | some inner => calleeName inner
    | none => .ok none
  else
    match _operands : callee.named with
    | operand :: _ =>
        if callee.kind = "parenthesized_expression" then calleeName operand
        else rightmostName callee
    | [] => rightmostName callee
termination_by callee.size
decreasing_by
  · exact Tree.size_lt_of_mem (Tree.mem_children_of_child? _found)
  · exact Tree.size_lt_of_mem
      (Tree.mem_children_of_mem_named (_operands ▸ List.mem_cons_self))

/-- The module that a call loads, by `require` or as an import made while running. -/
def loadedModule? (tree : Tree) : Option String :=
  if tree.kind ≠ "call_expression" then none
  else
    match tree.child? "function", tree.child? "arguments" with
    | some callee, some arguments =>
        if (callee.kind = "identifier" ∧ callee.text = "require") ∨ callee.kind = "import" then
          match arguments.named with
          | first :: _ => if first.kind = "string" then some (stripQuotes first.text) else none
          | [] => none
        else none
    | _, _ => none

def scopeName? (tree : Tree) : Option String :=
  if functionKinds.contains tree.kind ∨ tree.kind = "method_definition" ∨ isClassLike tree then
    (tree.child? "name").map Tree.text
  else if tree.kind = "variable_declarator" then
    match tree.child? "value", tree.child? "name" with
    | some value, some name =>
        if functionValueKinds.contains value.kind ∧ name.kind = "identifier" then some name.text
        else none
    | _, _ => none
  else none

/-- What a class extends and implements: as written, and the name each goes by. -/
structure Heritage where
  supers : List (String × String) := []
  interfaces : List (String × String) := []

def namedExpr (expr : Tree) : Except Fault (List (String × String)) := do
  let name ← rightmostName expr
  .ok (match name with
    | some target => if target = "" then [] else [(expr.text, target)]
    | none => [])

def namedExprs (exprs : List Tree) : Except Fault (List (String × String)) := do
  let found ← exprs.mapM namedExpr
  .ok found.flatten

def clauseHeritage (clause : Tree) : Except Fault Heritage :=
  if clause.kind = "extends_clause" then
    match clause.child? "value", clause.named with
    | some value, _ => do .ok { supers := ← namedExpr value }
    | none, operand :: _ => do .ok { supers := ← namedExpr operand }
    | none, [] => .error .missingOperand
  else if clause.kind = "implements_clause" then do
    .ok { interfaces := ← namedExprs clause.named }
  else do .ok { supers := ← namedExpr clause }

def Heritage.append (left right : Heritage) : Heritage :=
  { supers := left.supers ++ right.supers, interfaces := left.interfaces ++ right.interfaces }

def childHeritage (child : Tree) : Except Fault Heritage :=
  if child.kind = "class_heritage" then do
    let parts ← child.named.mapM clauseHeritage
    .ok (parts.foldl Heritage.append {})
  else if child.kind = "extends_type_clause" then do .ok { supers := ← namedExprs child.named }
  else .ok {}

def heritage (tree : Tree) : Except Fault Heritage := do
  let parts ← tree.children.mapM childHeritage
  .ok (parts.foldl Heritage.append {})

end ChangeImpact.Extraction.Script
