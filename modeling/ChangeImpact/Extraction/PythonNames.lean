import ChangeImpact.Extraction.Basic

/-!
Names in Python syntax trees: what an expression is called by, the bases of a class, the parameters of
a function and the modules that an import depends on.
-/

set_option autoImplicit false

namespace ChangeImpact.Extraction.Python

open ChangeImpact.Syntax (Tree)

def rightmostName (expr : Tree) : Except Fault (Option String) :=
  if expr.kind = "identifier" then .ok (some expr.text)
  else if expr.kind = "attribute" then .ok ((expr.child? "attribute").map Tree.text)
  else if expr.kind = "subscript" ∨ expr.kind = "generic_type" then
    match _found : expr.child? "value" with
    | some value => rightmostName value
    | none =>
        match _operands : expr.named with
        | [] => .error .missingOperand
        | operand :: _ => rightmostName operand
  else .ok none
termination_by expr.size
decreasing_by
  · exact Tree.size_lt_of_mem (Tree.mem_children_of_child? _found)
  · exact Tree.size_lt_of_mem
      (Tree.mem_children_of_mem_named (_operands ▸ List.mem_cons_self))

/-- The name that a call goes to; of a dotted one only the last name. -/
def calleeName (callee : Tree) : Except Fault (Option String) :=
  if callee.kind = "identifier" ∨ callee.kind = "attribute" then rightmostName callee
  else if callee.kind = "call" then
    match _found : callee.child? "function" with
    | some inner => calleeName inner
    | none => .ok none
  else .ok none
termination_by callee.size
decreasing_by exact Tree.size_lt_of_mem (Tree.mem_children_of_child? _found)

def baseClasses (tree : Tree) : Except Fault (List (String × String)) :=
  match tree.child? "superclasses" with
  | none => .ok []
  | some bases => do
      let found ← bases.named.mapM fun base => do
        let name ← rightmostName base
        .ok (match name with
          | some target => if target = "" then none else some (base.text, target)
          | none => none)
      .ok (found.filterMap id)

/-- The name of a parameter, below its stars, default and type. -/
def parameterName? (parameter : Tree) : Option String :=
  if parameter.kind = "identifier" then some parameter.text
  else
    match parameter.child? "name" with
    | some name => some name.text
    | none =>
        match _found : parameter.named.find? fun child =>
            child.kind = "identifier" ∨ child.kind = "list_splat_pattern" ∨
              child.kind = "dictionary_splat_pattern" with
        | some child => parameterName? child
        | none => none
termination_by parameter.size
decreasing_by
  exact Tree.size_lt_of_mem (Tree.mem_children_of_mem_named (List.mem_of_find?_eq_some _found))

def parameterNames : Option Tree → List String
  | none => []
  | some parameters => (parameters.named.filterMap parameterName?).filter (· ≠ "")

def importEntry? (entry : Tree) : Option String :=
  if entry.kind = "dotted_name" then some entry.text
  else if entry.kind = "aliased_import" then (entry.child? "name").map Tree.text
  else none

def importedNames (statement : Tree) : List String :=
  let others := statement.children.eraseP fun child => child.label.field == some "module_name"
  (others.filter fun child => child.label.isNamed).filterMap importEntry?

def isDots (moduleName : String) : Bool :=
  !moduleName.isEmpty && moduleName.toList.all (· = '.')

/-- The modules that an import depends on. Names taken from dots alone are modules themselves. -/
def importTargets (statement : Tree) : List String :=
  if statement.kind = "import_statement" then statement.named.filterMap importEntry?
  else
    match statement.child? "module_name" with
    | none => []
    | some moduleName =>
        let imported := importedNames statement
        if isDots moduleName.text && !imported.isEmpty then
          imported.map fun name => moduleName.text ++ name
        else [moduleName.text]

end ChangeImpact.Extraction.Python
