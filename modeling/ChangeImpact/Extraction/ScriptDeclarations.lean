import ChangeImpact.Extraction.ScriptNames
import ChangeImpact.Path

/-!
Declarations of JavaScript and TypeScript files: the module itself, functions, methods, classes,
interfaces, top variables, imports and exports. A name exported in a clause marks its declarations
wherever they stand in the file.
-/

set_option autoImplicit false

namespace ChangeImpact.Extraction.Script

open ChangeImpact.Syntax (Tree Visit preorder)
open ChangeImpact.Json (Value)

/-- Whether one of the nodes above, nearest first, is an export with no body in between. -/
def underExport : List Tree → Bool
  | [] => false
  | above :: rest =>
      if above.kind = "export_statement" then true
      else if above.kind = "statement_block" ∨ above.kind = "program" then false
      else underExport rest

def isExported (visit : Visit) : Bool := underExport visit.ancestors

def functionProposal (visit : Visit) : List Declaration :=
  let tree := visit.tree
  match tree.child? "name" with
  | none => []
  | some name =>
      [spanning tree .functionKind name.text
        [("async", .bool (tree.hasChild "async")),
          ("generator",
            .bool (tree.kind == "generator_function_declaration" || tree.hasChild "*")),
          ("exported", .bool (isExported visit))]]

def owningClass? (visit : Visit) : Option String :=
  match visit.ancestors with
  | _ :: owner :: _ =>
      if classKinds.contains owner.kind then (owner.child? "name").map Tree.text else none
  | _ => none

def methodProposal (visit : Visit) : List Declaration :=
  let tree := visit.tree
  match tree.child? "name" with
  | none => []
  | some name =>
      [spanning tree .functionKind name.text
        [("async", .bool (tree.hasChild "async")),
          ("generator", .bool (tree.hasChild "*")),
          ("static", .bool (tree.hasChild "static")),
          ("isMethod", .bool true),
          ("className", .ofOption (owningClass? visit)),
          ("exported", .bool (isExported visit))]]

def isTopLevel : List Tree → Bool
  | parent :: rest =>
      if parent.kind = "export_statement" then
        match rest with
        | outer :: _ => outer.kind == "program"
        | [] => false
      else parent.kind == "program"
  | [] => false

def variableProposal (visit : Visit) (name : String) : List Declaration :=
  match visit.ancestors with
  | declaration :: above =>
      let loads := ((visit.tree.child? "value").bind loadedModule?).isSome
      if isTopLevel above && !loads then
        [spanning visit.tree .variableKind name
          [("kind", .ofOption (declaration.children.head?.map Tree.kind)),
            ("exported", .bool (isExported visit))]]
      else []
  | [] => []

def declaratorProposal (visit : Visit) : List Declaration :=
  let tree := visit.tree
  match tree.child? "name" with
  | none => []
  | some name =>
      if name.kind ≠ "identifier" then []
      else
        match tree.child? "value" with
        | some value =>
            if functionValueKinds.contains value.kind then
              [spanning tree .functionKind name.text
                [("arrowFunction", .bool (value.kind == "arrow_function")),
                  ("async", .bool (value.hasChild "async")),
                  ("generator", .bool (value.kind == "generator_function" || value.hasChild "*")),
                  ("exported", .bool (isExported visit))]]
            else variableProposal visit name.text
        | none => variableProposal visit name.text

def classProposal (visit : Visit) : Except Fault (List Declaration) :=
  let tree := visit.tree
  match tree.child? "name" with
  | none => .ok []
  | some name => do
      let inherited ← heritage tree
      .ok [spanning tree .classKind name.text
        [("superclass", .ofOption (inherited.supers.head?.map Prod.fst)),
          ("implements", textList (inherited.interfaces.map Prod.fst)),
          ("interface", .bool (tree.kind == "interface_declaration")),
          ("abstract", .bool (tree.kind == "abstract_class_declaration")),
          ("exported", .bool (isExported visit))]]

/-- One part of an import clause: the names it brings in. -/
def importPartNames (part : Tree) : List String :=
  if part.kind = "identifier" then [part.text]
  else if part.kind = "namespace_import" then
    (part.named.filter fun child => child.kind == "identifier").map Tree.text
  else if part.kind = "named_imports" then
    (part.named.filter fun child => child.kind == "import_specifier").filterMap
      fun specifier => (specifier.child? "name").map Tree.text
  else []

def importProposal (tree : Tree) : List Declaration :=
  match tree.child? "source" with
  | none => []
  | some source =>
      let clauses := tree.named.filter fun child => child.kind == "import_clause"
      let parts := clauses.flatMap Tree.named
      [spanning tree .importKind (stripQuotes source.text)
        [("importedNames", textList (parts.flatMap importPartNames)),
          ("isDefault", .bool (parts.any fun part => part.kind == "identifier")),
          ("isNamespace", .bool (parts.any fun part => part.kind == "namespace_import")),
          ("commonjs", .bool false)]]

def boundNames (visit : Visit) : List String :=
  match visit.parent? with
  | some parent =>
      if parent.kind = "variable_declarator" then
        match parent.child? "name" with
        | some target =>
            if target.kind = "identifier" then [target.text]
            else
              ((preorder target).map Visit.tree).filterMap fun tree =>
                if tree.kind = "identifier" ∨
                    tree.kind = "shorthand_property_identifier_pattern" then some tree.text
                else none
        | none => []
      else []
  | none => []

def loadProposal (visit : Visit) : List Declaration :=
  match loadedModule? visit.tree with
  | none => []
  | some specifier =>
      [spanning visit.tree .importKind specifier
        [("importedNames", textList (boundNames visit)),
          ("isDefault", .bool false), ("isNamespace", .bool false), ("commonjs", .bool true)]]

def declaredNames (declaration : Tree) : List String :=
  if declaration.kind = "lexical_declaration" ∨ declaration.kind = "variable_declaration" then
    (declaration.named.filter fun child => child.kind == "variable_declarator").filterMap
      fun child => (child.child? "name").bind fun name =>
        if name.kind = "identifier" then some name.text else none
  else
    match declaration.child? "name" with
    | some name => [name.text]
    | none => []

inductive Exported where
  /-- A declaration made in the statement, as default or not. -/
  | declaration (names : List String) (isDefault : Bool)
  /-- A name that is the default. -/
  | value (name : String)
  /-- Clauses of local names, each with the name it is known by outside. -/
  | clauses (specifiers : List (String × String)) (fromElsewhere : Bool)

def exportSpecifiers (statement : Tree) : List (String × String) :=
  let clauses := statement.named.filter fun child => child.kind == "export_clause"
  let specifiers := (clauses.flatMap Tree.named).filter fun child => child.kind == "export_specifier"
  specifiers.filterMap fun specifier =>
    (specifier.child? "name").map fun localName =>
      (localName.text, ((specifier.child? "alias").getD localName).text)

def exportedBy (statement : Tree) : Exported :=
  let clauses := Exported.clauses (exportSpecifiers statement) (statement.child? "source").isSome
  match statement.child? "declaration" with
  | some declaration => .declaration (declaredNames declaration) (statement.hasChild "default")
  | none =>
      match statement.child? "value" with
      | some value => if value.kind = "identifier" then .value value.text else clauses
      | none => clauses

def exportProposals (statement : Tree) : List Declaration :=
  match exportedBy statement with
  | .declaration names isDefault =>
      names.map fun name => spanning statement .exportKind name [("isDefault", .bool isDefault)]
  | .value name => [spanning statement .exportKind name [("isDefault", .bool true)]]
  | .clauses specifiers fromElsewhere =>
      specifiers.map fun specifier =>
        spanning statement .exportKind specifier.2
          [("isDefault", .bool false), ("reexport", .bool fromElsewhere)]

def clauseNames (tree : Tree) : List String :=
  if tree.kind = "export_statement" then
    match exportedBy tree with
    | .declaration _ _ => []
    | .value name => [name]
    | .clauses specifiers fromElsewhere =>
        if fromElsewhere then [] else specifiers.map Prod.fst
  else []

def proposals (visit : Visit) : Except Fault (List Declaration) :=
  let tree := visit.tree
  if functionKinds.contains tree.kind then .ok (functionProposal visit)
  else if tree.kind = "method_definition" then .ok (methodProposal visit)
  else if tree.kind = "variable_declarator" then .ok (declaratorProposal visit)
  else if isClassLike tree then classProposal visit
  else if tree.kind = "import_statement" then .ok (importProposal tree)
  else if tree.kind = "call_expression" then .ok (loadProposal visit)
  else if tree.kind = "export_statement" then .ok (exportProposals tree)
  else .ok []

def exportableKinds : List NodeKind := [.functionKind, .classKind, .variableKind]

def markExported (names : List String) (declaration : Declaration) : Declaration :=
  if exportableKinds.contains declaration.kind && names.contains declaration.name then
    { declaration with
      metadata := Json.Fields.set "exported" (.bool true) declaration.metadata }
  else declaration

/-- The file names, without ending, of modules that stand for their directory or are run directly. -/
def entryStems : List String := ["index", "main"]

def moduleDeclaration (file : String) (root : Tree) : Declaration :=
  { kind := .moduleKind
    name := file
    lineStart := .ofNat 1
    lineEnd := .ofNat root.endLine
    metadata := [("isEntryPoint", .bool (entryStems.contains (Path.stem file)))] }

/-- The names that the clauses of a file export, wherever they stand. -/
def clauseExports (root : Tree) : List String := (preorder root).flatMap fun visit => clauseNames visit.tree

def declarations (file : String) (root : Tree) : Except Fault (List Declaration) := do
  let proposed ← (preorder root).mapM proposals
  let kept := Declaration.firsts (moduleDeclaration file root :: proposed.flatten)
  .ok (kept.map (markExported (clauseExports root)))

end ChangeImpact.Extraction.Script
