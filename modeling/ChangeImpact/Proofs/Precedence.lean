import ChangeImpact.Proofs.LexicalScopes

/-!
Which scope a call should belong to, and which it does. It should go to the innermost function around it, to the
innermost class only where no function is, and to the file where neither is. The walk takes the nearest scope, be it a
function or a class. The two differ exactly where a class stands between a call and its innermost function.
-/

set_option autoImplicit false

namespace ChangeImpact

open ChangeImpact.Syntax (Tree Visit preorder)
open Extraction (Dialect)

namespace Extraction

def nameText? (tree : Tree) : Option String := (tree.child? "name").map Tree.text

def Script.bindsFunction (tree : Tree) : Bool :=
  ((tree.child? "value").any fun value => Script.functionValueKinds.contains value.kind) &&
    (tree.child? "name").any fun name => name.kind == "identifier"

end Extraction

namespace Grammar

open Extraction (nameText?)

def functionKinds : List String := ["function_declaration", "generator_function_declaration", "method_definition"]

def functionName? (grammar : Grammar) (tree : Tree) : Option String :=
  match grammar with
  | .python => if tree.kind = "function_definition" then nameText? tree else none
  | _ =>
      if tree.kind ∈ functionKinds then nameText? tree
      else if tree.kind = "variable_declarator" ∧ Extraction.Script.bindsFunction tree then nameText? tree
      else none

def className? (grammar : Grammar) (tree : Tree) : Option String :=
  match grammar with
  | .python => if tree.kind = "class_definition" then nameText? tree else none
  | _ => if Extraction.Script.isClassLike tree then nameText? tree else none

/-- Whom a node belongs to by precedence: the innermost function, else the innermost class, else the file. -/
def owner (grammar : Grammar) (file : String) (visit : Visit) : String :=
  ((visit.ancestors.findSome? grammar.functionName?).or (visit.ancestors.findSome? grammar.className?)).getD file

/-- In scripts, a node opens a scope as a function, as a class or as a declarator of a function. -/
theorem scriptScopeName?_eq (tree : Tree) :
    Extraction.Script.scopeName? tree =
      if tree.kind ∈ functionKinds ∨ Extraction.Script.isClassLike tree then nameText? tree
      else if tree.kind = "variable_declarator" ∧ Extraction.Script.bindsFunction tree then nameText? tree
      else none := by
  have kinds : (Extraction.Script.functionKinds.contains tree.kind = true ∨ tree.kind = "method_definition" ∨
      Extraction.Script.isClassLike tree = true) ↔
      tree.kind ∈ functionKinds ∨ Extraction.Script.isClassLike tree = true := by
    simp [Extraction.Script.functionKinds, functionKinds, or_assoc]
  unfold Extraction.Script.scopeName?
  simp only [kinds]
  by_cases first : tree.kind ∈ functionKinds ∨ Extraction.Script.isClassLike tree = true
  · rw [if_pos first, if_pos first]
    rfl
  · rw [if_neg first, if_neg first]
    by_cases declarator : tree.kind = "variable_declarator"
    · simp only [declarator, if_true, true_and, Extraction.Script.bindsFunction, nameText?]
      cases tree.child? "value" <;> cases tree.child? "name" <;> simp
    · simp [declarator]

theorem kind_of_classLike {tree : Tree} (classLike : Extraction.Script.isClassLike tree = true) :
    tree.kind ∉ functionKinds ∧ tree.kind ≠ "variable_declarator" := by
  have kinds : tree.kind ∈ ["class_declaration", "abstract_class_declaration", "class", "interface_declaration"] := by
    simpa [Extraction.Script.isClassLike, Extraction.Script.classKinds, or_assoc] using classLike
  simp only [List.mem_cons, List.not_mem_nil, or_false] at kinds
  rcases kinds with kind | kind | kind | kind <;> simp [kind, functionKinds]

/-- No node is a function and a class. -/
theorem functionName?_of_class {grammar : Grammar} {tree : Tree} {name : String}
    (isClass : grammar.className? tree = some name) : grammar.functionName? tree = none := by
  cases grammar with
  | python =>
      simp only [className?, functionName?] at isClass ⊢
      split at isClass
      · rename_i kind
        rw [kind, if_neg (by decide)]
      · cases isClass
  | javascript | typescript | typescriptMarkup =>
      simp only [className?, functionName?] at isClass ⊢
      split at isClass
      · rename_i classLike
        obtain ⟨noFunction, noDeclarator⟩ := kind_of_classLike classLike
        simp [noFunction, noDeclarator]
      · cases isClass

/-- The scopes are the functions and the classes. -/
theorem scopeName?_eq (grammar : Grammar) (tree : Tree) :
    grammar.dialect.scopeName? tree = (grammar.functionName? tree).or (grammar.className? tree) := by
  cases grammar with
  | python =>
      change Extraction.Python.scopeName? tree = _
      unfold Extraction.Python.scopeName? Extraction.Python.scopeKinds
      by_cases isFunction : tree.kind = "function_definition"
      · simp [functionName?, className?, isFunction, nameText?]
      · by_cases isClass : tree.kind = "class_definition"
        · simp [functionName?, className?, isClass, nameText?]
        · simp [functionName?, className?, isFunction, isClass]
  | javascript | typescript | typescriptMarkup =>
      change Extraction.Script.scopeName? tree = _
      rw [scriptScopeName?_eq]
      simp only [functionName?, className?]
      by_cases classLike : Extraction.Script.isClassLike tree = true
      · obtain ⟨noFunction, noDeclarator⟩ := kind_of_classLike classLike
        simp [classLike, noFunction, noDeclarator]
      · simp [classLike]

/-! ### Classes between a call and its function -/

/-- Among the nodes above a call, a class is the nearest scope, and there is a function further out. -/
def Overtakes (grammar : Grammar) (above : List Tree) (nearest innermost : String) : Prop :=
  ∃ inner node outer, above = inner ++ node :: outer ∧ (∀ tree ∈ inner, grammar.dialect.scopeName? tree = none) ∧
    grammar.className? node = some nearest ∧ outer.findSome? grammar.functionName? = some innermost

variable {grammar : Grammar}

theorem overtakes_cons_of_none {tree : Tree} (plain : grammar.dialect.scopeName? tree = none) {above : List Tree}
    {nearest innermost : String} :
    grammar.Overtakes (tree :: above) nearest innermost ↔ grammar.Overtakes above nearest innermost := by
  constructor
  · rintro ⟨inner, node, outer, split, unscoped, isClass, isFunction⟩
    cases inner with
    | nil =>
        cases split
        rw [scopeName?_eq, isClass] at plain
        simp at plain
    | cons first rest =>
        obtain ⟨rfl, remaining⟩ := List.cons.inj split
        exact ⟨rest, node, outer, remaining, (List.forall_mem_cons.mp unscoped).2, isClass, isFunction⟩
  · rintro ⟨inner, node, outer, rfl, unscoped, isClass, isFunction⟩
    exact ⟨tree :: inner, node, outer, rfl, List.forall_mem_cons.mpr ⟨plain, unscoped⟩, isClass, isFunction⟩

theorem overtakes_cons_of_class {tree : Tree} {name : String} (isClass : grammar.className? tree = some name)
    {above : List Tree} {nearest innermost : String} :
    grammar.Overtakes (tree :: above) nearest innermost ↔
      name = nearest ∧ above.findSome? grammar.functionName? = some innermost := by
  constructor
  · rintro ⟨inner, node, outer, split, unscoped, nodeClass, isFunction⟩
    cases inner with
    | nil =>
        cases split
        exact ⟨Option.some.inj (isClass.symm.trans nodeClass), isFunction⟩
    | cons first rest =>
        obtain ⟨rfl, _⟩ := List.cons.inj split
        have plain := unscoped tree List.mem_cons_self
        rw [scopeName?_eq, isClass] at plain
        simp at plain
  · rintro ⟨rfl, isFunction⟩
    exact ⟨[], tree, above, rfl, List.forall_mem_nil _, isClass, isFunction⟩

theorem not_overtakes_of_function {tree : Tree} {name : String} (isFunction : grammar.functionName? tree = some name)
    {above : List Tree} {nearest innermost : String} : ¬ grammar.Overtakes (tree :: above) nearest innermost := by
  rintro ⟨inner, node, outer, split, unscoped, nodeClass, _⟩
  cases inner with
  | nil =>
      cases split
      cases isFunction.symm.trans (functionName?_of_class nodeClass)
  | cons first rest =>
      obtain ⟨rfl, _⟩ := List.cons.inj split
      have plain := unscoped tree List.mem_cons_self
      rw [scopeName?_eq, isFunction] at plain
      cases plain

/-- The nearest scope is the innermost function, or else the innermost class, unless a class overtakes a function of
another name. -/
theorem nearest_eq_of_not_overtakes {above : List Tree}
    (free : ∀ nearest innermost, grammar.Overtakes above nearest innermost → nearest = innermost) :
    above.findSome? grammar.dialect.scopeName? =
      (above.findSome? grammar.functionName?).or (above.findSome? grammar.className?) := by
  induction above with
  | nil => rfl
  | cons tree above ih =>
      have scope := scopeName?_eq grammar tree
      cases isFunction : grammar.functionName? tree with
      | some name =>
          rw [isFunction, Option.some_or] at scope
          simp [List.findSome?_cons, scope, isFunction]
      | none =>
          rw [isFunction, Option.none_or] at scope
          cases isClass : grammar.className? tree with
          | some name =>
              rw [isClass] at scope
              simp only [List.findSome?_cons, scope, isFunction, isClass]
              -- The class is the nearest scope, so a function further out must have its name.
              cases further : above.findSome? grammar.functionName? with
              | none => rfl
              | some other =>
                  rw [Option.some_or, free name other ((overtakes_cons_of_class isClass).mpr ⟨rfl, further⟩)]
          | none =>
              rw [isClass] at scope
              simp only [overtakes_cons_of_none scope] at free
              simp only [List.findSome?_cons, scope, isFunction, isClass]
              exact ih free

theorem overtakes_names {above : List Tree} {nearest innermost : String}
    (overtakes : grammar.Overtakes above nearest innermost) :
    above.findSome? grammar.dialect.scopeName? = some nearest ∧
      above.findSome? grammar.functionName? = some innermost := by
  induction above with
  | nil =>
      obtain ⟨inner, node, outer, split, _⟩ := overtakes
      simp at split
  | cons tree above ih =>
      have scope := scopeName?_eq grammar tree
      cases isFunction : grammar.functionName? tree with
      | some name => exact absurd overtakes (not_overtakes_of_function isFunction)
      | none =>
          rw [isFunction, Option.none_or] at scope
          cases isClass : grammar.className? tree with
          | some name =>
              obtain ⟨rfl, further⟩ := (overtakes_cons_of_class isClass).mp overtakes
              simp [scope, isFunction, isClass, further]
          | none =>
              rw [isClass] at scope
              simpa [List.findSome?_cons, scope, isFunction] using ih ((overtakes_cons_of_none scope).mp overtakes)

section

variable {file : String} {visit : Visit}

theorem scopeAt_of_overtakes {nearest innermost : String}
    (overtakes : grammar.Overtakes visit.ancestors nearest innermost) :
    grammar.dialect.scopeAt file visit = nearest ∧ grammar.owner file visit = innermost := by
  obtain ⟨scope, function⟩ := overtakes_names overtakes
  simp [Dialect.scopeAt, owner, scope, function]

theorem scopeAt_eq_owner_iff :
    grammar.dialect.scopeAt file visit = grammar.owner file visit ↔
      ∀ nearest innermost, grammar.Overtakes visit.ancestors nearest innermost → nearest = innermost := by
  constructor
  · intro same nearest innermost overtakes
    obtain ⟨scope, function⟩ := @scopeAt_of_overtakes grammar file visit nearest innermost overtakes
    rw [← scope, ← function, same]
  · intro free
    unfold Dialect.scopeAt owner
    rw [nearest_eq_of_not_overtakes free]

end

/-! ### Calls -/

def MakesAt (grammar : Grammar) (file : String) (visit : Visit) (reference : Reference) : Prop :=
  ∃ made, grammar.dialect.referencesAt file visit = .ok made ∧ reference ∈ made

/-- Each call keeps the precedence of functions over classes if and only if no class stands between it and its innermost
function, or one of the same name. Where such a class does, the call belongs to the class. -/
theorem calls_keep_precedence_iff (grammar : Grammar) (file : String) (tree : Tree) (references : List Reference)
    (done : grammar.dialect.references file tree = .ok references) :
    (∀ reference, reference ∈ references ↔ ∃ visit ∈ tree.visits [] [], grammar.MakesAt file visit reference) ∧
    ∀ visit ∈ tree.visits [] [], ∀ reference, grammar.MakesAt file visit reference → reference.kind = .calls →
      (reference.source = grammar.owner file visit ↔
        ∀ nearest innermost, grammar.Overtakes visit.ancestors nearest innermost → nearest = innermost) ∧
      ∀ nearest innermost, grammar.Overtakes visit.ancestors nearest innermost →
        reference.source = nearest ∧ grammar.owner file visit = innermost := by
  rw [← Syntax.preorder_eq]
  refine ⟨fun reference => Dialect.mem_references done, ?_⟩
  rintro visit _ reference ⟨made, given, member⟩ isCall
  have source := source_of_call given member isCall
  rw [source]
  exact ⟨scopeAt_eq_owner_iff, fun nearest innermost => scopeAt_of_overtakes⟩

/-- A function with a class in it. The body of the class makes a call, and after the class the function does. -/
def localClassTree : Tree :=
  let rows : List Syntax.Row :=
    [⟨0, "module", true, none, 0, 42⟩, ⟨1, "function_definition", true, none, 0, 41⟩, ⟨2, "def", false, none, 0, 3⟩,
      ⟨2, "identifier", true, some "name", 4, 5⟩, ⟨2, "parameters", true, some "parameters", 5, 7⟩,
      ⟨3, "(", false, none, 5, 6⟩, ⟨3, ")", false, none, 6, 7⟩, ⟨2, ":", false, none, 7, 8⟩,
      ⟨2, "block", true, some "body", 13, 41⟩, ⟨3, "class_definition", true, none, 13, 33⟩,
      ⟨4, "class", false, none, 13, 18⟩, ⟨4, "identifier", true, some "name", 19, 20⟩, ⟨4, ":", false, none, 20, 21⟩,
      ⟨4, "block", true, some "body", 30, 33⟩, ⟨5, "expression_statement", true, none, 30, 33⟩,
      ⟨6, "call", true, none, 30, 33⟩, ⟨7, "identifier", true, some "function", 30, 31⟩,
      ⟨7, "argument_list", true, some "arguments", 31, 33⟩, ⟨8, "(", false, none, 31, 32⟩,
      ⟨8, ")", false, none, 32, 33⟩, ⟨3, "expression_statement", true, none, 38, 41⟩,
      ⟨4, "call", true, none, 38, 41⟩, ⟨5, "identifier", true, some "function", 38, 39⟩,
      ⟨5, "argument_list", true, some "arguments", 39, 41⟩, ⟨6, "(", false, none, 39, 40⟩,
      ⟨6, ")", false, none, 40, 41⟩]
  let text := "def f():\n    class A:\n        g()\n    h()\n"
  (({ hasError := false, rows } : Syntax.Outline).tree? text.toUTF8).getD Syntax.emptyTree

/-- A class with a field whose value is a call, in a function. -/
def localFieldTree : Tree :=
  let rows : List Syntax.Row :=
    [⟨0, "program", true, none, 0, 37⟩, ⟨1, "function_declaration", true, none, 0, 37⟩,
      ⟨2, "function", false, none, 0, 8⟩, ⟨2, "identifier", true, some "name", 9, 10⟩,
      ⟨2, "formal_parameters", true, some "parameters", 10, 12⟩, ⟨3, "(", false, none, 10, 11⟩,
      ⟨3, ")", false, none, 11, 12⟩, ⟨2, "statement_block", true, some "body", 13, 37⟩,
      ⟨3, "\x7b", false, none, 13, 14⟩, ⟨3, "class_declaration", true, none, 15, 35⟩,
      ⟨4, "class", false, none, 15, 20⟩, ⟨4, "identifier", true, some "name", 21, 22⟩,
      ⟨4, "class_body", true, some "body", 23, 35⟩, ⟨5, "\x7b", false, none, 23, 24⟩,
      ⟨5, "field_definition", true, some "member", 25, 32⟩,
      ⟨6, "property_identifier", true, some "property", 25, 26⟩, ⟨6, "=", false, none, 27, 28⟩,
      ⟨6, "call_expression", true, some "value", 29, 32⟩, ⟨7, "identifier", true, some "function", 29, 30⟩,
      ⟨7, "arguments", true, some "arguments", 30, 32⟩, ⟨8, "(", false, none, 30, 31⟩, ⟨8, ")", false, none, 31, 32⟩,
      ⟨5, ";", false, none, 32, 33⟩, ⟨5, "\x7d", false, none, 34, 35⟩, ⟨3, "\x7d", false, none, 36, 37⟩]
  let text := "function f() \x7b class A \x7b x = g(); \x7d \x7d"
  (({ hasError := false, rows } : Syntax.Outline).tree? text.toUTF8).getD Syntax.emptyTree

/-- The calls of a tree in preorder: the scope that each comes from, its target, and whom it should belong to. -/
def attributions (grammar : Grammar) (file : String) (tree : Tree) : List (String × String × String) :=
  (tree.visits [] []).flatMap fun visit =>
    (((grammar.dialect.referencesAt file visit).toOption.getD []).filter fun reference => reference.kind = .calls).map
      fun reference => (reference.source, reference.target, grammar.owner file visit)

theorem exists_of_mem_attributions {file : String} {tree : Tree} {source target belongs : String}
    (listed : (source, target, belongs) ∈ grammar.attributions file tree)
    (read : (grammar.dialect.references file tree).isOk = true) :
    ∃ references, grammar.dialect.references file tree = .ok references ∧
      ∃ visit ∈ tree.visits [] [], ∃ reference ∈ references, grammar.MakesAt file visit reference ∧
        reference.kind = .calls ∧ reference.source = source ∧ grammar.owner file visit = belongs := by
  obtain ⟨visit, visited, inRow⟩ := List.mem_flatMap.mp listed
  obtain ⟨reference, kept, same⟩ := List.mem_map.mp inRow
  obtain ⟨member, isCall⟩ := List.mem_filter.mp kept
  cases same
  cases given : grammar.dialect.referencesAt file visit with
  | error fault =>
      rw [given] at member
      cases member
  | ok made =>
      rw [given] at member
      cases done : grammar.dialect.references file tree with
      | error fault =>
          rw [done] at read
          cases read
      | ok references =>
          have among : reference ∈ references := by
            rw [Dialect.mem_references done, Syntax.preorder_eq]
            exact ⟨visit, visited, made, given, member⟩
          exact ⟨references, rfl, visit, visited, reference, among, ⟨made, given, member⟩, of_decide_eq_true isCall,
            rfl, rfl⟩

/-- A call after the class belongs to the function around both, for no class is nearer. -/
theorem calls_keep_precedence_iff_localClass :
    ∃ references, Grammar.python.dialect.references "a.py" localClassTree = .ok references ∧
      ∃ visit ∈ localClassTree.visits [] [], ∃ reference ∈ references, reference.kind = .calls ∧
        reference.source = "f" ∧
        ∀ nearest innermost, Grammar.python.Overtakes visit.ancestors nearest innermost → nearest = innermost := by
  have listed : ("f", "h", "f") ∈ Grammar.python.attributions "a.py" localClassTree := by decide +kernel
  have read : (Grammar.python.dialect.references "a.py" localClassTree).isOk = true := by decide +kernel
  obtain ⟨references, done, visit, visited, reference, among, makes, isCall, source, belongs⟩ :=
    exists_of_mem_attributions listed read
  obtain ⟨_, exactly⟩ := calls_keep_precedence_iff .python "a.py" localClassTree references done
  have free := (exactly visit visited reference makes isCall).1.mp (source.trans belongs.symm)
  exact ⟨references, done, visit, visited, reference, among, isCall, source, free⟩

/-- The call in the body of the class, or in a field of it, belongs to the class and not to the function. -/
theorem class_takes_call_of_function :
    (∃ references, Grammar.python.dialect.references "a.py" localClassTree = .ok references ∧
      ∃ visit ∈ localClassTree.visits [] [], ∃ reference ∈ references, Grammar.python.MakesAt "a.py" visit reference ∧
        reference.kind = .calls ∧ reference.source = "A" ∧ Grammar.python.owner "a.py" visit = "f") ∧
    ∃ references, Grammar.javascript.dialect.references "a.js" localFieldTree = .ok references ∧
      ∃ visit ∈ localFieldTree.visits [] [], ∃ reference ∈ references,
        Grammar.javascript.MakesAt "a.js" visit reference ∧ reference.kind = .calls ∧ reference.source = "A" ∧
          Grammar.javascript.owner "a.js" visit = "f" := by
  have inBody : ("A", "g", "f") ∈ Grammar.python.attributions "a.py" localClassTree := by decide +kernel
  have inField : ("A", "g", "f") ∈ Grammar.javascript.attributions "a.js" localFieldTree := by decide +kernel
  exact ⟨exists_of_mem_attributions inBody (by decide +kernel), exists_of_mem_attributions inField (by decide +kernel)⟩

end Grammar

end ChangeImpact
