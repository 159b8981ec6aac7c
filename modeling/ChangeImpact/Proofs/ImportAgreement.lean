import ChangeImpact.Proofs.FirstProposals
import ChangeImpact.Proofs.ScriptProposals
import Mathlib.Data.Set.Basic

/-!
Imports as declarations and as references. One walk declares what the imports of a file name, another refers to what
they depend on. The two agree but for exports that take from elsewhere, which only refer, and for names taken from
dots alone, which are modules themselves.
-/

set_option autoImplicit false

namespace ChangeImpact

open ChangeImpact.Syntax (Tree Visit preorder)
open ChangeImpact.Json (Value)

/-! ### Imports of a list -/

def Declaration.importNames (declarations : List Declaration) : List String :=
  (declarations.filter fun declaration => declaration.kind == .importKind).map Declaration.name

def Reference.importTargets (references : List Reference) : List String :=
  (references.filter fun reference => reference.kind == .imports).map Reference.target

theorem Declaration.importNames_of_others {declarations : List Declaration}
    (others : ∀ declaration ∈ declarations, declaration.kind ≠ .importKind) : importNames declarations = [] := by
  simp only [importNames, List.map_eq_nil_iff, List.filter_eq_nil_iff, beq_iff_eq]
  exact others

theorem Declaration.importNames_of_all {declarations : List Declaration}
    (all : ∀ declaration ∈ declarations, declaration.kind = .importKind) :
    importNames declarations = declarations.map name := by
  unfold importNames
  rw [List.filter_eq_self.mpr fun declaration member => beq_iff_eq.mpr (all declaration member)]

theorem Reference.importTargets_of_others {references : List Reference}
    (others : ∀ reference ∈ references, reference.kind ≠ .imports) : importTargets references = [] := by
  simp only [importTargets, List.map_eq_nil_iff, List.filter_eq_nil_iff, beq_iff_eq]
  exact others

theorem Reference.importTargets_of_all {references : List Reference}
    (all : ∀ reference ∈ references, reference.kind = .imports) :
    importTargets references = references.map target := by
  unfold importTargets
  rw [List.filter_eq_self.mpr fun reference member => beq_iff_eq.mpr (all reference member)]

/-! ### JavaScript and TypeScript -/

namespace Extraction.Script

def sourceOf (statement : Tree) : Option String :=
  (statement.child? "source").map fun source => stripQuotes source.text

/-- What a node imports, as a statement or as a call that loads a module. -/
def importedAt (tree : Tree) : List String :=
  if tree.kind = "import_statement" then (sourceOf tree).toList else (loadedModule? tree).toList

def reexportedAt (tree : Tree) : List String :=
  if tree.kind = "export_statement" then (sourceOf tree).toList else []

theorem importedAt_of_kind {tree : Tree} (noImport : tree.kind ≠ "import_statement")
    (noCall : tree.kind ≠ "call_expression") : importedAt tree = [] := by
  unfold importedAt loadedModule?
  rw [if_neg noImport, if_pos noCall]
  rfl

theorem importNames_proposals {visit : Visit} {proposal : List Declaration} (made : proposals visit = .ok proposal) :
    Declaration.importNames proposal = importedAt visit.tree := by
  by_cases isImport : visit.tree.kind = "import_statement"
  · rw [proposals_import isImport] at made
    cases made
    unfold importProposal importedAt sourceOf
    rw [if_pos isImport]
    cases visit.tree.child? "source" <;> rfl
  by_cases isCall : visit.tree.kind = "call_expression"
  · rw [proposals_call isCall] at made
    cases made
    unfold loadProposal importedAt
    rw [if_neg isImport]
    cases loadedModule? visit.tree <;> rfl
  rw [importedAt_of_kind isImport isCall]
  apply Declaration.importNames_of_others
  by_cases isExport : visit.tree.kind = "export_statement"
  · rw [proposals_export isExport] at made
    cases made
    intro declaration member
    rw [exportProposals_kind visit.tree declaration member]
    decide
  · intro declaration member same
    have item := proposals_isItemOf (by simp [tradeKinds, isImport, isCall, isExport]) made declaration member
    exact absurd item.kind (by rw [same]; decide)

theorem scopeName?_of_trade {tree : Tree} (trade : tree.kind ∈ tradeKinds) : scopeName? tree = none := by
  simp only [tradeKinds, List.mem_cons, List.not_mem_nil, or_false] at trade
  unfold scopeName? isClassLike
  rcases trade with kind | kind | kind <;> simp [kind, functionKinds, classKinds]

theorem importTargets_scope {name : String} {tree : Tree} {made : List Reference}
    (done : scopeReferences name tree = .ok made) : Reference.importTargets made = [] := by
  apply Reference.importTargets_of_others
  unfold scopeReferences at done
  split at done
  · obtain ⟨inherited, _, same⟩ := Outcome.bind_ok done
    cases same
    intro reference member
    rcases List.mem_append.mp member with extended | implemented
    · obtain ⟨base, _, rfl⟩ := List.mem_map.mp extended
      exact (by decide : EdgeKind.inherits ≠ .imports)
    · obtain ⟨base, _, rfl⟩ := List.mem_map.mp implemented
      exact (by decide : EdgeKind.implements ≠ .imports)
  · cases done
    exact List.forall_mem_nil _

theorem importTargets_callOf (current : String) (metadata : Metadata) (callee : Option String) :
    Reference.importTargets (callOf current metadata callee) = [] := by
  apply Reference.importTargets_of_others
  unfold callOf
  split
  · split
    · exact List.forall_mem_nil _
    · exact List.forall_mem_singleton.mpr (by decide : EdgeKind.calls ≠ .imports)
  · exact List.forall_mem_nil _

theorem importTargets_node {file current : String} {tree : Tree} {made : List Reference}
    (done : nodeReferences file current tree = .ok made) :
    Reference.importTargets made = importedAt tree ++ reexportedAt tree := by
  unfold nodeReferences at done
  dsimp only at done
  -- A call refers to a module only if it loads one; otherwise it refers to what it calls.
  split at done
  · rename_i isCall
    have reexported : reexportedAt tree = [] := if_neg (by simp [isCall])
    rw [reexported, importedAt, if_neg (by simp [isCall]), List.append_nil]
    cases loaded : loadedModule? tree with
    | some specifier =>
        rw [loaded] at done
        cases done
        rfl
    | none =>
        rw [loaded] at done
        dsimp only at done
        split at done
        · obtain ⟨callee, _, same⟩ := Outcome.bind_ok done
          cases same
          exact importTargets_callOf _ _ _
        · cases done
          rfl
  rename_i noCall
  split at done
  · rename_i isNew
    rw [importedAt_of_kind (by simp [isNew]) noCall, reexportedAt, if_neg (by simp [isNew])]
    split at done
    · obtain ⟨callee, _, same⟩ := Outcome.bind_ok done
      cases same
      exact importTargets_callOf _ _ _
    · cases done
      rfl
  split at done
  · rename_i statement
    have named : importedAt tree ++ reexportedAt tree = (sourceOf tree).toList := by
      unfold reexportedAt
      rcases statement with isImport | isExport
      · rw [importedAt, if_pos isImport, if_neg (by simp [isImport]), List.append_nil]
      · rw [importedAt_of_kind (by simp [isExport]) noCall, if_pos isExport, List.nil_append]
    rw [named]
    unfold sourceOf
    split at done
    · rename_i source found
      cases done
      rw [found]
      rfl
    · rename_i absent
      cases done
      rw [absent]
      rfl
  · rename_i other
    obtain ⟨noImport, noExport⟩ := not_or.mp other
    cases done
    rw [importedAt_of_kind noImport noCall, reexportedAt, if_neg noExport]
    rfl

theorem importTargets_references {file : String} {visit : Visit} {made : List Reference}
    (given : dialect.referencesAt file visit = .ok made) :
    Reference.importTargets made = importedAt visit.tree ++ reexportedAt visit.tree := by
  unfold Dialect.referencesAt at given
  cases opens : dialect.scopeName? visit.tree with
  | none =>
      rw [opens] at given
      exact importTargets_node given
  | some name =>
      rw [opens] at given
      have plain : visit.tree.kind ∉ tradeKinds := by
        intro trade
        have closed : dialect.scopeName? visit.tree = none := scopeName?_of_trade trade
        rw [closed] at opens
        cases opens
      simp only [tradeKinds, List.mem_cons, List.not_mem_nil, or_false, not_or] at plain
      rw [importTargets_scope given, importedAt_of_kind plain.1 plain.2.1, reexportedAt, if_neg plain.2.2]
      rfl

end Extraction.Script

/-! ### Python -/

namespace Extraction.Python

def importedAt (tree : Tree) : List String :=
  if tree.kind = "import_statement" then tree.named.filterMap importEntry?
  else if tree.kind = "import_from_statement" then ((tree.child? "module_name").map Tree.text).toList
  else []

def targetsAt (tree : Tree) : List String :=
  if tree.kind = "import_statement" ∨ tree.kind = "import_from_statement" then importTargets tree else []

theorem importProposal?_eq (statement entry : Tree) :
    (importProposal? statement entry).map Declaration.name = importEntry? entry := by
  unfold importProposal? importEntry?
  dsimp only
  split
  · rfl
  split
  · cases entry.child? "name" <;> rfl
  · rfl

theorem importProposal?_kind {statement entry : Tree} {declaration : Declaration}
    (proposed : importProposal? statement entry = some declaration) : declaration.kind = .importKind := by
  unfold importProposal? at proposed
  dsimp only at proposed
  split at proposed
  · cases proposed
    rfl
  split at proposed
  · obtain ⟨name, _, rfl⟩ := Option.map_eq_some_iff.mp proposed
    rfl
  · cases proposed

theorem importNames_statement (statement : Tree) :
    Declaration.importNames (statement.named.filterMap (importProposal? statement)) =
      statement.named.filterMap importEntry? := by
  rw [Declaration.importNames_of_all]
  · rw [List.map_filterMap]
    simp only [importProposal?_eq]
  · intro declaration member
    obtain ⟨entry, _, proposed⟩ := List.mem_filterMap.mp member
    exact importProposal?_kind proposed

theorem functionProposal_kind (exported : List String) (visit : Visit) :
    ∀ declaration ∈ functionProposal exported visit, declaration.kind = .functionKind := by
  unfold functionProposal
  dsimp only
  split
  · exact List.forall_mem_nil _
  · exact List.forall_mem_singleton.mpr rfl

theorem classProposal_kind {exported : List String} {visit : Visit} {proposal : List Declaration}
    (made : classProposal exported visit = .ok proposal) :
    ∀ declaration ∈ proposal, declaration.kind = .classKind := by
  unfold classProposal at made
  dsimp only at made
  split at made
  · cases made
    exact List.forall_mem_nil _
  · obtain ⟨bases, _, same⟩ := Outcome.bind_ok made
    cases same
    exact List.forall_mem_singleton.mpr rfl

theorem assignmentProposal_kind (exported : List String) (tree : Tree) :
    ∀ declaration ∈ assignmentProposal exported tree,
      declaration.kind = .variableKind ∨ declaration.kind = .functionKind := by
  unfold assignmentProposal
  dsimp only
  split
  · exact List.forall_mem_nil _
  split
  · exact List.forall_mem_nil _
  split
  · exact List.forall_mem_singleton.mpr (Or.inl rfl)
  split
  · exact List.forall_mem_singleton.mpr (Or.inr rfl)
  · exact List.forall_mem_singleton.mpr (Or.inl rfl)

theorem importNames_proposals {exported : List String} {visit : Visit} {proposal : List Declaration}
    (made : proposals exported visit = .ok proposal) :
    Declaration.importNames proposal = importedAt visit.tree := by
  unfold proposals at made
  dsimp only at made
  unfold importedAt
  split at made
  · rename_i isFunction
    cases made
    rw [if_neg (by simp [isFunction]), if_neg (by simp [isFunction])]
    apply Declaration.importNames_of_others
    intro declaration member
    rw [functionProposal_kind exported visit declaration member]
    decide
  split at made
  · rename_i isClass
    rw [if_neg (by simp [isClass]), if_neg (by simp [isClass])]
    apply Declaration.importNames_of_others
    intro declaration member
    rw [classProposal_kind made declaration member]
    decide
  split at made
  · rename_i isImport
    cases made
    rw [if_pos isImport]
    exact importNames_statement visit.tree
  rename_i noImport
  rw [if_neg noImport]
  split at made
  · rename_i isFrom
    cases made
    rw [if_pos isFrom]
    unfold fromImportProposal
    cases visit.tree.child? "module_name" <;> rfl
  rename_i noFrom
  rw [if_neg noFrom]
  apply Declaration.importNames_of_others
  split at made
  · cases made
    intro declaration member
    rcases assignmentProposal_kind exported visit.tree declaration member with kind | kind
    · rw [kind]
      decide
    · rw [kind]
      decide
  · cases made
    exact List.forall_mem_nil _

theorem importTargets_scope {name : String} {tree : Tree} {made : List Reference}
    (done : scopeReferences name tree = .ok made) : Reference.importTargets made = [] := by
  apply Reference.importTargets_of_others
  unfold scopeReferences at done
  split at done
  · obtain ⟨bases, _, same⟩ := Outcome.bind_ok done
    cases same
    intro reference member
    obtain ⟨base, _, rfl⟩ := List.mem_map.mp member
    exact (by decide : EdgeKind.inherits ≠ .imports)
  · cases done
    exact List.forall_mem_nil _

theorem importTargets_node {file current : String} {tree : Tree} {made : List Reference}
    (done : nodeReferences file current tree = .ok made) : Reference.importTargets made = targetsAt tree := by
  unfold nodeReferences at done
  unfold targetsAt
  split at done
  · rename_i isCall
    rw [if_neg (by simp [isCall])]
    apply Reference.importTargets_of_others
    split at done
    · cases done
      exact List.forall_mem_nil _
    · obtain ⟨name, _, same⟩ := Outcome.bind_ok done
      cases same
      split
      · split
        · exact List.forall_mem_nil _
        · exact List.forall_mem_singleton.mpr (by decide : EdgeKind.calls ≠ .imports)
      · exact List.forall_mem_nil _
  split at done
  · rename_i isImport
    cases done
    rw [if_pos isImport, Reference.importTargets_of_all, List.map_map]
    · exact List.map_id _
    · intro reference member
      obtain ⟨target, _, rfl⟩ := List.mem_map.mp member
      rfl
  · rename_i other
    cases done
    rw [if_neg other]
    rfl

theorem importTargets_references {file : String} {visit : Visit} {made : List Reference}
    (given : dialect.referencesAt file visit = .ok made) :
    Reference.importTargets made = targetsAt visit.tree := by
  unfold Dialect.referencesAt at given
  cases opens : dialect.scopeName? visit.tree with
  | none =>
      rw [opens] at given
      exact importTargets_node given
  | some name =>
      rw [opens] at given
      have plain : ¬ (visit.tree.kind = "import_statement" ∨ visit.tree.kind = "import_from_statement") := by
        intro statement
        have closed : dialect.scopeName? visit.tree = none := by
          change scopeName? visit.tree = none
          unfold scopeName?
          rcases statement with kind | kind <;> simp [kind, scopeKinds]
        rw [closed] at opens
        cases opens
      rw [importTargets_scope given, targetsAt, if_neg plain]

def Names (entry : Tree) (name : String) : Prop :=
  entry.kind = "dotted_name" ∧ entry.text = name ∨
    entry.kind = "aliased_import" ∧ ∃ inner, entry.child? "name" = some inner ∧ inner.text = name

theorem importEntry?_eq_some {entry : Tree} {name : String} : importEntry? entry = some name ↔ Names entry name := by
  unfold importEntry? Names
  by_cases dotted : entry.kind = "dotted_name"
  · simp [dotted]
  by_cases aliased : entry.kind = "aliased_import"
  · simp [aliased]
  · simp [dotted, aliased]

/-- A name that an import takes from its module. The first child in the field of the module is no such name. -/
def Takes (statement : Tree) (name : String) : Prop :=
  ∃ before entry after, statement.children = before ++ entry :: after ∧ entry.label.isNamed = true ∧
    Names entry name ∧
    (entry.label.field = some "module_name" → ∃ earlier ∈ before, earlier.label.field = some "module_name")

theorem mem_eraseP_iff {α : Type} {test : α → Bool} {items : List α} {item : α} :
    item ∈ items.eraseP test ↔
      ∃ before after, items = before ++ item :: after ∧
        (test item = true → ∃ earlier ∈ before, test earlier = true) := by
  induction items with
  | nil => simp
  | cons head tail ih =>
      by_cases erased : test head = true
      · rw [List.eraseP_cons_of_pos erased]
        constructor
        · intro member
          obtain ⟨before, after, rfl⟩ := List.append_of_mem member
          exact ⟨head :: before, after, rfl, fun _ => ⟨head, List.mem_cons_self, erased⟩⟩
        · intro ⟨before, after, split, earlier⟩
          cases before with
          | nil =>
              obtain ⟨rfl, _⟩ := List.cons.inj split
              obtain ⟨_, impossible, _⟩ := earlier erased
              cases impossible
          | cons first before =>
              rw [(List.cons.inj split).2]
              exact List.mem_append_right _ List.mem_cons_self
      · rw [List.eraseP_cons_of_neg erased, List.mem_cons, ih]
        constructor
        · intro either
          rcases either with rfl | ⟨before, after, rfl, earlier⟩
          · exact ⟨[], tail, rfl, fun found => absurd found erased⟩
          · refine ⟨head :: before, after, rfl, fun found => ?_⟩
            obtain ⟨other, member, same⟩ := earlier found
            exact ⟨other, List.mem_cons_of_mem _ member, same⟩
        · intro ⟨before, after, split, earlier⟩
          cases before with
          | nil => exact Or.inl (List.cons.inj split).1.symm
          | cons first before =>
              obtain ⟨rfl, rest⟩ := List.cons.inj split
              refine Or.inr ⟨before, after, rest, fun found => ?_⟩
              obtain ⟨other, member, same⟩ := earlier found
              rcases List.mem_cons.mp member with rfl | later
              · exact absurd same erased
              · exact ⟨other, later, same⟩

theorem mem_importedNames {statement : Tree} {name : String} :
    name ∈ importedNames statement ↔ Takes statement name := by
  unfold importedNames Takes
  simp only [List.mem_filterMap, List.mem_filter, mem_eraseP_iff, importEntry?_eq_some, beq_iff_eq]
  constructor
  · intro ⟨entry, ⟨⟨before, after, split, earlier⟩, isNamed⟩, names⟩
    exact ⟨before, entry, after, split, isNamed, names, earlier⟩
  · intro ⟨before, entry, after, split, isNamed, names, earlier⟩
    exact ⟨entry, ⟨⟨before, after, split, earlier⟩, isNamed⟩, names⟩

/-- What an import from dots alone points to: the modules that it names, or the dots if it names none. -/
def PointsFromDots (statement : Tree) (target : String) : Prop :=
  statement.kind = "import_from_statement" ∧
    ∃ moduleName, statement.child? "module_name" = some moduleName ∧ isDots moduleName.text = true ∧
      ((∃ name, Takes statement name ∧ target = moduleName.text ++ name) ∨
        (¬ ∃ name, Takes statement name) ∧ target = moduleName.text)

def ImportsDots (statement : Tree) (target : String) : Prop :=
  statement.kind = "import_statement" ∧ isDots target = true ∧ ∃ entry ∈ statement.named, Names entry target

theorem mem_targetsAt_from {statement : Tree} (isFrom : statement.kind = "import_from_statement") {target : String} :
    target ∈ targetsAt statement ↔
      (target ∈ importedAt statement ∧ isDots target = false) ∨ PointsFromDots statement target := by
  unfold targetsAt importedAt importTargets PointsFromDots
  rw [if_pos (Or.inr isFrom), if_neg (by simp [isFrom]), if_neg (by simp [isFrom]), if_pos isFrom,
    and_iff_right isFrom]
  cases statement.child? "module_name" with
  | none => simp
  | some moduleName =>
      simp only [← mem_importedNames, Option.map_some, Option.toList_some, List.mem_singleton, Option.some.injEq,
        exists_eq_left']
      cases dots : isDots moduleName.text with
      | false =>
          rw [Bool.false_and, if_neg Bool.false_ne_true, List.mem_singleton]
          constructor
          · rintro rfl
            exact Or.inl ⟨rfl, dots⟩
          · intro either
            rcases either with ⟨same, _⟩ | ⟨impossible, _⟩
            · exact same
            · cases impossible
      | true =>
          have notPlain : ¬ (target = moduleName.text ∧ isDots target = false) := by
            rintro ⟨rfl, plain⟩
            rw [dots] at plain
            cases plain
          rw [or_iff_right notPlain, Bool.true_and]
          cases importedNames statement with
          | nil => simp
          | cons first rest =>
              simp only [List.isEmpty_cons, Bool.not_false, if_true, List.mem_map, true_and]
              constructor
              · intro ⟨name, member, same⟩
                exact Or.inl ⟨name, member, same.symm⟩
              · intro either
                rcases either with ⟨name, member, same⟩ | ⟨empty, _⟩
                · exact ⟨name, member, same.symm⟩
                · exact absurd ⟨first, List.mem_cons_self⟩ empty

theorem mem_targetsAt_plain {statement : Tree} (isImport : statement.kind = "import_statement") {target : String} :
    target ∈ targetsAt statement ↔
      (target ∈ importedAt statement ∧ isDots target = false) ∨ ImportsDots statement target := by
  unfold targetsAt importedAt importTargets ImportsDots
  rw [if_pos (Or.inl isImport), if_pos isImport, if_pos isImport, and_iff_right isImport]
  simp only [List.mem_filterMap, importEntry?_eq_some]
  cases isDots target <;> simp

/-- A node refers to what it declares, except where dots stand alone. -/
theorem mem_targetsAt {tree : Tree} {target : String} :
    target ∈ targetsAt tree ↔
      (target ∈ importedAt tree ∧ isDots target = false) ∨ ImportsDots tree target ∨ PointsFromDots tree target := by
  by_cases isImport : tree.kind = "import_statement"
  · have noFrom : ¬ PointsFromDots tree target := fun found => absurd (isImport.symm.trans found.1) (by decide)
    rw [mem_targetsAt_plain isImport, or_iff_left noFrom]
  by_cases isFrom : tree.kind = "import_from_statement"
  · have noPlain : ¬ ImportsDots tree target := fun found => isImport found.1
    rw [mem_targetsAt_from isFrom, or_iff_right noPlain]
  · simp [targetsAt, importedAt, ImportsDots, PointsFromDots, isImport, isFrom]

end Extraction.Python

/-! ### Trees -/

/-- What the nodes of a tree name, each name with the line that its node begins on. -/
def Syntax.Tree.mentions (root : Tree) (names : Tree → String → Prop) : Set (String × Value) :=
  {mention | ∃ visit, Visit.Of root visit ∧ names visit.tree mention.1 ∧ mention.2 = .ofNat visit.tree.startLine}

theorem Syntax.Tree.mentions_or (root : Tree) (left right : Tree → String → Prop) :
    root.mentions (fun tree name => left tree name ∨ right tree name) = root.mentions left ∪ root.mentions right := by
  ext mention
  simp only [mentions, Set.mem_ofPred_eq, Set.mem_union, or_and_right, and_or_left, exists_or]

def Declaration.imports (declarations : List Declaration) : Set (String × Value) :=
  {mention | ∃ declaration ∈ declarations, declaration.kind = .importKind ∧
    declaration.name = mention.1 ∧ declaration.lineStart = mention.2}

def Reference.imports (references : List Reference) : Set (String × Value) :=
  {mention | ∃ reference ∈ references, reference.kind = .imports ∧
    reference.target = mention.1 ∧ reference.metadata.lookup "line" = some mention.2}

def Extraction.Script.ExportsFrom (statement : Tree) (target : String) : Prop :=
  statement.kind = "export_statement" ∧
    ∃ source, statement.child? "source" = some source ∧ target = stripQuotes source.text

theorem Extraction.Script.mem_reexportedAt {tree : Tree} {target : String} :
    target ∈ reexportedAt tree ↔ ExportsFrom tree target := by
  unfold reexportedAt sourceOf ExportsFrom
  by_cases isExport : tree.kind = "export_statement"
  · rw [if_pos isExport, and_iff_right isExport]
    cases tree.child? "source" <;> simp
  · simp [isExport]

namespace Grammar

variable {grammar : Grammar} {file : String} {root : Tree} {found : List Declaration} {references : List Reference}

def importedAt : Grammar → Tree → List String
  | .python => Extraction.Python.importedAt
  | _ => Extraction.Script.importedAt

def targetsAt : Grammar → Tree → List String
  | .python => Extraction.Python.targetsAt
  | _ => fun tree => Extraction.Script.importedAt tree ++ Extraction.Script.reexportedAt tree

theorem importNames_proposals {visit : Visit} {proposal : List Declaration}
    (made : grammar.proposals root visit = .ok proposal) :
    Declaration.importNames proposal = grammar.importedAt visit.tree := by
  cases grammar with
  | python => exact Extraction.Python.importNames_proposals made
  | javascript | typescript | typescriptMarkup => exact Extraction.Script.importNames_proposals made

theorem importTargets_references {visit : Visit} {made : List Reference}
    (given : grammar.dialect.referencesAt file visit = .ok made) :
    Reference.importTargets made = grammar.targetsAt visit.tree := by
  cases grammar with
  | python => exact Extraction.Python.importTargets_references given
  | javascript | typescript | typescriptMarkup => exact Extraction.Script.importTargets_references given

/-- The imports of a file are declared by its nodes, however many give way to earlier ones. -/
theorem imports_declared (done : grammar.declarations file root = .ok found) :
    Declaration.imports found = root.mentions fun tree name => name ∈ grammar.importedAt tree := by
  ext ⟨name, line⟩
  have keyed : (name, line) ∈ Declaration.imports found ↔
      (NodeKind.importKind, name, line) ∈ found.map Declaration.key := by
    simp [Declaration.imports, Declaration.key]
  have noModule : (NodeKind.importKind, name, line) ≠ (.moduleKind, file, .ofNat 1) := by
    intro same
    exact absurd (Prod.mk.inj same).1 (by decide)
  rw [keyed, mem_keys_iff done, or_iff_right noModule]
  constructor
  · intro ⟨visit, visited, proposal, given, listed⟩
    obtain ⟨declaration, member, same⟩ := List.mem_map.mp listed
    obtain ⟨rfl, rfl⟩ := Prod.mk.inj (Prod.mk.inj same).2
    refine ⟨visit, Syntax.mem_preorder_iff.mp visited, ?_, (proposals_proposedAt given declaration member).first⟩
    change _ ∈ grammar.importedAt visit.tree
    rw [← importNames_proposals given]
    exact List.mem_map_of_mem (List.mem_filter.mpr ⟨member, beq_iff_eq.mpr (Prod.mk.inj same).1⟩)
  · intro ⟨visit, inside, named, numbered⟩
    have visited := Syntax.mem_preorder_iff.mpr inside
    obtain ⟨proposal, given, _⟩ := (declarations_declaredBy done).proposed visit visited
    change name ∈ grammar.importedAt visit.tree at named
    rw [← importNames_proposals given] at named
    obtain ⟨declaration, kept, rfl⟩ := List.mem_map.mp named
    obtain ⟨member, isImport⟩ := List.mem_filter.mp kept
    refine ⟨visit, visited, proposal, given, List.mem_map.mpr ⟨declaration, member, ?_⟩⟩
    unfold Declaration.key
    rw [beq_iff_eq.mp isImport, (proposals_proposedAt given declaration member).first, ← numbered]

theorem imports_referred (done : grammar.dialect.references file root = .ok references) :
    Reference.imports references = root.mentions fun tree name => name ∈ grammar.targetsAt tree := by
  ext ⟨name, line⟩
  constructor
  · intro ⟨reference, listed, isImport, target, numbered⟩
    obtain ⟨visit, visited, made, given, member⟩ := (Extraction.Dialect.mem_references done).mp listed
    obtain ⟨_, here, _⟩ := grammar.dialect_isLocal.referencesAt given reference member
    refine ⟨visit, Syntax.mem_preorder_iff.mp visited, ?_, Option.some.inj (numbered.symm.trans here.line)⟩
    change name ∈ grammar.targetsAt visit.tree
    rw [← importTargets_references given]
    exact List.mem_map.mpr ⟨reference, List.mem_filter.mpr ⟨member, beq_iff_eq.mpr isImport⟩, target⟩
  · intro ⟨visit, inside, named, numbered⟩
    have visited := Syntax.mem_preorder_iff.mpr inside
    obtain ⟨made, given⟩ := Extraction.Dialect.exists_referencesAt done visited
    change name ∈ grammar.targetsAt visit.tree at named
    rw [← importTargets_references given] at named
    obtain ⟨reference, kept, target⟩ := List.mem_map.mp named
    obtain ⟨member, isImport⟩ := List.mem_filter.mp kept
    obtain ⟨_, here, _⟩ := grammar.dialect_isLocal.referencesAt given reference member
    refine ⟨reference, ?_, beq_iff_eq.mp isImport, target, here.line.trans (congrArg some numbered.symm)⟩
    exact (Extraction.Dialect.mem_references done).mpr ⟨visit, visited, made, given, member⟩

end Grammar

namespace Extraction

open Grammar Syntax.Tree

/-- The two walks agree on imports. In scripts, what is referred to is what is declared together with the sources of
exports. In Python it is what is declared and not dots alone, together with the plain imports that are dots alone and
with what statements take from dots. -/
theorem imports_agree (grammar : Grammar) (file : String) (tree : Tree) (declarations : List Declaration)
    (references : List Reference) (done : ofTree grammar file tree = .ok (declarations, references)) :
    (grammar ≠ .python →
      Reference.imports references = Declaration.imports declarations ∪ tree.mentions Script.ExportsFrom) ∧
    (grammar = .python →
      Reference.imports references =
        {mention ∈ Declaration.imports declarations | Python.isDots mention.1 = false} ∪
          (tree.mentions Python.ImportsDots ∪ tree.mentions Python.PointsFromDots)) := by
  obtain ⟨declared, referred⟩ := ofTree_done done
  rw [imports_declared declared, imports_referred referred]
  constructor
  · intro isScript
    have targets : grammar.targetsAt = fun tree => grammar.importedAt tree ++ Script.reexportedAt tree := by
      cases grammar with
      | python => exact absurd rfl isScript
      | javascript | typescript | typescriptMarkup => rfl
    rw [targets, ← mentions_or]
    congr 1
    funext tree target
    rw [List.mem_append, Script.mem_reexportedAt]
  · rintro rfl
    rw [← mentions_or]
    ext ⟨target, line⟩
    constructor
    · intro ⟨visit, inside, named, numbered⟩
      rcases Python.mem_targetsAt.mp named with ⟨imported, plain⟩ | dots
      · exact Or.inl ⟨⟨visit, inside, imported, numbered⟩, plain⟩
      · exact Or.inr ⟨visit, inside, dots, numbered⟩
    · rintro (⟨⟨visit, inside, imported, numbered⟩, plain⟩ | ⟨visit, inside, dots, numbered⟩)
      · exact ⟨visit, inside, Python.mem_targetsAt.mpr (Or.inl ⟨imported, plain⟩), numbered⟩
      · exact ⟨visit, inside, Python.mem_targetsAt.mpr (Or.inr dots), numbered⟩

def onlyStatement (root statement text : String) (children : List Tree) : Tree :=
  .node ⟨root, true, none, text, 1, 1⟩ [.node ⟨statement, true, none, text, 1, 1⟩ children]

theorem onlyStatement_mentions {root statement text target : String} {children : List Tree}
    {names : Tree → String → Prop} (named : names (.node ⟨statement, true, none, text, 1, 1⟩ children) target) :
    (target, Value.ofNat 1) ∈ (onlyStatement root statement text children).mentions names :=
  ⟨_, .child .root (List.mem_mapIdx.mpr ⟨0, Nat.zero_lt_one, rfl⟩), named, rfl⟩

/-- `from . import b` -/
def siblingImport : Tree :=
  onlyStatement "module" "import_from_statement" "from . import b"
    [.node ⟨"relative_import", true, some "module_name", ".", 1, 1⟩ [],
      .node ⟨"dotted_name", true, some "name", "b", 1, 1⟩ []]

/-- `export * from "./b"` -/
def exportAll : Tree :=
  onlyStatement "program" "export_statement" "export * from \"./b\""
    [.node ⟨"string", true, some "source", "\"./b\"", 1, 1⟩ []]

/-- `import ..` -/
def dotsImport : Tree :=
  onlyStatement "module" "import_statement" "import .."
    [.node ⟨"import", false, none, "import", 1, 1⟩ [], .node ⟨"dotted_name", true, some "name", "..", 1, 1⟩ []]

theorem imports_agree_siblings :
    (∃ declarations references, ofTree .python "p/a.py" siblingImport = .ok (declarations, references) ∧
      (".b", Value.ofNat 1) ∈ Reference.imports references) ∧
    ∃ declarations references, ofTree .javascript "p/a.js" exportAll = .ok (declarations, references) ∧
      ("./b", Value.ofNat 1) ∈ Reference.imports references := by
  constructor
  · obtain ⟨⟨declarations, references⟩, done⟩ :=
      Outcome.exists_of_isOk (by decide +kernel : (ofTree .python "p/a.py" siblingImport).isOk = true)
    refine ⟨declarations, references, done, ?_⟩
    rw [(imports_agree .python _ _ _ _ done).2 rfl]
    refine Or.inr (Or.inr (onlyStatement_mentions ⟨rfl, _, rfl, by decide, Or.inl ⟨"b", ?_, by decide⟩⟩))
    exact ⟨[_], _, [], rfl, rfl, Or.inl ⟨rfl, rfl⟩, fun inField => absurd inField (by decide)⟩
  · obtain ⟨⟨declarations, references⟩, done⟩ :=
      Outcome.exists_of_isOk (by decide +kernel : (ofTree .javascript "p/a.js" exportAll).isOk = true)
    refine ⟨declarations, references, done, ?_⟩
    rw [(imports_agree .javascript _ _ _ _ done).1 (by decide)]
    exact Or.inr (onlyStatement_mentions ⟨rfl, _, rfl, by decide +kernel⟩)

/-- A plain import of dots alone is referred to, although nothing is taken from dots. -/
theorem dotsImport_referred :
    ∃ declarations references, ofTree .python "a.py" dotsImport = .ok (declarations, references) ∧
      Reference.imports references ≠
        {mention ∈ Declaration.imports declarations | Python.isDots mention.1 = false} ∪
          dotsImport.mentions Python.PointsFromDots := by
  obtain ⟨⟨declarations, references⟩, done⟩ :=
    Outcome.exists_of_isOk (by decide +kernel : (ofTree .python "a.py" dotsImport).isOk = true)
  refine ⟨declarations, references, done, fun same => ?_⟩
  have listed : ("..", Value.ofNat 1) ∈ Reference.imports references := by
    rw [imports_referred (ofTree_done done).2]
    exact onlyStatement_mentions (by decide +kernel : ".." ∈ Python.targetsAt _)
  rw [same] at listed
  rcases listed with ⟨_, plain⟩ | ⟨visit, inside, ⟨isFrom, _⟩, _⟩
  · exact absurd plain (by decide)
  · have noFrom : ∀ visit ∈ preorder dotsImport, visit.tree.kind ≠ "import_from_statement" := by decide +kernel
    exact noFrom visit (Syntax.mem_preorder_iff.mpr inside) isFrom

end Extraction

end ChangeImpact
