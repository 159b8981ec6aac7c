import ChangeImpact.Proofs.FirstProposals
import ChangeImpact.Proofs.ScriptProposals

/-!
Which functions, classes and variables of a script are exported. The node that first proposes one looks upward for an
export; the clauses of the file and its default exports mark those that they name, wherever these stand.
-/

set_option autoImplicit false

namespace ChangeImpact.Extraction.Script

open ChangeImpact.Syntax (Tree Visit preorder)

/-! ### Exports above a node -/

/-- A node below an export, with no body in between. -/
def StandsInExport (visit : Visit) : Prop :=
  ∃ below statement above, visit.ancestors = below ++ statement :: above ∧ statement.kind = "export_statement" ∧
    ∀ node ∈ below, node.kind ≠ "statement_block" ∧ node.kind ≠ "program"

theorem underExport_iff {ancestors : List Tree} :
    underExport ancestors = true ↔
      ∃ below statement above, ancestors = below ++ statement :: above ∧ statement.kind = "export_statement" ∧
        ∀ node ∈ below, node.kind ≠ "statement_block" ∧ node.kind ≠ "program" := by
  induction ancestors with
  | nil => simp [underExport]
  | cons parent rest ih =>
      unfold underExport
      by_cases isExport : parent.kind = "export_statement"
      · rw [if_pos isExport]
        exact iff_of_true rfl ⟨[], parent, rest, rfl, isExport, List.forall_mem_nil _⟩
      rw [if_neg isExport]
      -- A body ends the search, so the export of a split would have to be the parent itself.
      by_cases isBody : parent.kind = "statement_block" ∨ parent.kind = "program"
      · rw [if_pos isBody]
        refine iff_of_false Bool.false_ne_true ?_
        intro ⟨below, statement, above, split, found, clear⟩
        cases below with
        | nil => exact isExport ((List.cons.inj split).1 ▸ found)
        | cons first below =>
            have free := clear first List.mem_cons_self
            rw [← (List.cons.inj split).1] at free
            exact isBody.elim free.1 free.2
      · rw [if_neg isBody, ih]
        constructor
        · intro ⟨below, statement, above, split, found, clear⟩
          refine ⟨parent :: below, statement, above, congrArg (parent :: ·) split, found, ?_⟩
          exact List.forall_mem_cons.mpr ⟨not_or.mp isBody, clear⟩
        · intro ⟨below, statement, above, split, found, clear⟩
          cases below with
          | nil => exact absurd ((List.cons.inj split).1 ▸ found) isExport
          | cons first below =>
              exact ⟨below, statement, above, (List.cons.inj split).2, found, (List.forall_mem_cons.mp clear).2⟩

theorem isExported_iff {visit : Visit} : isExported visit = true ↔ StandsInExport visit := underExport_iff

/-! ### Names that are exported -/

structure HasOneForm (statement : Tree) : Prop where
  declarationOrValue : statement.child? "declaration" = none ∨ statement.child? "value" = none
  clausesAlone : (∃ clause ∈ statement.named, clause.kind = "export_clause") →
    statement.child? "declaration" = none ∧ statement.child? "value" = none

/-- A statement without a source lists a name among those that it exports, by the name that it has in the file. -/
def ListsLocal (statement : Tree) (name : String) : Prop :=
  statement.child? "source" = none ∧
    ∃ clause ∈ statement.named, clause.kind = "export_clause" ∧
      ∃ specifier ∈ clause.named, specifier.kind = "export_specifier" ∧
        ∃ localName, specifier.child? "name" = some localName ∧ localName.text = name

def ExportsValue (statement : Tree) (name : String) : Prop :=
  ∃ value, statement.child? "value" = some value ∧ value.kind = "identifier" ∧ value.text = name

theorem mem_exportSpecifiers {statement : Tree} {name : String} :
    name ∈ (exportSpecifiers statement).map Prod.fst ↔
      ∃ clause ∈ statement.named, clause.kind = "export_clause" ∧
        ∃ specifier ∈ clause.named, specifier.kind = "export_specifier" ∧
          ∃ localName, specifier.child? "name" = some localName ∧ localName.text = name := by
  simp only [exportSpecifiers, List.map_filterMap, Option.map_map, List.mem_filterMap, List.mem_filter,
    List.mem_flatMap, beq_iff_eq, Option.map_eq_some_iff, Function.comp_apply]
  grind

theorem listsLocal_iff {statement : Tree} {name : String} :
    ListsLocal statement name ↔
      statement.child? "source" = none ∧ name ∈ (exportSpecifiers statement).map Prod.fst := by
  rw [mem_exportSpecifiers]
  rfl

theorem mem_clauseNames {statement : Tree} (isExport : statement.kind = "export_statement")
    (form : HasOneForm statement) {name : String} :
    name ∈ clauseNames statement ↔ ListsLocal statement name ∨ ExportsValue statement name := by
  have alone : name ∈ (exportSpecifiers statement).map Prod.fst →
      statement.child? "declaration" = none ∧ statement.child? "value" = none := by
    intro listed
    obtain ⟨clause, member, isClause, _⟩ := mem_exportSpecifiers.mp listed
    exact form.clausesAlone ⟨clause, member, isClause⟩
  unfold clauseNames exportedBy ExportsValue
  rw [if_pos isExport, listsLocal_iff]
  cases declares : statement.child? "declaration" with
  | some declaration =>
      have noValue := form.declarationOrValue.resolve_left (by simp [declares])
      have noClause : name ∉ (exportSpecifiers statement).map Prod.fst := by
        intro listed
        rw [declares] at alone
        cases (alone listed).1
      simp [noValue, noClause]
  | none =>
      cases valued : statement.child? "value" with
      | some value =>
          have noClause : name ∉ (exportSpecifiers statement).map Prod.fst := by
            intro listed
            rw [valued] at alone
            cases (alone listed).2
          by_cases plain : value.kind = "identifier"
          · simp [plain, noClause, eq_comm]
          · cases statement.child? "source" <;> simp [plain, noClause]
      | none => cases statement.child? "source" <;> simp

theorem mem_clauseExports {root : Tree}
    (forms : ∀ visit, Visit.Of root visit → visit.tree.kind = "export_statement" → HasOneForm visit.tree)
    {name : String} :
    name ∈ clauseExports root ↔ ∃ visit, Visit.Of root visit ∧ visit.tree.kind = "export_statement" ∧
      (ListsLocal visit.tree name ∨ ExportsValue visit.tree name) := by
  unfold clauseExports
  rw [List.mem_flatMap]
  constructor
  · intro ⟨visit, visited, listed⟩
    have inside := Syntax.mem_preorder_iff.mp visited
    have isExport : visit.tree.kind = "export_statement" := by
      by_contra other
      rw [clauseNames, if_neg other] at listed
      cases listed
    exact ⟨visit, inside, isExport, (mem_clauseNames isExport (forms visit inside isExport)).mp listed⟩
  · intro ⟨visit, inside, isExport, named⟩
    exact ⟨visit, Syntax.mem_preorder_iff.mpr inside,
      (mem_clauseNames isExport (forms visit inside isExport)).mpr named⟩

/-! ### Flags -/

theorem markExported_flag {names : List String} {declaration : Declaration} {flag : Bool}
    (exportable : declaration.kind ∈ exportableKinds)
    (given : declaration.metadata.lookup "exported" = some (.bool flag)) :
    (markExported names declaration).metadata.lookup "exported" =
      some (.bool (flag || names.contains declaration.name)) := by
  unfold markExported
  rw [List.contains_iff_mem.mpr exportable, Bool.true_and]
  cases names.contains declaration.name with
  | true =>
      rw [if_pos rfl, Bool.or_true]
      exact Json.Fields.lookup_set_self _ _ _
  | false =>
      rw [if_neg Bool.false_ne_true, Bool.or_false]
      exact given

def Proposes (visit : Visit) (key : NodeKind × String × Json.Value) : Prop :=
  ∃ proposal, proposals visit = .ok proposal ∧ key ∈ proposal.map Declaration.key

/-- The node that creates a declaration: the first one, a node before those below it, that proposes its key. -/
def Creates (root : Tree) (visit : Visit) (declaration : Declaration) : Prop :=
  ∃ before after, root.visits [] [] = before ++ visit :: after ∧ Proposes visit declaration.key ∧
    ∀ earlier ∈ before, ¬ Proposes earlier declaration.key

section

variable {file : String} {root : Tree} {found : List Declaration}

open Classical in
theorem exists_creates (done : declarations file root = .ok found) {declaration : Declaration}
    (member : declaration ∈ found) (exportable : declaration.kind ∈ exportableKinds) :
    ∃ visit, Creates root visit declaration := by
  have noModule : declaration.key ≠ (.moduleKind, file, .ofNat 1) := by
    intro same
    rw [(Prod.mk.inj same).1] at exportable
    exact absurd exportable (by decide)
  have script : Grammar.javascript.declarations file root = .ok found := done
  obtain ⟨visit, visited, proposes⟩ :=
    ((Grammar.mem_keys_iff script).mp (List.mem_map_of_mem member)).resolve_left noModule
  rw [Syntax.preorder_eq] at visited
  have some : ((root.visits [] []).find? fun visit => Proposes visit declaration.key).isSome = true :=
    List.find?_isSome.mpr ⟨visit, visited, decide_eq_true proposes⟩
  obtain ⟨first, here⟩ := Option.isSome_iff_exists.mp some
  obtain ⟨own, before, after, split, earlier⟩ := List.find?_eq_some_iff_append.mp here
  refine ⟨first, before, after, split, of_decide_eq_true own, ?_⟩
  intro other listed
  simpa using earlier other listed

/-- The first proposal of a key is one of those that its node makes. -/
theorem Creates.mem {own declaration : Declaration} {visit : Visit} {rows : List (List Declaration)}
    (creates : Creates root visit declaration) (gathered : (root.visits [] []).mapM proposals = .ok rows)
    (first : Declaration.IsFirst (own :: rows.flatten) declaration) (other : declaration.key ≠ own.key) :
    ∃ proposal, proposals visit = .ok proposal ∧ declaration ∈ proposal := by
  obtain ⟨before, after, split, ⟨proposal, made, present⟩, earlier⟩ := creates
  rw [split, List.mapM_append] at gathered
  obtain ⟨rowsBefore, gatheredBefore, gathered⟩ := Outcome.bind_ok gathered
  obtain ⟨rowsFrom, gatheredFrom, same⟩ := Outcome.bind_ok gathered
  cases same
  rw [List.mapM_cons] at gatheredFrom
  obtain ⟨row, given, gatheredFrom⟩ := Outcome.bind_ok gatheredFrom
  cases made.symm.trans given
  obtain ⟨rowsAfter, _, same⟩ := Outcome.bind_ok gatheredFrom
  cases same
  refine ⟨proposal, made, ?_⟩
  rw [List.flatten_append, List.flatten_cons, ← List.cons_append] at first
  refine first.mem_row ?_ present
  rw [List.map_cons, List.mem_cons, not_or]
  refine ⟨other, ?_⟩
  intro listed
  obtain ⟨proposed, inRows, same⟩ := List.mem_map.mp listed
  obtain ⟨row, among, inRow⟩ := List.mem_flatten.mp inRows
  obtain ⟨node, member, given⟩ := Outcome.exists_item (Outcome.mapM_ok gatheredBefore) among
  exact earlier node member ⟨row, given, List.mem_map.mpr ⟨proposed, inRow, same⟩⟩

/-- The flag is that of the node that creates the declaration, unless the file exports the name. -/
theorem flag_of_creates (done : declarations file root = .ok found) {declaration : Declaration}
    (member : declaration ∈ found) (exportable : declaration.kind ∈ exportableKinds) {visit : Visit}
    (creates : Creates root visit declaration) :
    declaration.metadata.lookup "exported" =
      some (.bool (isExported visit || (clauseExports root).contains declaration.name)) := by
  have script : Grammar.javascript.declarations file root = .ok found := done
  obtain ⟨proposals, kept, proposed, keeps, rfl⟩ := Grammar.declarations_keepFirsts script
  obtain ⟨rows, gathered, rfl⟩ := Grammar.proposedFor_done proposed
  obtain ⟨original, inKept, rfl⟩ := List.mem_map.mp member
  have same := Grammar.marked_resembles .javascript root original
  unfold Creates at creates
  rw [Grammar.marked_key] at creates
  rw [same.kind] at exportable
  have other : original.key ≠ (Grammar.javascript.moduleDeclaration file root).key := by
    intro own
    rw [Grammar.moduleDeclaration_key] at own
    rw [(Prod.mk.inj own).1] at exportable
    exact absurd exportable (by decide)
  obtain ⟨proposal, made, listed⟩ := Creates.mem creates gathered (keeps.first original inKept) other
  rw [same.name]
  exact markExported_flag exportable (isItemOf_of_exportable made listed exportable).flag

end

/-- A function, class or variable is exported exactly if the node that creates it stands in an export, or if an export
anywhere in the file lists its name in a clause without a source or has it as its value. -/
theorem export_flags_complete (grammar : Grammar) (isScript : grammar ≠ .python) (file : String) (root : Tree)
    (found : List Declaration) (done : grammar.declarations file root = .ok found)
    (forms : ∀ visit, Visit.Of root visit → visit.tree.kind = "export_statement" → HasOneForm visit.tree) :
    ∀ declaration ∈ found, declaration.kind ∈ [NodeKind.functionKind, .classKind, .variableKind] →
      (∃ visit, Creates root visit declaration) ∧
      ∀ visit, Creates root visit declaration →
        ∃ flag, declaration.metadata.lookup "exported" = some (.bool flag) ∧
          (flag = true ↔ StandsInExport visit ∨
            ∃ other, Visit.Of root other ∧ other.tree.kind = "export_statement" ∧
              (ListsLocal other.tree declaration.name ∨ ExportsValue other.tree declaration.name)) := by
  intro declaration member exportable
  have script : declarations file root = .ok found := by
    cases grammar with
    | python => exact absurd rfl isScript
    | javascript | typescript | typescriptMarkup => exact done
  refine ⟨exists_creates script member exportable, ?_⟩
  intro visit creates
  refine ⟨_, flag_of_creates script member exportable creates, ?_⟩
  rw [Bool.or_eq_true, isExported_iff, List.contains_iff_mem, mem_clauseExports forms]

/-- `export { f };` -/
def localExport : Tree :=
  .node ⟨"export_statement", true, none, "export { f };", 2, 2⟩
    [.node ⟨"export_clause", true, none, "{ f }", 2, 2⟩
      [.node ⟨"export_specifier", true, none, "f", 2, 2⟩ [.node ⟨"identifier", true, some "name", "f", 2, 2⟩ []]]]

/-- `function f() {}`, and its export on the next line -/
def laterExport : Tree :=
  .node ⟨"program", true, none, "function f() {}\nexport { f };", 1, 2⟩
    [.node ⟨"function_declaration", true, none, "function f() {}", 1, 1⟩
        [.node ⟨"identifier", true, some "name", "f", 1, 1⟩ []],
      localExport]

theorem export_flags_complete_later :
    ∃ found, Grammar.javascript.declarations "a.js" laterExport = .ok found ∧
      ∃ declaration ∈ found, declaration.kind = .functionKind ∧ declaration.name = "f" ∧
        declaration.metadata.lookup "exported" = some (.bool true) := by
  have listed : ((Grammar.javascript.declarations "a.js" laterExport).toOption.map fun found =>
      found.any fun declaration => declaration.kind == .functionKind && declaration.name == "f") = some true := by
    decide +kernel
  obtain ⟨found, read, hasOne⟩ := Option.map_eq_some_iff.mp listed
  have done := Outcome.ok_of_toOption read
  obtain ⟨declaration, member, test⟩ := List.any_eq_true.mp hasOne
  rw [Bool.and_eq_true, beq_iff_eq, beq_iff_eq] at test
  have plain : ∀ visit ∈ preorder laterExport,
      (visit.tree.child? "declaration").isNone = true ∧ (visit.tree.child? "value").isNone = true := by decide +kernel
  have forms : ∀ visit, Visit.Of laterExport visit → visit.tree.kind = "export_statement" → HasOneForm visit.tree := by
    intro visit inside _
    obtain ⟨noDeclaration, noValue⟩ := plain visit (Syntax.mem_preorder_iff.mpr inside)
    rw [Option.isNone_iff_eq_none] at noDeclaration noValue
    exact ⟨Or.inl noDeclaration, fun _ => ⟨noDeclaration, noValue⟩⟩
  obtain ⟨⟨visit, creates⟩, flags⟩ := export_flags_complete .javascript (by decide) _ _ _ done forms declaration member
    (test.1 ▸ List.mem_cons_self)
  obtain ⟨flag, stored, complete⟩ := flags visit creates
  have exported : flag = true := by
    refine complete.mpr (Or.inr ⟨_, .child .root (List.mem_mapIdx.mpr ⟨1, Nat.one_lt_two, rfl⟩), rfl, Or.inl ?_⟩)
    refine ⟨rfl, _, List.mem_singleton_self _, rfl, _, List.mem_singleton_self _, rfl, _, rfl, test.2.symm⟩
  exact ⟨found, done, declaration, member, test.1, test.2, exported ▸ stored⟩

end ChangeImpact.Extraction.Script
