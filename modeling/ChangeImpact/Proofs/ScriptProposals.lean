import ChangeImpact.Proofs.Declarations

/-!
What the nodes of a script propose, by the kinds of nodes. Statements that import or export and calls have proposals of
their own; every other node proposes functions, classes and variables, which say whether the node is exported.
-/

set_option autoImplicit false

namespace ChangeImpact.Extraction.Script

open ChangeImpact.Syntax (Tree Visit)

/-- A function, class or variable that says whether its node is exported where it stands. -/
structure IsItemOf (visit : Visit) (declaration : Declaration) : Prop where
  kind : declaration.kind ∈ exportableKinds
  flag : declaration.metadata.lookup "exported" = some (.bool (isExported visit))

theorem spanning_isItemOf {visit : Visit} {kind : NodeKind} {name : String} {metadata : Metadata}
    (exportable : kind ∈ exportableKinds)
    (flag : metadata.lookup "exported" = some (.bool (isExported visit))) :
    IsItemOf visit (spanning visit.tree kind name metadata) :=
  ⟨exportable, flag⟩

variable {visit : Visit} {proposal : List Declaration}

theorem functionProposal_isItemOf : ∀ declaration ∈ functionProposal visit, IsItemOf visit declaration := by
  unfold functionProposal
  dsimp only
  split
  · exact List.forall_mem_nil _
  · exact List.forall_mem_singleton.mpr (spanning_isItemOf (by decide) (by simp [List.lookup_cons]))

theorem methodProposal_isItemOf : ∀ declaration ∈ methodProposal visit, IsItemOf visit declaration := by
  unfold methodProposal
  dsimp only
  split
  · exact List.forall_mem_nil _
  · exact List.forall_mem_singleton.mpr (spanning_isItemOf (by decide) (by simp [List.lookup_cons]))

theorem variableProposal_isItemOf (name : String) :
    ∀ declaration ∈ variableProposal visit name, IsItemOf visit declaration := by
  unfold variableProposal
  split
  · dsimp only
    split
    · exact List.forall_mem_singleton.mpr (spanning_isItemOf (by decide) (by simp [List.lookup_cons]))
    · exact List.forall_mem_nil _
  · exact List.forall_mem_nil _

theorem declaratorProposal_isItemOf : ∀ declaration ∈ declaratorProposal visit, IsItemOf visit declaration := by
  unfold declaratorProposal
  dsimp only
  split
  · exact List.forall_mem_nil _
  split
  · exact List.forall_mem_nil _
  split
  · split
    · exact List.forall_mem_singleton.mpr (spanning_isItemOf (by decide) (by simp [List.lookup_cons]))
    · exact variableProposal_isItemOf _
  · exact variableProposal_isItemOf _

theorem classProposal_isItemOf (made : classProposal visit = .ok proposal) :
    ∀ declaration ∈ proposal, IsItemOf visit declaration := by
  unfold classProposal at made
  dsimp only at made
  split at made
  · cases made
    exact List.forall_mem_nil _
  · obtain ⟨inherited, _, same⟩ := Outcome.bind_ok made
    cases same
    exact List.forall_mem_singleton.mpr (spanning_isItemOf (by decide) (by simp [List.lookup_cons]))

/-- The kinds of nodes that propose something else than functions, classes and variables. -/
def tradeKinds : List String := ["import_statement", "call_expression", "export_statement"]

theorem proposals_isItemOf (other : visit.tree.kind ∉ tradeKinds) (made : proposals visit = .ok proposal) :
    ∀ declaration ∈ proposal, IsItemOf visit declaration := by
  simp only [tradeKinds, List.mem_cons, List.not_mem_nil, or_false, not_or] at other
  obtain ⟨noImport, noCall, noExport⟩ := other
  unfold proposals at made
  dsimp only at made
  rw [if_neg noImport, if_neg noCall, if_neg noExport] at made
  split at made
  · cases made
    exact functionProposal_isItemOf
  split at made
  · cases made
    exact methodProposal_isItemOf
  split at made
  · cases made
    exact declaratorProposal_isItemOf
  split at made
  · exact classProposal_isItemOf made
  · cases made
    exact List.forall_mem_nil _

theorem proposals_import (isImport : visit.tree.kind = "import_statement") :
    proposals visit = .ok (importProposal visit.tree) := by
  simp [proposals, isClassLike, functionKinds, classKinds, isImport]

theorem proposals_call (isCall : visit.tree.kind = "call_expression") :
    proposals visit = .ok (loadProposal visit) := by
  simp [proposals, isClassLike, functionKinds, classKinds, isCall]

theorem proposals_export (isExport : visit.tree.kind = "export_statement") :
    proposals visit = .ok (exportProposals visit.tree) := by
  simp [proposals, isClassLike, functionKinds, classKinds, isExport]

theorem importProposal_kind (tree : Tree) :
    ∀ declaration ∈ importProposal tree, declaration.kind = .importKind := by
  unfold importProposal
  split
  · exact List.forall_mem_nil _
  · exact List.forall_mem_singleton.mpr rfl

theorem loadProposal_kind : ∀ declaration ∈ loadProposal visit, declaration.kind = .importKind := by
  unfold loadProposal
  split
  · exact List.forall_mem_nil _
  · exact List.forall_mem_singleton.mpr rfl

theorem exportProposals_kind (statement : Tree) :
    ∀ declaration ∈ exportProposals statement, declaration.kind = .exportKind := by
  intro declaration member
  unfold exportProposals at member
  split at member
  · obtain ⟨name, _, rfl⟩ := List.mem_map.mp member
    rfl
  · cases List.mem_singleton.mp member
    rfl
  · obtain ⟨specifier, _, rfl⟩ := List.mem_map.mp member
    rfl

/-- Only nodes that neither import nor export nor call propose functions, classes and variables. -/
theorem isItemOf_of_exportable (made : proposals visit = .ok proposal) {declaration : Declaration}
    (member : declaration ∈ proposal) (exportable : declaration.kind ∈ exportableKinds) :
    IsItemOf visit declaration := by
  refine proposals_isItemOf ?_ made declaration member
  intro trade
  simp only [tradeKinds, List.mem_cons, List.not_mem_nil, or_false] at trade
  rcases trade with isImport | isCall | isExport
  · rw [proposals_import isImport] at made
    cases made
    rw [importProposal_kind _ declaration member] at exportable
    exact absurd exportable (by decide)
  · rw [proposals_call isCall] at made
    cases made
    rw [loadProposal_kind declaration member] at exportable
    exact absurd exportable (by decide)
  · rw [proposals_export isExport] at made
    cases made
    rw [exportProposals_kind _ declaration member] at exportable
    exact absurd exportable (by decide)

end ChangeImpact.Extraction.Script
