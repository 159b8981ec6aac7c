import ChangeImpact.Extraction.PythonDeclarations
import ChangeImpact.Extraction.ScriptDeclarations
import ChangeImpact.Proofs.Fields
import ChangeImpact.Proofs.Outcome

/-!
What the declarations of a file come from: the file itself and the proposals of its nodes. A proposal may give way
to an earlier one, which then has the same kind and name.
-/

set_option autoImplicit false

namespace ChangeImpact

namespace Declaration

def Declares (known : List Declaration) (kind : NodeKind) (name : String) : Prop :=
  ∃ declaration ∈ known, declaration.kind = kind ∧ declaration.name = name

theorem mem_record {known : List Declaration} {proposal declaration : Declaration}
    (member : declaration ∈ record known proposal) :
    declaration ∈ known ∨ declaration = proposal := by
  unfold record at member
  split at member
  · exact Or.inl member
  · rcases List.mem_append.mp member with before | added
    · exact Or.inl before
    · exact Or.inr (List.mem_singleton.mp added)

theorem mem_record_of_mem {known : List Declaration} {declaration : Declaration}
    (proposal : Declaration) (member : declaration ∈ known) :
    declaration ∈ record known proposal := by
  unfold record
  split
  · exact member
  · exact List.mem_append_left _ member

theorem record_declares (known : List Declaration) (proposal : Declaration) :
    Declares (record known proposal) proposal.kind proposal.name := by
  unfold record
  split
  · rename_i among
    obtain ⟨earlier, member, same⟩ := List.any_eq_true.mp among
    unfold sameAs at same
    simp only [Bool.and_eq_true, beq_iff_eq] at same
    exact ⟨earlier, member, same.1.1.symm, same.1.2.symm⟩
  · exact ⟨proposal, List.mem_append_right _ List.mem_cons_self, rfl, rfl⟩

private theorem mem_foldl_record {known proposals : List Declaration} {declaration : Declaration}
    (member : declaration ∈ proposals.foldl record known) :
    declaration ∈ known ∨ declaration ∈ proposals := by
  induction proposals generalizing known with
  | nil => exact Or.inl member
  | cons proposal rest ih =>
      rcases ih member with recorded | later
      · rcases mem_record recorded with before | rfl
        · exact Or.inl before
        · exact Or.inr List.mem_cons_self
      · exact Or.inr (List.mem_cons_of_mem _ later)

private theorem mem_foldl_record_of_mem {known : List Declaration} {declaration : Declaration}
    (proposals : List Declaration) (member : declaration ∈ known) :
    declaration ∈ proposals.foldl record known := by
  induction proposals generalizing known with
  | nil => exact member
  | cons proposal rest ih => exact ih (mem_record_of_mem proposal member)

private theorem foldl_record_declares {known proposals : List Declaration} {proposal : Declaration}
    (member : proposal ∈ proposals) :
    Declares (proposals.foldl record known) proposal.kind proposal.name := by
  induction proposals generalizing known with
  | nil => cases member
  | cons head rest ih =>
      rcases List.mem_cons.mp member with rfl | later
      · obtain ⟨kept, recorded, same⟩ := record_declares known proposal
        exact ⟨kept, mem_foldl_record_of_mem rest recorded, same⟩
      · exact ih later

theorem mem_proposals_of_mem_firsts {proposals : List Declaration} {declaration : Declaration}
    (member : declaration ∈ firsts proposals) : declaration ∈ proposals := by
  rcases mem_foldl_record member with impossible | proposed
  · cases impossible
  · exact proposed

/-- Every proposal is declared, if perhaps by an earlier one. -/
theorem firsts_declares {proposals : List Declaration} {proposal : Declaration}
    (member : proposal ∈ proposals) : Declares (firsts proposals) proposal.kind proposal.name :=
  foldl_record_declares member

end Declaration

namespace Extraction

open ChangeImpact.Syntax (Tree Visit preorder)
open Declaration (Declares)

/-- What is sure to be declared in a file: the file itself, and whatever its nodes propose. -/
structure DeclaredBy (file : String) (root : Tree)
    (proposals : Visit → Except Fault (List Declaration)) (found : List Declaration) : Prop where
  own : Declares found .moduleKind file
  proposed : ∀ visit ∈ preorder root, ∃ proposal, proposals visit = .ok proposal ∧
    ∀ declaration ∈ proposal, Declares found declaration.kind declaration.name

section

variable {file : String} {root : Tree} {proposals : Visit → Except Fault (List Declaration)}
  {proposed : List (List Declaration)} {own : Declaration}

private theorem firsts_declaredBy (kind : own.kind = .moduleKind) (name : own.name = file)
    (done : (preorder root).mapM proposals = .ok proposed) :
    DeclaredBy file root proposals (Declaration.firsts (own :: proposed.flatten)) := by
  constructor
  · subst name
    rw [← kind]
    exact Declaration.firsts_declares List.mem_cons_self
  · intro visit member
    obtain ⟨proposal, listed, made⟩ := Outcome.exists_result (Outcome.mapM_ok done) member
    refine ⟨proposal, made, ?_⟩
    intro declaration inProposal
    exact Declaration.firsts_declares
      (List.mem_cons_of_mem _ (List.mem_flatten.mpr ⟨proposal, listed, inProposal⟩))

/-- A declaration that stays is the file's own or one that a node proposes. -/
private theorem mem_firsts (done : (preorder root).mapM proposals = .ok proposed) {declaration : Declaration}
    (member : declaration ∈ Declaration.firsts (own :: proposed.flatten)) :
    declaration = own ∨
      ∃ visit ∈ preorder root, ∃ proposal, proposals visit = .ok proposal ∧ declaration ∈ proposal := by
  rcases List.mem_cons.mp (Declaration.mem_proposals_of_mem_firsts member) with rfl | later
  · exact Or.inl rfl
  · obtain ⟨proposal, listed, inProposal⟩ := List.mem_flatten.mp later
    obtain ⟨visit, visited, made⟩ := Outcome.exists_item (Outcome.mapM_ok done) listed
    exact Or.inr ⟨visit, visited, proposal, made, inProposal⟩

end

structure Plain (declaration : Declaration) : Prop where
  known : declaration.kind ∈ NodeKind.known
  inside : "external" ∉ declaration.metadata.map Prod.fst
  lines : ∃ first last, declaration.lineStart = .ofNat first ∧ declaration.lineEnd = .ofNat last

/-- A declaration as a node proposes it: it is of a named kind and no module, it has the lines of the node, and no fact
marks it as external. -/
structure ProposedAt (tree : Tree) (declaration : Declaration) : Prop where
  known : declaration.kind ∈ NodeKind.known
  kind : declaration.kind ≠ .moduleKind
  inside : "external" ∉ declaration.metadata.map Prod.fst
  first : declaration.lineStart = .ofNat tree.startLine
  last : declaration.lineEnd = .ofNat tree.endLine

structure Resembles (declaration original : Declaration) : Prop where
  kind : declaration.kind = original.kind
  name : declaration.name = original.name
  first : declaration.lineStart = original.lineStart
  last : declaration.lineEnd = original.lineEnd

def ProposedIn (root : Tree) (proposals : Visit → Except Fault (List Declaration)) (declaration : Declaration) : Prop :=
  ∃ visit ∈ preorder root, ∃ proposal, proposals visit = .ok proposal ∧
    ∃ original ∈ proposal, Resembles declaration original

theorem ProposedAt.plain {tree : Tree} {declaration : Declaration} (proposed : ProposedAt tree declaration) :
    Plain declaration :=
  ⟨proposed.known, proposed.inside, _, _, proposed.first, proposed.last⟩

theorem spanning_proposedAt {tree : Tree} {kind : NodeKind} {name : String} {metadata : Metadata}
    (inside : "external" ∉ metadata.map Prod.fst) (named : kind ∈ NodeKind.known ∧ kind ≠ .moduleKind) :
    ProposedAt tree (spanning tree kind name metadata) :=
  ⟨named.1, named.2, inside, rfl, rfl⟩

namespace Python

theorem declarations_done {file : String} {root : Tree} {found : List Declaration}
    (done : declarations file root = .ok found) :
    ∃ proposed,
      (preorder root).mapM (proposals ((exportedNames? root).getD [])) = .ok proposed ∧
        found = Declaration.firsts (moduleDeclaration file root :: proposed.flatten) := by
  unfold declarations at done
  obtain ⟨proposed, made, same⟩ := Outcome.bind_ok done
  cases same
  exact ⟨proposed, made, rfl⟩

theorem declarations_declaredBy {file : String} {root : Tree} {found : List Declaration}
    (done : declarations file root = .ok found) :
    DeclaredBy file root (proposals ((exportedNames? root).getD [])) found := by
  obtain ⟨proposed, made, rfl⟩ := declarations_done done
  exact firsts_declaredBy rfl rfl made

private theorem functionProposal_proposedAt (exported : List String) (visit : Visit) :
    ∀ declaration ∈ functionProposal exported visit, ProposedAt visit.tree declaration := by
  unfold functionProposal
  dsimp only
  split
  · exact List.forall_mem_nil _
  · exact List.forall_mem_singleton.mpr (spanning_proposedAt (by simp) (by decide))

private theorem classProposal_proposedAt {exported : List String} {visit : Visit}
    {proposal : List Declaration} (made : classProposal exported visit = .ok proposal) :
    ∀ declaration ∈ proposal, ProposedAt visit.tree declaration := by
  unfold classProposal at made
  dsimp only at made
  split at made
  · cases made
    exact List.forall_mem_nil _
  · obtain ⟨bases, _, same⟩ := Outcome.bind_ok made
    cases same
    exact List.forall_mem_singleton.mpr (spanning_proposedAt (by simp) (by decide))

private theorem importProposal_proposedAt {statement entry : Tree} {declaration : Declaration}
    (proposed : importProposal? statement entry = some declaration) : ProposedAt statement declaration := by
  unfold importProposal? at proposed
  dsimp only at proposed
  split at proposed
  · cases proposed
    exact spanning_proposedAt (by simp) (by decide)
  split at proposed
  · obtain ⟨name, _, rfl⟩ := Option.map_eq_some_iff.mp proposed
    exact spanning_proposedAt (by simp) (by decide)
  · cases proposed

private theorem fromImportProposal_proposedAt (statement : Tree) :
    ∀ declaration ∈ fromImportProposal statement, ProposedAt statement declaration := by
  unfold fromImportProposal
  split
  · exact List.forall_mem_nil _
  · exact List.forall_mem_singleton.mpr (spanning_proposedAt (by simp) (by decide))

private theorem assignmentProposal_proposedAt (exported : List String) (tree : Tree) :
    ∀ declaration ∈ assignmentProposal exported tree, ProposedAt tree declaration := by
  unfold assignmentProposal
  dsimp only
  split
  · exact List.forall_mem_nil _
  split
  · exact List.forall_mem_nil _
  split
  · exact List.forall_mem_singleton.mpr (spanning_proposedAt (by simp) (by decide))
  split
  · exact List.forall_mem_singleton.mpr (spanning_proposedAt (by simp) (by decide))
  · exact List.forall_mem_singleton.mpr (spanning_proposedAt (by simp) (by decide))

theorem proposals_proposedAt (exported : List String) (visit : Visit) (proposal : List Declaration)
    (made : proposals exported visit = .ok proposal) :
    ∀ declaration ∈ proposal, ProposedAt visit.tree declaration := by
  unfold proposals at made
  dsimp only at made
  split at made
  · cases made
    exact functionProposal_proposedAt exported visit
  split at made
  · exact classProposal_proposedAt made
  split at made
  · cases made
    intro declaration member
    obtain ⟨entry, _, proposed⟩ := List.mem_filterMap.mp member
    exact importProposal_proposedAt proposed
  split at made
  · cases made
    exact fromImportProposal_proposedAt visit.tree
  split at made
  · cases made
    exact assignmentProposal_proposedAt exported visit.tree
  · cases made
    exact List.forall_mem_nil _

theorem declarations_plain {file : String} {root : Tree} {found : List Declaration}
    (done : declarations file root = .ok found) : ∀ declaration ∈ found, Plain declaration := by
  obtain ⟨proposed, made, rfl⟩ := declarations_done done
  intro declaration member
  rcases mem_firsts made member with rfl | ⟨visit, _, proposal, given, listed⟩
  · exact ⟨List.mem_cons_self, by simp [moduleDeclaration], 1, root.endLine, rfl, rfl⟩
  · exact (proposals_proposedAt _ visit proposal given declaration listed).plain

theorem declarations_proposedIn {file : String} {root : Tree} {found : List Declaration}
    (done : declarations file root = .ok found) : ∀ declaration ∈ found,
    declaration.kind = .moduleKind ∨
      ProposedIn root (proposals ((exportedNames? root).getD [])) declaration := by
  obtain ⟨proposed, made, rfl⟩ := declarations_done done
  intro declaration member
  rcases mem_firsts made member with rfl | ⟨visit, visited, proposal, given, listed⟩
  · exact Or.inl rfl
  · exact Or.inr ⟨visit, visited, proposal, given, declaration, listed, rfl, rfl, rfl, rfl⟩

end Python

namespace Script

theorem declarations_done {file : String} {root : Tree} {found : List Declaration}
    (done : declarations file root = .ok found) :
    ∃ proposed,
      (preorder root).mapM proposals = .ok proposed ∧
        found = (Declaration.firsts (moduleDeclaration file root :: proposed.flatten)).map
          (markExported (clauseExports root)) := by
  unfold declarations at done
  obtain ⟨proposed, made, same⟩ := Outcome.bind_ok done
  cases same
  exact ⟨proposed, made, rfl⟩

theorem markExported_resembles (names : List String) (declaration : Declaration) :
    Resembles (markExported names declaration) declaration := by
  unfold markExported
  split
  · exact ⟨rfl, rfl, rfl, rfl⟩
  · exact ⟨rfl, rfl, rfl, rfl⟩

theorem declares_markExported {known : List Declaration} {kind : NodeKind} {name : String}
    (names : List String) (declared : Declares known kind name) :
    Declares (known.map (markExported names)) kind name := by
  obtain ⟨declaration, member, sameKind, sameName⟩ := declared
  refine ⟨markExported names declaration, List.mem_map_of_mem member, ?_, ?_⟩
  · exact (markExported_resembles names declaration).kind.trans sameKind
  · exact (markExported_resembles names declaration).name.trans sameName

theorem declarations_declaredBy {file : String} {root : Tree} {found : List Declaration}
    (done : declarations file root = .ok found) : DeclaredBy file root proposals found := by
  obtain ⟨proposed, made, rfl⟩ := declarations_done done
  have declared : DeclaredBy file root proposals
      (Declaration.firsts (moduleDeclaration file root :: proposed.flatten)) :=
    firsts_declaredBy rfl rfl made
  constructor
  · exact declares_markExported _ declared.own
  · intro visit member
    obtain ⟨proposal, made, each⟩ := declared.proposed visit member
    exact ⟨proposal, made, fun declaration inProposal =>
      declares_markExported _ (each declaration inProposal)⟩

private theorem functionProposal_proposedAt (visit : Visit) :
    ∀ declaration ∈ functionProposal visit, ProposedAt visit.tree declaration := by
  unfold functionProposal
  dsimp only
  split
  · exact List.forall_mem_nil _
  · exact List.forall_mem_singleton.mpr (spanning_proposedAt (by simp) (by decide))

private theorem methodProposal_proposedAt (visit : Visit) :
    ∀ declaration ∈ methodProposal visit, ProposedAt visit.tree declaration := by
  unfold methodProposal
  dsimp only
  split
  · exact List.forall_mem_nil _
  · exact List.forall_mem_singleton.mpr (spanning_proposedAt (by simp) (by decide))

private theorem variableProposal_proposedAt (visit : Visit) (name : String) :
    ∀ declaration ∈ variableProposal visit name, ProposedAt visit.tree declaration := by
  unfold variableProposal
  split
  · dsimp only
    split
    · exact List.forall_mem_singleton.mpr (spanning_proposedAt (by simp) (by decide))
    · exact List.forall_mem_nil _
  · exact List.forall_mem_nil _

private theorem declaratorProposal_proposedAt (visit : Visit) :
    ∀ declaration ∈ declaratorProposal visit, ProposedAt visit.tree declaration := by
  unfold declaratorProposal
  dsimp only
  split
  · exact List.forall_mem_nil _
  split
  · exact List.forall_mem_nil _
  split
  · split
    · exact List.forall_mem_singleton.mpr (spanning_proposedAt (by simp) (by decide))
    · exact variableProposal_proposedAt visit _
  · exact variableProposal_proposedAt visit _

private theorem classProposal_proposedAt {visit : Visit} {proposal : List Declaration}
    (made : classProposal visit = .ok proposal) :
    ∀ declaration ∈ proposal, ProposedAt visit.tree declaration := by
  unfold classProposal at made
  dsimp only at made
  split at made
  · cases made
    exact List.forall_mem_nil _
  · obtain ⟨inherited, _, same⟩ := Outcome.bind_ok made
    cases same
    exact List.forall_mem_singleton.mpr (spanning_proposedAt (by simp) (by decide))

private theorem importProposal_proposedAt (tree : Tree) :
    ∀ declaration ∈ importProposal tree, ProposedAt tree declaration := by
  unfold importProposal
  split
  · exact List.forall_mem_nil _
  · exact List.forall_mem_singleton.mpr (spanning_proposedAt (by simp) (by decide))

private theorem loadProposal_proposedAt (visit : Visit) :
    ∀ declaration ∈ loadProposal visit, ProposedAt visit.tree declaration := by
  unfold loadProposal
  split
  · exact List.forall_mem_nil _
  · exact List.forall_mem_singleton.mpr (spanning_proposedAt (by simp) (by decide))

private theorem exportProposals_proposedAt (statement : Tree) :
    ∀ declaration ∈ exportProposals statement, ProposedAt statement declaration := by
  intro declaration member
  unfold exportProposals at member
  split at member
  · obtain ⟨name, _, rfl⟩ := List.mem_map.mp member
    exact spanning_proposedAt (by simp) (by decide)
  · cases List.mem_singleton.mp member
    exact spanning_proposedAt (by simp) (by decide)
  · obtain ⟨specifier, _, rfl⟩ := List.mem_map.mp member
    exact spanning_proposedAt (by simp) (by decide)

theorem proposals_proposedAt (visit : Visit) (proposal : List Declaration)
    (made : proposals visit = .ok proposal) :
    ∀ declaration ∈ proposal, ProposedAt visit.tree declaration := by
  unfold proposals at made
  dsimp only at made
  split at made
  · cases made
    exact functionProposal_proposedAt visit
  split at made
  · cases made
    exact methodProposal_proposedAt visit
  split at made
  · cases made
    exact declaratorProposal_proposedAt visit
  split at made
  · exact classProposal_proposedAt made
  split at made
  · cases made
    exact importProposal_proposedAt visit.tree
  split at made
  · cases made
    exact loadProposal_proposedAt visit
  split at made
  · cases made
    exact exportProposals_proposedAt visit.tree
  · cases made
    exact List.forall_mem_nil _

theorem markExported_plain (names : List String) {declaration : Declaration}
    (plain : Plain declaration) : Plain (markExported names declaration) := by
  unfold markExported
  split
  · refine ⟨plain.known, ?_, plain.lines⟩
    rw [Json.Fields.mem_names_set]
    rintro (impossible | marked)
    · exact absurd impossible (by decide)
    · exact plain.inside marked
  · exact plain

theorem declarations_plain {file : String} {root : Tree} {found : List Declaration}
    (done : declarations file root = .ok found) : ∀ declaration ∈ found, Plain declaration := by
  obtain ⟨proposed, made, rfl⟩ := declarations_done done
  intro declaration member
  obtain ⟨unmarked, kept, rfl⟩ := List.mem_map.mp member
  apply markExported_plain
  rcases mem_firsts made kept with rfl | ⟨visit, _, proposal, given, listed⟩
  · exact ⟨List.mem_cons_self, by simp [moduleDeclaration], 1, root.endLine, rfl, rfl⟩
  · exact (proposals_proposedAt visit proposal given unmarked listed).plain

theorem declarations_proposedIn {file : String} {root : Tree} {found : List Declaration}
    (done : declarations file root = .ok found) : ∀ declaration ∈ found,
    declaration.kind = .moduleKind ∨ ProposedIn root proposals declaration := by
  obtain ⟨proposed, made, rfl⟩ := declarations_done done
  intro declaration member
  obtain ⟨unmarked, kept, rfl⟩ := List.mem_map.mp member
  have same := markExported_resembles (clauseExports root) unmarked
  rcases mem_firsts made kept with rfl | ⟨visit, visited, proposal, given, listed⟩
  · exact Or.inl same.kind
  · exact Or.inr ⟨visit, visited, proposal, given, unmarked, listed, same⟩

end Script

end Extraction

end ChangeImpact
