import ChangeImpact.Proofs.Preorder
import ChangeImpact.Proofs.References
import Mathlib.Data.List.Induction

/-!
Which proposals stay. Declarations are told apart by kind, name and first line. Of the proposals that share these the
first one stays, what stays keeps its order, and a file has all the keys that its nodes propose.
-/

set_option autoImplicit false

namespace ChangeImpact

namespace Declaration

def key (declaration : Declaration) : NodeKind × String × Json.Value :=
  (declaration.kind, declaration.name, declaration.lineStart)

def IsNumbered (declaration : Declaration) : Prop := ∃ line, declaration.lineStart = .ofNat line

theorem sameAs_iff {left right : Declaration} (one : left.IsNumbered) (two : right.IsNumbered) :
    left.sameAs right = true ↔ left.key = right.key := by
  obtain ⟨first, begins⟩ := one
  obtain ⟨second, starts⟩ := two
  have lines : (Json.Value.ofNat first).sameScalar (.ofNat second) = true ↔
      Json.Value.ofNat first = .ofNat second := by
    simp [Json.Value.ofNat, Json.Value.sameScalar, Json.Value.whole?]
  unfold sameAs key
  rw [begins, starts, Bool.and_eq_true, Bool.and_eq_true, beq_iff_eq, beq_iff_eq, lines, Prod.mk.injEq,
    Prod.mk.injEq, and_assoc]

theorem isAmong_iff {proposal : Declaration} {known : List Declaration} (numbered : proposal.IsNumbered)
    (others : ∀ declaration ∈ known, declaration.IsNumbered) :
    proposal.isAmong known = true ↔ proposal.key ∈ known.map key := by
  unfold isAmong
  rw [List.any_eq_true, List.mem_map]
  constructor
  · intro ⟨earlier, member, same⟩
    exact ⟨earlier, member, ((sameAs_iff numbered (others earlier member)).mp same).symm⟩
  · intro ⟨earlier, member, same⟩
    exact ⟨earlier, member, (sameAs_iff numbered (others earlier member)).mpr same.symm⟩

def IsFirst (proposals : List Declaration) (declaration : Declaration) : Prop :=
  ∃ before after, proposals = before ++ declaration :: after ∧
    ∀ earlier ∈ before, earlier.key ≠ declaration.key

/-- The first proposal of a key, up to which none has the key of another. -/
def Precedes (proposals : List Declaration) (left right : Declaration) : Prop :=
  ∃ before after, proposals = before ++ left :: after ∧ (∀ earlier ∈ before, earlier.key ≠ left.key) ∧
    ∀ earlier ∈ before ++ [left], earlier.key ≠ right.key

theorem IsFirst.concat {proposals : List Declaration} {declaration : Declaration}
    (first : IsFirst proposals declaration) (last : Declaration) : IsFirst (proposals ++ [last]) declaration := by
  obtain ⟨before, after, rfl, earlier⟩ := first
  refine ⟨before, after ++ [last], ?_, earlier⟩
  rw [List.append_assoc, List.cons_append]

theorem IsFirst.mem {proposals : List Declaration} {declaration : Declaration}
    (first : IsFirst proposals declaration) : declaration ∈ proposals := by
  obtain ⟨before, after, rfl, _⟩ := first
  exact List.mem_append_right _ List.mem_cons_self

open Classical in
/-- Where a key is proposed first in a row of proposals, its first proposal stands in that row. -/
theorem IsFirst.mem_row {before row after : List Declaration} {declaration : Declaration}
    (first : IsFirst (before ++ (row ++ after)) declaration)
    (absent : declaration.key ∉ before.map key) (present : declaration.key ∈ row.map key) : declaration ∈ row := by
  let test := fun proposal : Declaration => decide (proposal.key = declaration.key)
  obtain ⟨others, rest, split, earlier⟩ := first
  have found : (before ++ (row ++ after)).find? test = some declaration :=
    List.find?_eq_some_iff_append.mpr ⟨by simp [test], others, rest, split, by simpa [test] using earlier⟩
  have none : before.find? test = none := by simpa [test] using absent
  obtain ⟨own, member, same⟩ := List.mem_map.mp present
  have some : (row.find? test).isSome = true := List.find?_isSome.mpr ⟨own, member, by simp [test, same]⟩
  obtain ⟨chosen, here⟩ := Option.isSome_iff_exists.mp some
  rw [List.find?_append, List.find?_append, none, here] at found
  cases found
  exact List.mem_of_find?_eq_some here

theorem Precedes.concat {proposals : List Declaration} {left right : Declaration}
    (precedes : Precedes proposals left right) (last : Declaration) : Precedes (proposals ++ [last]) left right := by
  obtain ⟨before, after, rfl, earlier⟩ := precedes
  refine ⟨before, after ++ [last], ?_, earlier⟩
  rw [List.append_assoc, List.cons_append]

theorem Precedes.ne {proposals : List Declaration} {left right : Declaration}
    (precedes : Precedes proposals left right) : left.key ≠ right.key := by
  obtain ⟨before, _, _, _, others⟩ := precedes
  exact others left (List.mem_append_right _ List.mem_cons_self)

/-- Of each key the first proposal is kept, and what is kept stands in the order of the first proposals. -/
structure KeepsFirsts (proposals kept : List Declaration) : Prop where
  first : ∀ declaration ∈ kept, IsFirst proposals declaration
  ordered : kept.Pairwise (Precedes proposals)
  complete : ∀ proposal ∈ proposals, proposal.key ∈ kept.map key

namespace KeepsFirsts

variable {proposals kept : List Declaration}

theorem nil : KeepsFirsts [] [] := ⟨List.forall_mem_nil _, List.Pairwise.nil, List.forall_mem_nil _⟩

theorem distinct (keeps : KeepsFirsts proposals kept) : (kept.map key).Nodup :=
  List.pairwise_map.mpr (keeps.ordered.imp Precedes.ne)

theorem mem_keys_iff (keeps : KeepsFirsts proposals kept) {key : NodeKind × String × Json.Value} :
    key ∈ kept.map Declaration.key ↔ key ∈ proposals.map Declaration.key := by
  constructor
  · intro member
    obtain ⟨declaration, listed, rfl⟩ := List.mem_map.mp member
    exact List.mem_map_of_mem (keeps.first declaration listed).mem
  · intro member
    obtain ⟨proposal, listed, rfl⟩ := List.mem_map.mp member
    exact keeps.complete proposal listed

/-- One more proposal: it stays exactly if its key is new. -/
theorem record (keeps : KeepsFirsts proposals kept) {proposal : Declaration}
    (numbered : ∀ declaration ∈ proposals ++ [proposal], declaration.IsNumbered) :
    KeepsFirsts (proposals ++ [proposal]) (record kept proposal) := by
  obtain ⟨before, last⟩ := List.forall_mem_append.mp numbered
  have own := List.forall_mem_singleton.mp last
  have known : ∀ declaration ∈ kept, declaration.IsNumbered :=
    fun declaration member => before declaration (keeps.first declaration member).mem
  have firsts : ∀ declaration ∈ kept, IsFirst (proposals ++ [proposal]) declaration :=
    fun declaration member => (keeps.first declaration member).concat proposal
  have order : kept.Pairwise (Precedes (proposals ++ [proposal])) :=
    keeps.ordered.imp fun precedes => precedes.concat proposal
  unfold Declaration.record
  by_cases among : proposal.key ∈ kept.map key
  · rw [if_pos ((isAmong_iff own known).mpr among)]
    refine ⟨firsts, order, ?_⟩
    exact List.forall_mem_append.mpr ⟨keeps.complete, List.forall_mem_singleton.mpr among⟩
  · rw [if_neg (fun found => among ((isAmong_iff own known).mp found))]
    -- An earlier proposal with this key would have left the key among those kept.
    have isNew : ∀ earlier ∈ proposals, earlier.key ≠ proposal.key := by
      intro earlier member same
      exact among (same ▸ keeps.complete earlier member)
    refine ⟨?_, ?_, ?_⟩
    · exact List.forall_mem_append.mpr ⟨firsts, List.forall_mem_singleton.mpr ⟨proposals, [], rfl, isNew⟩⟩
    · refine List.pairwise_append.mpr ⟨order, List.pairwise_singleton _ _, ?_⟩
      intro declaration member added isLast
      rw [List.mem_singleton.mp isLast]
      obtain ⟨earlier, later, rfl, first⟩ := keeps.first declaration member
      refine ⟨earlier, later ++ [proposal], by simp, first, ?_⟩
      intro other listed
      apply isNew
      rw [List.append_cons]
      exact List.mem_append_left _ listed
    · rw [List.map_append]
      refine List.forall_mem_append.mpr ⟨?_, List.forall_mem_singleton.mpr ?_⟩
      · intro earlier member
        exact List.mem_append_left _ (keeps.complete earlier member)
      · exact List.mem_append_right _ List.mem_cons_self

/-- The first of all proposals is kept in front. -/
theorem head {own : Declaration} (keeps : KeepsFirsts (own :: proposals) kept) : ∃ others, kept = own :: others := by
  have among := keeps.complete own List.mem_cons_self
  cases kept with
  | nil => cases among
  | cons front others =>
      obtain ⟨before, after, split, earlier⟩ := keeps.first front List.mem_cons_self
      cases before with
      | nil =>
          obtain ⟨rfl, _⟩ := List.cons.inj split
          exact ⟨others, rfl⟩
      | cons opening before =>
          -- The key of the first proposal is kept behind the front, which then stands before all of that key.
          obtain ⟨rfl, _⟩ := List.cons.inj split
          rw [List.map_cons, List.mem_cons, or_iff_right (earlier own List.mem_cons_self)] at among
          obtain ⟨same, listed, key⟩ := List.mem_map.mp among
          obtain ⟨begun, _, opened, _, none⟩ := List.rel_of_pairwise_cons keeps.ordered listed
          refine absurd key.symm (none own ?_)
          cases begun with
          | nil => exact List.mem_singleton.mpr (List.cons.inj opened).1
          | cons opening begun =>
              rw [(List.cons.inj opened).1]
              exact List.mem_cons_self

end KeepsFirsts

theorem keepsFirsts_firsts {proposals : List Declaration}
    (numbered : ∀ declaration ∈ proposals, declaration.IsNumbered) : KeepsFirsts proposals (firsts proposals) := by
  -- Proposals are recorded from the left, so the last one is taken off.
  induction proposals using List.reverseRecOn with
  | nil => exact .nil
  | append_singleton proposals proposal ih =>
      have earlier := ih (List.forall_mem_append.mp numbered).1
      unfold firsts at earlier ⊢
      rw [List.foldl_concat]
      exact earlier.record numbered

end Declaration

namespace Grammar

open ChangeImpact.Extraction (Fault)
open ChangeImpact.Syntax (Tree Visit preorder)

variable {grammar : Grammar} {file : String} {root : Tree} {found : List Declaration}

def moduleDeclaration (grammar : Grammar) (file : String) (root : Tree) : Declaration :=
  match grammar with
  | .python => Extraction.Python.moduleDeclaration file root
  | _ => Extraction.Script.moduleDeclaration file root

theorem moduleDeclaration_key :
    (grammar.moduleDeclaration file root).key = (.moduleKind, file, .ofNat 1) := by
  cases grammar <;> rfl

def marked (grammar : Grammar) (root : Tree) : Declaration → Declaration :=
  match grammar with
  | .python => id
  | _ => Extraction.Script.markExported (Extraction.Script.clauseExports root)

theorem marked_resembles (grammar : Grammar) (root : Tree) (declaration : Declaration) :
    Extraction.Resembles (grammar.marked root declaration) declaration := by
  cases grammar with
  | python => exact ⟨rfl, rfl, rfl, rfl⟩
  | javascript | typescript | typescriptMarkup => exact Extraction.Script.markExported_resembles _ declaration

theorem marked_key (grammar : Grammar) (root : Tree) (declaration : Declaration) :
    (grammar.marked root declaration).key = declaration.key := by
  have same := marked_resembles grammar root declaration
  unfold Declaration.key
  rw [same.kind, same.name, same.first]

theorem map_marked_key (grammar : Grammar) (root : Tree) (declarations : List Declaration) :
    (declarations.map (grammar.marked root)).map Declaration.key = declarations.map Declaration.key := by
  rw [List.map_map]
  exact List.map_congr_left fun declaration _ => marked_key grammar root declaration

/-- All that is proposed for a file: the file itself, then what its nodes propose, a node before those below it. -/
def proposedFor (grammar : Grammar) (file : String) (root : Tree) : Except Fault (List Declaration) :=
  ((root.visits [] []).mapM (grammar.proposals root)).map fun rows =>
    grammar.moduleDeclaration file root :: rows.flatten

theorem declarations_eq (grammar : Grammar) (file : String) (root : Tree) :
    grammar.declarations file root =
      (grammar.proposedFor file root).map fun proposals =>
        (Declaration.firsts proposals).map (grammar.marked root) := by
  unfold proposedFor
  rw [← Syntax.preorder_eq]
  cases grammar with
  | python =>
      simp only [declarations, Extraction.Python.declarations, proposals, marked, List.map_id]
      cases (preorder root).mapM (Extraction.Python.proposals _) <;> rfl
  | javascript | typescript | typescriptMarkup =>
      simp only [declarations, Extraction.Script.declarations, proposals, marked]
      cases (preorder root).mapM Extraction.Script.proposals <;> rfl

theorem proposedFor_done {proposals : List Declaration} (made : grammar.proposedFor file root = .ok proposals) :
    ∃ rows, (root.visits [] []).mapM (grammar.proposals root) = .ok rows ∧
      proposals = grammar.moduleDeclaration file root :: rows.flatten := by
  unfold proposedFor at made
  cases gathered : (root.visits [] []).mapM (grammar.proposals root) with
  | error fault =>
      rw [gathered] at made
      cases made
  | ok rows =>
      rw [gathered] at made
      cases made
      exact ⟨rows, rfl, rfl⟩

/-- A proposal is the file's own or that of a node. -/
theorem mem_proposedFor {proposals : List Declaration} (made : grammar.proposedFor file root = .ok proposals)
    {declaration : Declaration} :
    declaration ∈ proposals ↔ declaration = grammar.moduleDeclaration file root ∨
      ∃ visit ∈ preorder root, ∃ proposal, grammar.proposals root visit = .ok proposal ∧ declaration ∈ proposal := by
  obtain ⟨rows, gathered, rfl⟩ := proposedFor_done made
  rw [← Syntax.preorder_eq] at gathered
  have each := Outcome.mapM_ok gathered
  rw [List.mem_cons]
  refine or_congr_right ?_
  constructor
  · intro member
    obtain ⟨proposal, listed, inRow⟩ := List.mem_flatten.mp member
    obtain ⟨visit, visited, given⟩ := Outcome.exists_item each listed
    exact ⟨visit, visited, proposal, given, inRow⟩
  · intro ⟨visit, visited, proposal, given, inRow⟩
    obtain ⟨row, listed, same⟩ := Outcome.exists_result each visited
    cases given.symm.trans same
    exact List.mem_flatten.mpr ⟨proposal, listed, inRow⟩

theorem proposedFor_numbered {proposals : List Declaration} (made : grammar.proposedFor file root = .ok proposals) :
    ∀ declaration ∈ proposals, declaration.IsNumbered := by
  intro declaration member
  rcases (mem_proposedFor made).mp member with rfl | ⟨visit, _, proposal, given, inRow⟩
  · cases grammar <;> exact ⟨1, rfl⟩
  · exact ⟨_, (proposals_proposedAt given declaration inRow).first⟩

/-- A file declares the first proposal of each key, in the order of the proposals. -/
theorem declarations_keepFirsts (done : grammar.declarations file root = .ok found) :
    ∃ proposals kept, grammar.proposedFor file root = .ok proposals ∧ Declaration.KeepsFirsts proposals kept ∧
      found = kept.map (grammar.marked root) := by
  rw [declarations_eq] at done
  rcases made : grammar.proposedFor file root with fault | proposals
  · rw [made] at done
    cases done
  · rw [made] at done
    cases done
    exact ⟨proposals, _, rfl, Declaration.keepsFirsts_firsts (proposedFor_numbered made), rfl⟩

/-- The keys of a file are its own and those that its nodes propose. -/
theorem mem_keys_iff (done : grammar.declarations file root = .ok found) {key : NodeKind × String × Json.Value} :
    key ∈ found.map Declaration.key ↔ key = (.moduleKind, file, .ofNat 1) ∨
      ∃ visit ∈ preorder root, ∃ proposal, grammar.proposals root visit = .ok proposal ∧
        key ∈ proposal.map Declaration.key := by
  obtain ⟨proposals, kept, made, keeps, rfl⟩ := declarations_keepFirsts done
  rw [map_marked_key, keeps.mem_keys_iff, List.mem_map]
  simp only [mem_proposedFor made, or_and_right, exists_or, exists_eq_left, moduleDeclaration_key]
  refine or_congr eq_comm ?_
  constructor
  · intro ⟨declaration, ⟨visit, visited, proposal, given, inRow⟩, same⟩
    exact ⟨visit, visited, proposal, given, List.mem_map.mpr ⟨declaration, inRow, same⟩⟩
  · intro ⟨visit, visited, proposal, given, listed⟩
    obtain ⟨declaration, inRow, same⟩ := List.mem_map.mp listed
    exact ⟨declaration, ⟨visit, visited, proposal, given, inRow⟩, same⟩

end Grammar

end ChangeImpact
