import ChangeImpact.Proofs.Walk
import Mathlib.Data.List.Nodup

/-!
The nodes of a tree by recursion on the tree, a node before its children and these from left to right. The walk with a
list of what is still to be visited meets the same nodes in the same order, and no place twice.
-/

set_option autoImplicit false

namespace ChangeImpact.Syntax

mutual

def Tree.visits (above : List Tree) (place : List Nat) : Tree → List Visit
  | .node label children =>
      { tree := .node label children, ancestors := above, place } ::
        Tree.visitsFrom (.node label children :: above) place 0 children

def Tree.visitsFrom (above : List Tree) (place : List Nat) (number : Nat) : List Tree → List Visit
  | [] => []
  | child :: rest => child.visits above (number :: place) ++ Tree.visitsFrom above place (number + 1) rest

end

def Visit.below (visit : Visit) : List Visit := visit.tree.visits visit.ancestors visit.place

theorem Tree.visitsFrom_eq (above : List Tree) (place : List Nat) (number : Nat) (trees : List Tree) :
    Tree.visitsFrom above place number trees =
      (trees.mapIdx fun later child =>
        ({ tree := child, ancestors := above, place := (number + later) :: place } : Visit)).flatMap Visit.below := by
  induction trees generalizing number with
  | nil => rfl
  | cons child rest ih =>
      rw [Tree.visitsFrom, ih, List.mapIdx_cons, List.flatMap_cons]
      simp only [Visit.below, Nat.add_zero, Nat.add_comm, Nat.add_left_comm]

theorem Visit.below_eq (visit : Visit) : visit.below = visit :: visit.children.flatMap Visit.below := by
  obtain ⟨⟨label, children⟩, above, place⟩ := visit
  unfold Visit.below Visit.children
  rw [Tree.visits, Tree.visitsFrom_eq]
  simp only [Tree.children, Nat.zero_add]
  rfl

theorem preorderFrom_eq (pending : List Visit) : preorderFrom pending = pending.flatMap Visit.below := by
  fun_induction preorderFrom pending with
  | case1 => rfl
  | case2 visit rest ih =>
      rw [ih, List.flatMap_append, List.flatMap_cons, Visit.below_eq visit, List.cons_append]

/-- The walk with a list of pending visits meets the nodes in the order of the recursion. -/
theorem preorder_eq (tree : Tree) : preorder tree = tree.visits [] [] := by
  unfold preorder
  rw [preorderFrom_eq, List.flatMap_singleton]
  rfl

/-! ### Places -/

mutual

theorem Tree.place_of_mem_visits (above : List Tree) (place : List Nat) (tree : Tree) :
    ∀ visit ∈ tree.visits above place, place <:+ visit.place := by
  obtain ⟨label, children⟩ := tree
  rw [Tree.visits]
  refine List.forall_mem_cons.mpr ⟨List.suffix_rfl, ?_⟩
  intro visit member
  obtain ⟨number, _, below⟩ := Tree.place_of_mem_visitsFrom _ place 0 children visit member
  exact (List.suffix_cons number place).trans below

theorem Tree.place_of_mem_visitsFrom (above : List Tree) (place : List Nat) (first : Nat) (trees : List Tree) :
    ∀ visit ∈ Tree.visitsFrom above place first trees, ∃ number, first ≤ number ∧ (number :: place) <:+ visit.place := by
  cases trees with
  | nil => exact List.forall_mem_nil _
  | cons child rest =>
      rw [Tree.visitsFrom]
      intro visit member
      rcases List.mem_append.mp member with here | later
      · exact ⟨first, Nat.le_refl _, Tree.place_of_mem_visits above (first :: place) child visit here⟩
      · obtain ⟨number, bound, below⟩ := Tree.place_of_mem_visitsFrom above place (first + 1) rest visit later
        exact ⟨number, by omega, below⟩

end

/-- Of two rows of equal length at the end of a list there is only one. -/
private theorem suffix_unique {left right whole : List Nat} (one : left <:+ whole) (two : right <:+ whole)
    (lengths : left.length = right.length) : left = right :=
  (List.suffix_of_suffix_length_le one two (Nat.le_of_eq lengths)).eq_of_length lengths

mutual

theorem Tree.places_nodup (above : List Tree) (place : List Nat) (tree : Tree) :
    ((tree.visits above place).map Visit.place).Nodup := by
  obtain ⟨label, children⟩ := tree
  rw [Tree.visits, List.map_cons, List.nodup_cons]
  refine ⟨?_, Tree.placesFrom_nodup _ place 0 children⟩
  -- A place below is longer.
  intro again
  obtain ⟨visit, member, same⟩ := List.mem_map.mp again
  obtain ⟨number, _, below⟩ := Tree.place_of_mem_visitsFrom _ place 0 children visit member
  rw [same] at below
  have longer : place.length + 1 ≤ place.length := below.length_le
  omega

theorem Tree.placesFrom_nodup (above : List Tree) (place : List Nat) (first : Nat) (trees : List Tree) :
    ((Tree.visitsFrom above place first trees).map Visit.place).Nodup := by
  cases trees with
  | nil => exact List.nodup_nil
  | cons child rest =>
      rw [Tree.visitsFrom, List.map_append, List.nodup_append]
      refine ⟨Tree.places_nodup above (first :: place) child, Tree.placesFrom_nodup above place (first + 1) rest, ?_⟩
      -- Below the first child all places end in its number, below the others they end in greater ones.
      intro one inChild two inRest same
      obtain ⟨visit, member, rfl⟩ := List.mem_map.mp inChild
      obtain ⟨other, listed, rfl⟩ := List.mem_map.mp inRest
      have here := Tree.place_of_mem_visits above (first :: place) child visit member
      obtain ⟨number, bound, there⟩ := Tree.place_of_mem_visitsFrom above place (first + 1) rest other listed
      rw [← same] at there
      have equal : first = number := (List.cons.inj (suffix_unique here there rfl)).1
      omega

end

end ChangeImpact.Syntax
