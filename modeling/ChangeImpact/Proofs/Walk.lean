import ChangeImpact.Syntax.Walk

/-!
The nodes that walks through a syntax tree meet: in preorder they are the root and all that lies below it, and what
stands above one of them is met too.
-/

set_option autoImplicit false

namespace ChangeImpact.Syntax

def Event.entered? : Event → Option Visit
  | .enter visit => some visit
  | .leave _ => none

theorem Event.entered_inside (visit : Visit) :
    (Event.inside visit).filterMap Event.entered? = visit.children := by
  unfold Event.inside
  rw [List.filterMap_append, List.filterMap_map]
  have starts : (Event.entered? ∘ Event.enter) = (some : Visit → Option Visit) := rfl
  rw [starts, List.filterMap_some]
  exact List.append_nil _

/-! ### Nodes above and below -/

theorem Visit.of_mem_children {visit child : Visit} (member : child ∈ visit.children) :
    child.tree ∈ visit.tree.children ∧ child.ancestors = visit.tree :: visit.ancestors ∧
      child.place.tail = visit.place := by
  obtain ⟨number, bound, rfl⟩ := List.mem_mapIdx.mp member
  exact ⟨List.getElem_mem bound, rfl, rfl⟩

theorem Visit.exists_child {visit : Visit} {tree : Tree} (member : tree ∈ visit.tree.children) :
    ∃ child ∈ visit.children, child.tree = tree := by
  rw [← Visit.map_tree_children] at member
  exact List.mem_map.mp member

/-- The nodes of a tree: its root, and the children of its nodes. -/
inductive Visit.Of (root : Tree) : Visit → Prop
  | root : Visit.Of root (Visit.root root)
  | child {visit child : Visit} (above : Visit.Of root visit) (member : child ∈ visit.children) :
      Visit.Of root child

theorem Visit.Of.eq_root {root : Tree} {visit : Visit} (here : Visit.Of root visit) (top : visit.ancestors = []) :
    visit = Visit.root root := by
  cases here with
  | root => rfl
  | child _ member =>
      rw [(Visit.of_mem_children member).2.1] at top
      cases top

theorem mem_preorderFrom {pending : List Visit} {visit : Visit} (member : visit ∈ pending) :
    visit ∈ preorderFrom pending := by
  fun_induction preorderFrom pending with
  | case1 => cases member
  | case2 head rest ih =>
      rcases List.mem_cons.mp member with rfl | later
      · exact List.mem_cons_self
      · exact List.mem_cons_of_mem _ (ih (List.mem_append_right _ later))

theorem child_mem_preorderFrom {pending : List Visit} {visit child : Visit}
    (visited : visit ∈ preorderFrom pending) (member : child ∈ visit.children) :
    child ∈ preorderFrom pending := by
  fun_induction preorderFrom pending with
  | case1 => cases visited
  | case2 head rest ih =>
      rcases List.mem_cons.mp visited with rfl | later
      · exact List.mem_cons_of_mem _ (mem_preorderFrom (List.mem_append_left _ member))
      · exact List.mem_cons_of_mem _ (ih later)

theorem of_mem_preorderFrom {root : Tree} {pending : List Visit} (all : ∀ visit ∈ pending, Visit.Of root visit) :
    ∀ visit ∈ preorderFrom pending, Visit.Of root visit := by
  fun_induction preorderFrom pending with
  | case1 => exact List.forall_mem_nil _
  | case2 head rest ih =>
      obtain ⟨here, others⟩ := List.forall_mem_cons.mp all
      refine List.forall_mem_cons.mpr ⟨here, ih ?_⟩
      intro visit member
      rcases List.mem_append.mp member with below | later
      · exact Visit.Of.child here below
      · exact others visit later

theorem mem_preorder_iff {root : Tree} {visit : Visit} : visit ∈ preorder root ↔ Visit.Of root visit := by
  constructor
  · exact of_mem_preorderFrom (List.forall_mem_singleton.mpr Visit.Of.root) visit
  · intro below
    induction below with
    | root => exact mem_preorderFrom (List.mem_singleton_self _)
    | child _ member ih => exact child_mem_preorderFrom ih member

/-- What stands above a node of a tree is a node of that tree. -/
theorem Visit.Of.exists_above {root : Tree} {visit : Visit} (here : Visit.Of root visit) :
    ∀ tree ∈ visit.ancestors, ∃ above, Visit.Of root above ∧ above.tree = tree := by
  induction here with
  | root => exact List.forall_mem_nil _
  | @child visit _ parent member ih =>
      rw [(Visit.of_mem_children member).2.1]
      exact List.forall_mem_cons.mpr ⟨⟨visit, parent, rfl⟩, ih⟩

/-- A tree in which the lines of every node hold those of its children, as they do where nodes cover text. -/
def Tree.Nested (root : Tree) : Prop :=
  ∀ visit ∈ preorder root, visit.tree.startLine ≤ visit.tree.endLine ∧
    ∀ child ∈ visit.tree.children, visit.tree.startLine ≤ child.startLine ∧ child.endLine ≤ visit.tree.endLine

instance (root : Tree) : Decidable root.Nested :=
  inferInstanceAs (Decidable (∀ visit ∈ preorder root, visit.tree.startLine ≤ visit.tree.endLine ∧
    ∀ child ∈ visit.tree.children, visit.tree.startLine ≤ child.startLine ∧ child.endLine ≤ visit.tree.endLine))

/-- In such a tree the lines of every node lie within those of the nodes above it. -/
theorem Tree.Nested.within {root : Tree} (nested : root.Nested) {visit : Visit} (here : Visit.Of root visit) :
    ∀ tree ∈ visit.ancestors, tree.startLine ≤ visit.tree.startLine ∧ visit.tree.endLine ≤ tree.endLine := by
  induction here with
  | root => exact List.forall_mem_nil _
  | @child visit _ parent member ih =>
      obtain ⟨listed, above, _⟩ := Visit.of_mem_children member
      have inside := (nested visit (mem_preorder_iff.mpr parent)).2 _ listed
      rw [above]
      refine List.forall_mem_cons.mpr ⟨inside, ?_⟩
      intro above member
      obtain ⟨first, last⟩ := ih above member
      exact ⟨Nat.le_trans first inside.1, Nat.le_trans inside.2 last⟩

end ChangeImpact.Syntax
