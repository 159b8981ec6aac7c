import ChangeImpact.Proofs.Preorder
import Mathlib.Data.List.Perm.Basic

/-!
The events of a tree by recursion: a node begins, then come the events of its children from left to right, then it
ends. The walk with a stack of what is still to come makes the same events, each turn one of them, so that beginnings
and ends are nested like brackets and no node begins or ends twice.
-/

set_option autoImplicit false

namespace ChangeImpact.Syntax

/-- The events from the beginning of a node to its end, those of its children from left to right between. -/
def Visit.walk (visit : Visit) : List Event :=
  .enter visit :: visit.children.attach.flatMap (fun child => child.val.walk) ++ [.leave visit]
termination_by visit.tree.size
decreasing_by exact Tree.size_lt_of_mem (Visit.of_mem_children child.property).1

theorem Visit.walk_eq (visit : Visit) :
    visit.walk = .enter visit :: visit.children.flatMap Visit.walk ++ [.leave visit] := by
  have children : visit.children.attach.flatMap (fun child => child.val.walk) = visit.children.flatMap Visit.walk := by
    rw [← List.flatMap_map Subtype.val Visit.walk, List.attach_map_subtype_val]
  rw [Visit.walk, children]

/-- What holds of a node if it holds of its children holds of all nodes. -/
theorem Visit.induction {motive : Visit → Prop}
    (step : ∀ visit, (∀ child ∈ visit.children, motive child) → motive visit) (visit : Visit) : motive visit :=
  step visit fun child member =>
    have _smaller := Tree.size_lt_of_mem (Visit.of_mem_children member).1
    Visit.induction step child
termination_by visit.tree.size

/-! ### The stack -/

/-- What becomes of an event on the stack: a beginning brings the whole node with it. -/
def Event.unfolded : Event → List Event
  | .enter visit => visit.walk
  | .leave visit => [.leave visit]

theorem Event.unfolded_inside (visit : Visit) :
    (Event.inside visit).flatMap Event.unfolded = visit.children.flatMap Visit.walk ++ [.leave visit] := by
  unfold Event.inside
  rw [List.flatMap_append, List.flatMap_map, List.flatMap_singleton]
  rfl

/-- Whatever is on the stack, the walk makes the events of each part of it, from the top to the bottom. -/
theorem eventsFrom_eq (pending : List Event) : eventsFrom pending = pending.flatMap Event.unfolded := by
  fun_induction eventsFrom pending with
  | case1 => rfl
  | case2 visit rest ih =>
      rw [ih, List.flatMap_append, Event.unfolded_inside, List.flatMap_cons, Event.unfolded, Visit.walk_eq,
        List.cons_append, List.cons_append]
  | case3 visit rest ih =>
      rw [ih, List.flatMap_cons, Event.unfolded, List.singleton_append]

theorem events_eq (tree : Tree) : events tree = (Visit.root tree).walk := by
  unfold events
  rw [eventsFrom_eq, List.flatMap_singleton]
  rfl

/-- Each turn of the walk makes one event and takes one from the load of the stack. -/
theorem length_eventsFrom (pending : List Event) : (eventsFrom pending).length = Event.load pending := by
  fun_induction eventsFrom pending with
  | case1 => rfl
  | case2 visit rest ih => rw [List.length_cons, ih, Event.load_inside_append_succ]
  | case3 visit rest ih =>
      rw [List.length_cons, ih]
      simp only [Event.load, Event.weight, Nat.add_comm]

theorem length_events (tree : Tree) : (events tree).length = 2 * tree.size := by
  unfold events
  rw [length_eventsFrom]
  simp only [Event.load, Event.weight, Visit.root, Nat.add_zero]

theorem length_preorderFrom (pending : List Visit) : (preorderFrom pending).length = Visit.load pending := by
  fun_induction preorderFrom pending with
  | case1 => rfl
  | case2 visit rest ih => rw [List.length_cons, ih, Visit.load_children_append_succ]

theorem length_preorder (tree : Tree) : (preorder tree).length = tree.size := by
  unfold preorder
  rw [length_preorderFrom]
  rfl

/-! ### Beginnings and ends -/

/-- Beginnings and ends that are nested: what begins ends after all that began inside it. -/
inductive Bracketed : List Event → Prop
  | nil : Bracketed []
  | node {visit : Visit} {inner rest : List Event} (inside : Bracketed inner) (later : Bracketed rest) :
      Bracketed (.enter visit :: inner ++ .leave visit :: rest)

theorem Bracketed.append {front back : List Event} (first : Bracketed front) (second : Bracketed back) :
    Bracketed (front ++ back) := by
  induction first with
  | nil => exact second
  | node inside _ _ ih =>
      rw [List.append_assoc, List.cons_append]
      exact Bracketed.node inside ih

theorem bracketed_flatMap {visits : List Visit} (each : ∀ visit ∈ visits, Bracketed visit.walk) :
    Bracketed (visits.flatMap Visit.walk) := by
  induction visits with
  | nil => exact Bracketed.nil
  | cons visit rest ih =>
      obtain ⟨here, others⟩ := List.forall_mem_cons.mp each
      rw [List.flatMap_cons]
      exact here.append (ih others)

theorem Visit.walk_bracketed (visit : Visit) : Bracketed visit.walk := by
  induction visit using Visit.induction with
  | step visit ih =>
      rw [Visit.walk_eq]
      exact Bracketed.node (bracketed_flatMap ih) Bracketed.nil

def Event.left? : Event → Option Visit
  | .enter _ => none
  | .leave visit => some visit

theorem Event.entered?_eq_some {event : Event} {visit : Visit} :
    event.entered? = some visit ↔ event = .enter visit := by
  cases event <;> simp [Event.entered?]

theorem Event.left?_eq_some {event : Event} {visit : Visit} :
    event.left? = some visit ↔ event = .leave visit := by
  cases event <;> simp [Event.left?]

theorem Visit.entered_walk (visit : Visit) : visit.walk.filterMap Event.entered? = visit.below := by
  induction visit using Visit.induction with
  | step visit ih =>
      have begins : Event.entered? (.enter visit) = some visit := rfl
      have ends : [Event.leave visit].filterMap Event.entered? = [] := rfl
      rw [Visit.walk_eq, Visit.below_eq, List.cons_append, List.filterMap_cons_some begins, List.filterMap_append, ends,
        List.append_nil, List.filterMap_flatMap, List.flatMap_congr ih]

/-- A node ends after those below it, so the ends come in another order than the beginnings. -/
theorem Visit.left_walk (visit : Visit) : (visit.walk.filterMap Event.left?).Perm visit.below := by
  induction visit using Visit.induction with
  | step visit ih =>
      have begins : Event.left? (.enter visit) = none := rfl
      have ends : [Event.leave visit].filterMap Event.left? = [visit] := rfl
      rw [Visit.walk_eq, Visit.below_eq, List.cons_append, List.filterMap_cons_none begins, List.filterMap_append, ends,
        List.filterMap_flatMap]
      exact (List.perm_append_singleton _ _).trans ((List.Perm.flatMap_left _ ih).cons _)

theorem entered_events (tree : Tree) : (events tree).filterMap Event.entered? = preorder tree := by
  rw [events_eq, Visit.entered_walk, preorder_eq]
  rfl

theorem left_events (tree : Tree) : ((events tree).filterMap Event.left?).Perm (preorder tree) := by
  rw [events_eq, preorder_eq]
  exact Visit.left_walk (Visit.root tree)

theorem enter_mem_events {tree : Tree} {visit : Visit} : .enter visit ∈ events tree ↔ Visit.Of tree visit := by
  rw [← mem_preorder_iff, ← entered_events, List.mem_filterMap]
  simp only [Event.entered?_eq_some, exists_eq_right]

theorem leave_mem_events {tree : Tree} {visit : Visit} : .leave visit ∈ events tree ↔ Visit.Of tree visit := by
  rw [← mem_preorder_iff, ← (left_events tree).mem_iff, List.mem_filterMap]
  simp only [Event.left?_eq_some, exists_eq_right]

theorem places_preorder_nodup (tree : Tree) : ((preorder tree).map Visit.place).Nodup := by
  rw [preorder_eq]
  exact Tree.places_nodup [] [] tree

/-- The walks with a stack are the recursive ones. The events of a tree are those of the recursion, two for each node,
and nested like brackets; every node of the tree begins and ends, each at one event only, since no place is met twice.
The nodes that the other walk meets are those of the recursion in preorder, each once, in the order in which they
begin. -/
theorem walks_follow_recursion (tree : Tree) :
    (events tree = (Visit.root tree).walk ∧ (events tree).length = 2 * tree.size ∧ Bracketed (events tree)) ∧
      (∀ visit, (.enter visit ∈ events tree ↔ Visit.Of tree visit) ∧
        (.leave visit ∈ events tree ↔ Visit.Of tree visit)) ∧
      (((events tree).filterMap Event.entered?).map Visit.place).Nodup ∧
      (((events tree).filterMap Event.left?).map Visit.place).Nodup ∧
      preorder tree = tree.visits [] [] ∧ (preorder tree).length = tree.size ∧
      preorder tree = (events tree).filterMap Event.entered? := by
  have nested : Bracketed (events tree) := events_eq tree ▸ Visit.walk_bracketed _
  have begun : (((events tree).filterMap Event.entered?).map Visit.place).Nodup :=
    entered_events tree ▸ places_preorder_nodup tree
  have ended : (((events tree).filterMap Event.left?).map Visit.place).Nodup :=
    ((left_events tree).map Visit.place).nodup_iff.mpr (places_preorder_nodup tree)
  exact ⟨⟨events_eq tree, length_events tree, nested⟩, fun visit => ⟨enter_mem_events, leave_mem_events⟩, begun, ended,
    preorder_eq tree, length_preorder tree, (entered_events tree).symm⟩

end ChangeImpact.Syntax
