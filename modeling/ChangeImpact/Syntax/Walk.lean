import ChangeImpact.Syntax.Tree

/-!
Walks through a syntax tree with a list of what is still to be visited. Every visit knows the nodes
above it, nearest first, and its place in the tree.
-/

set_option autoImplicit false

namespace ChangeImpact.Syntax

/-- A node with the nodes above it, nearest first. Its place tells which child it is of the node above, which child
that one is, and so on; nodes that look alike differ in their places. -/
structure Visit where
  tree : Tree
  ancestors : List Tree
  place : List Nat
  deriving Inhabited

namespace Visit

def root (tree : Tree) : Visit := { tree, ancestors := [], place := [] }

def children (visit : Visit) : List Visit :=
  visit.tree.children.mapIdx fun number child =>
    { tree := child, ancestors := visit.tree :: visit.ancestors, place := number :: visit.place }

def parent? (visit : Visit) : Option Tree := visit.ancestors.head?

def load (visits : List Visit) : Nat := Tree.sizes (visits.map Visit.tree)

end Visit

theorem Tree.sizes_append (left right : List Tree) :
    Tree.sizes (left ++ right) = Tree.sizes left + Tree.sizes right := by
  induction left with
  | nil => simp only [List.nil_append, Tree.sizes, Nat.zero_add]
  | cons head tail ih => simp only [List.cons_append, Tree.sizes, ih, Nat.add_assoc]

theorem Visit.map_tree_children (visit : Visit) :
    visit.children.map Visit.tree = visit.tree.children := by
  apply List.ext_getElem
  · simp [Visit.children]
  · simp [Visit.children]

/-- A node that is visited makes place for its children: one node less is still to be visited. -/
theorem Visit.load_children_append_succ (visit : Visit) (rest : List Visit) :
    Visit.load (visit.children ++ rest) + 1 = Visit.load (visit :: rest) := by
  simp only [Visit.load, List.map_append, Visit.map_tree_children, Tree.sizes_append, List.map_cons,
    Tree.sizes, Tree.size_eq visit.tree]
  omega

theorem Visit.load_children_append (visit : Visit) (rest : List Visit) :
    Visit.load (visit.children ++ rest) < Visit.load (visit :: rest) :=
  Nat.lt_of_succ_le (Nat.le_of_eq (Visit.load_children_append_succ visit rest))

def preorderFrom : List Visit → List Visit
  | [] => []
  | visit :: rest => visit :: preorderFrom (visit.children ++ rest)
termination_by pending => Visit.load pending
decreasing_by exact Visit.load_children_append visit rest

def preorder (tree : Tree) : List Visit := preorderFrom [Visit.root tree]

inductive Event where
  | enter (visit : Visit)
  | leave (visit : Visit)

namespace Event

def weight : Event → Nat
  | .enter visit => 2 * visit.tree.size
  | .leave _ => 1

def load : List Event → Nat
  | [] => 0
  | event :: rest => event.weight + load rest

/-- What follows the beginning of a node, up to its end. -/
def inside (visit : Visit) : List Event := visit.children.map .enter ++ [.leave visit]

end Event

theorem Event.load_append (left right : List Event) :
    Event.load (left ++ right) = Event.load left + Event.load right := by
  induction left with
  | nil => simp only [List.nil_append, Event.load, Nat.zero_add]
  | cons head tail ih => simp only [List.cons_append, Event.load, ih, Nat.add_assoc]

theorem Event.load_enter (visits : List Visit) :
    Event.load (visits.map .enter) = 2 * Visit.load visits := by
  induction visits with
  | nil => rfl
  | cons head tail ih =>
      have split : Event.load (.enter head :: tail.map .enter) =
          2 * head.tree.size + Event.load (tail.map .enter) := by
        simp only [Event.load, Event.weight]
      rw [List.map_cons, split, ih]
      simp only [Visit.load, List.map_cons, Tree.sizes]
      omega

/-- A node that begins makes place for what follows up to its end: one event less is still to come. -/
theorem Event.load_inside_append_succ (visit : Visit) (rest : List Event) :
    Event.load (Event.inside visit ++ rest) + 1 = Event.load (.enter visit :: rest) := by
  have whole : Event.load (.enter visit :: rest) = 2 * visit.tree.size + Event.load rest := by
    simp only [Event.load, Event.weight]
  have last : Event.load [.leave visit] = 1 := rfl
  rw [whole, Event.inside, Event.load_append, Event.load_append, Event.load_enter, last,
    Visit.load, Visit.map_tree_children, Tree.size_eq visit.tree]
  omega

theorem Event.load_inside_append (visit : Visit) (rest : List Event) :
    Event.load (Event.inside visit ++ rest) < Event.load (.enter visit :: rest) :=
  Nat.lt_of_succ_le (Nat.le_of_eq (Event.load_inside_append_succ visit rest))

/-- The events of pending events: a node's beginning, the events of its children, its end. -/
def eventsFrom : List Event → List Event
  | [] => []
  | .enter visit :: rest => .enter visit :: eventsFrom (Event.inside visit ++ rest)
  | .leave visit :: rest => .leave visit :: eventsFrom rest
termination_by pending => Event.load pending
decreasing_by
  · exact Event.load_inside_append visit rest
  · simp only [Event.load, Event.weight]
    omega

def events (tree : Tree) : List Event := eventsFrom [.enter (Visit.root tree)]

end ChangeImpact.Syntax
