import ChangeImpact.Distinct
import ChangeImpact.Graph.Basic

/-!
Neighbours in a graph: what a node depends on and what depends on it, each neighbour once, in the order of
the first edge. Two searches take the nodes from a queue: one follows the edges and marks a node when it is
taken, the other goes against them and marks a node when it is queued.
-/

set_option autoImplicit false

namespace ChangeImpact.Graph

def node? (graph : Graph) (id : String) : Option Node :=
  graph.nodes.find? fun node => node.id == id

def idsIn (graph : Graph) (file : String) : List String :=
  (graph.nodes.filter fun node => node.file? == some file).map Node.id

def files (graph : Graph) : List String :=
  distinct (graph.nodes.filterMap Node.file?)

def targetsOf (graph : Graph) (id : String) : List String :=
  distinct ((graph.edges.filter fun edge => edge.source == id).map Edge.target)

def sourcesOf (graph : Graph) (id : String) : List String :=
  distinct ((graph.edges.filter fun edge => edge.target == id).map Edge.source)

theorem mem_sourcesOf {graph : Graph} {source id : String} :
    source ∈ graph.sourcesOf id ↔ ∃ edge ∈ graph.edges, edge.source = source ∧ edge.target = id := by
  rw [sourcesOf, mem_distinct, List.mem_map]
  constructor
  · rintro ⟨edge, kept, same⟩
    obtain ⟨member, ends⟩ := List.mem_filter.mp kept
    exact ⟨edge, member, same, beq_iff_eq.mp ends⟩
  · rintro ⟨edge, member, same, ends⟩
    exact ⟨edge, List.mem_filter.mpr ⟨member, beq_iff_eq.mpr ends⟩, same⟩

theorem mem_targetsOf {graph : Graph} {target id : String} :
    target ∈ graph.targetsOf id ↔ ∃ edge ∈ graph.edges, edge.source = id ∧ edge.target = target := by
  rw [targetsOf, mem_distinct, List.mem_map]
  constructor
  · rintro ⟨edge, kept, same⟩
    obtain ⟨member, begins⟩ := List.mem_filter.mp kept
    exact ⟨edge, member, beq_iff_eq.mp begins, same⟩
  · rintro ⟨edge, member, begins, same⟩
    exact ⟨edge, List.mem_filter.mpr ⟨member, beq_iff_eq.mpr begins⟩, same⟩

/-- The edges that do not start at a visited node. -/
def pending (graph : Graph) (visited : List String) : List Edge :=
  graph.edges.filter fun edge => !visited.contains edge.source

/-- A visit takes at least as many edges from the pending ones as it has targets to queue. -/
theorem pending_visit (graph : Graph) {visited : List String} {id : String}
    (unvisited : visited.contains id = false) :
    (graph.pending (id :: visited)).length + (graph.targetsOf id).length ≤
      (graph.pending visited).length := by
  have few : (graph.targetsOf id).length ≤
      (graph.edges.filter fun edge => edge.source == id).length := by
    rw [← List.length_map Edge.target]
    exact fresh_length_le [] _
  apply Nat.le_trans (Nat.add_le_add_left few _)
  unfold pending
  induction graph.edges with
  | nil => exact Nat.le_refl 0
  | cons edge rest ih =>
      simp only [List.filter_cons, List.contains_cons] at ih ⊢
      by_cases starts : edge.source = id
      · simp only [starts, unvisited, beq_self_eq_true, Bool.true_or, Bool.not_true, Bool.not_false,
          if_true, Bool.false_eq_true, if_false, List.length_cons]
        omega
      · have other : (edge.source == id) = false := beq_false_of_ne starts
        simp only [other, Bool.false_or, Bool.false_eq_true, if_false]
        split
        · simp only [List.length_cons]
          omega
        · exact ih

/-- What a search visits, in order. Ids wait in a queue with their numbers of steps; one that is taken from
its front is visited unless it was visited before or lies too deep. An id may wait several times, once for
every edge that leads to it, but an edge is queued only when its source is visited. -/
def visits (graph : Graph) (maxDepth : Int) (visited : List String) :
    List (String × Nat) → List String
  | [] => []
  | (id, depth) :: rest =>
      if visited.contains id || decide (maxDepth < depth) then graph.visits maxDepth visited rest
      else
        id :: graph.visits maxDepth (id :: visited)
          (rest ++ (graph.targetsOf id).map fun target => (target, depth + 1))
termination_by queue => (graph.pending visited).length + queue.length
decreasing_by
  · exact Nat.lt_succ_self _
  · rename_i visit
    have taken := graph.pending_visit (Bool.or_eq_false_iff.mp (Bool.eq_false_iff.mpr visit)).1
    simp only [List.length_append, List.length_map, List.length_cons]
    omega

theorem sourcesOf_start (graph : Graph) (id : String) :
    ∀ source ∈ graph.sourcesOf id, ∃ edge ∈ graph.edges, edge.source = source := by
  intro source member
  obtain ⟨edge, present, begins, _⟩ := mem_sourcesOf.mp member
  exact ⟨edge, present, begins⟩

/-- Marking what starts an edge takes at least one edge from the pending ones for each new mark. -/
theorem pending_mark (graph : Graph) (visited : List String) {ids : List String}
    (starts : ∀ id ∈ ids, ∃ edge ∈ graph.edges, edge.source = id) :
    (graph.pending (visited ++ fresh visited ids)).length + (fresh visited ids).length ≤
      (graph.pending visited).length := by
  induction ids generalizing visited with
  | nil =>
      rw [fresh, List.append_nil]
      exact Nat.le_refl _
  | cons id rest ih =>
      have others := fun other member => starts other (List.mem_cons_of_mem id member)
      rw [fresh]
      split
      · exact ih visited others
      · rename_i unmarked
        obtain ⟨edge, member, begins⟩ := starts id List.mem_cons_self
        have targeted : edge.target ∈ graph.targetsOf id := mem_targetsOf.mpr ⟨edge, member, begins, rfl⟩
        have taken := graph.pending_visit (Bool.eq_false_iff.mpr unmarked)
        have some := List.length_pos_of_mem targeted
        have reordered : graph.pending (visited ++ id :: fresh (id :: visited) rest) =
            graph.pending (id :: visited ++ fresh (id :: visited) rest) := by
          unfold pending
          congr 1
          funext edge
          simp only [List.contains_append, List.contains_cons, List.cons_append]
          rw [Bool.or_left_comm]
        rw [reordered, List.length_cons]
        have further := ih (id :: visited) others
        omega

/-- What a search against the edges finds, in order. Ids wait in a queue with their numbers of steps; from one
that does not lie too deep every source without a mark is found, marked and queued. An id is marked before it
waits, so it waits once. -/
def spread (graph : Graph) (maxDepth : Int) (visited : List String) :
    List (String × Nat) → List String
  | [] => []
  | (id, depth) :: rest =>
      if maxDepth < depth then graph.spread maxDepth visited rest
      else
        let found := fresh visited (graph.sourcesOf id)
        found ++ graph.spread maxDepth (visited ++ found)
          (rest ++ found.map fun source => (source, depth + 1))
termination_by queue => (graph.pending visited).length + queue.length
decreasing_by
  · exact Nat.lt_succ_self _
  · have taken := graph.pending_mark visited (graph.sourcesOf_start id)
    simp only [List.length_append, List.length_map, List.length_cons]
    omega

end ChangeImpact.Graph
