import ChangeImpact.Graph.Adjacency
import ChangeImpact.Proofs.Distinct
import Mathlib.Order.Bounds.Defs

/-!
Distances in a graph and the search by layers. A walk follows edges; the distance of a node is the length of a
shortest walk. The layers are described by distances alone, so cycles and repeated edges need no treatment of
their own. The search itself takes nodes from a queue that holds the rest of one layer and the beginning of the
next, and what it finds are the layers.
-/

set_option autoImplicit false

namespace ChangeImpact.Graph

/-! ### Steps from a set of starts -/

inductive Reaches (next : String → List String) (starts : List String) : Nat → String → Prop
  | start {id : String} (member : id ∈ starts) : Reaches next starts 0 id
  | step {steps : Nat} {id further : String} (reached : Reaches next starts steps id)
      (member : further ∈ next id) : Reaches next starts (steps + 1) further

/-- The least number of steps that lead from one of the starts to a node. -/
def Away (next : String → List String) (starts : List String) (steps : Nat) (id : String) : Prop :=
  IsLeast {count | Reaches next starts count id} steps

variable {next : String → List String} {starts : List String}

theorem Away.unique {left right : Nat} {id : String} (first : Away next starts left id)
    (second : Away next starts right id) : left = right :=
  Nat.le_antisymm (first.2 second.1) (second.2 first.1)

/-- What is reached has a distance. -/
theorem Reaches.away {steps : Nat} {id : String} (reached : Reaches next starts steps id) :
    ∃ least, least ≤ steps ∧ Away next starts least id := by
  induction steps using Nat.strongRecOn with
  | _ steps ih =>
      by_cases shorter : ∃ fewer, fewer < steps ∧ Reaches next starts fewer id
      · obtain ⟨fewer, less, early⟩ := shorter
        obtain ⟨least, bound, away⟩ := ih fewer less early
        exact ⟨least, by omega, away⟩
      · refine ⟨steps, Nat.le_refl steps, reached, ?_⟩
        intro count early
        exact Nat.le_of_not_lt fun less => shorter ⟨count, less, early⟩

/-- Before a node at a distance stands one that is a step nearer. -/
theorem Away.previous {steps : Nat} {id : String} (away : Away next starts (steps + 1) id) :
    ∃ nearer, Away next starts steps nearer ∧ id ∈ next nearer := by
  obtain ⟨reached, minimal⟩ := away
  cases reached with
  | @step _ nearer _ before member =>
      refine ⟨nearer, ⟨before, ?_⟩, member⟩
      intro count early
      have bound : steps + 1 ≤ count + 1 := minimal (Reaches.step early member)
      omega

/-! ### The layers of the search -/

/-- What lies beyond a layer, at most so many steps away: layer after layer, without what was seen. -/
def beyond (next : String → List String) : Nat → List String → List String → List String
  | 0, _, _ => []
  | steps + 1, seen, layer =>
      let found := fresh seen (layer.flatMap next)
      found ++ beyond next steps (seen ++ found) found

theorem beyond_succ (next : String → List String) (steps : Nat) (seen layer : List String) :
    beyond next (steps + 1) seen layer =
      fresh seen (layer.flatMap next) ++
        beyond next steps (seen ++ fresh seen (layer.flatMap next)) (fresh seen (layer.flatMap next)) :=
  rfl

/-- What the search knows after so many layers: `seen` is what lies at most so far away and `layer` what
lies exactly so far. -/
structure Layered (next : String → List String) (starts : List String) (steps : Nat)
    (seen layer : List String) : Prop where
  mem_seen : ∀ id, id ∈ seen ↔ ∃ count, count ≤ steps ∧ Away next starts count id
  mem_layer : ∀ id, id ∈ layer ↔ Away next starts steps id

theorem Layered.initial : Layered next starts 0 starts starts := by
  have atStart (id : String) : Away next starts 0 id ↔ id ∈ starts := by
    constructor
    · rintro ⟨reached, _⟩
      cases reached with
      | start member => exact member
    · intro member
      exact ⟨Reaches.start member, fun count _ => Nat.zero_le count⟩
  constructor
  · intro id
    constructor
    · intro member
      exact ⟨0, Nat.le_refl 0, (atStart id).mpr member⟩
    · rintro ⟨count, bound, away⟩
      have none : count = 0 := by omega
      subst none
      exact (atStart id).mp away
  · intro id
    exact (atStart id).symm

variable {steps : Nat} {seen layer : List String}

theorem Layered.mem_next (layered : Layered next starts steps seen layer) (id : String) :
    id ∈ fresh seen (layer.flatMap next) ↔ Away next starts (steps + 1) id := by
  rw [mem_fresh, List.mem_flatMap]
  constructor
  · rintro ⟨⟨nearer, inLayer, member⟩, unseen⟩
    have reached := Reaches.step ((layered.mem_layer nearer).mp inLayer).1 member
    obtain ⟨least, bound, away⟩ := reached.away
    have far : ¬least ≤ steps := fun near => unseen ((layered.mem_seen id).mpr ⟨least, near, away⟩)
    have same : least = steps + 1 := by omega
    exact same ▸ away
  · intro away
    obtain ⟨nearer, before, member⟩ := away.previous
    refine ⟨⟨nearer, (layered.mem_layer nearer).mpr before, member⟩, ?_⟩
    intro known
    obtain ⟨count, near, other⟩ := (layered.mem_seen id).mp known
    have same := other.unique away
    omega

/-- One more layer keeps the description. -/
theorem Layered.step (layered : Layered next starts steps seen layer) :
    Layered next starts (steps + 1) (seen ++ fresh seen (layer.flatMap next))
      (fresh seen (layer.flatMap next)) := by
  constructor
  · intro id
    rw [List.mem_append, layered.mem_next, layered.mem_seen]
    constructor
    · rintro (⟨count, bound, away⟩ | away)
      · exact ⟨count, by omega, away⟩
      · exact ⟨steps + 1, Nat.le_refl _, away⟩
    · rintro ⟨count, bound, away⟩
      by_cases near : count ≤ steps
      · exact Or.inl ⟨count, near, away⟩
      · have same : count = steps + 1 := by omega
        exact Or.inr (same ▸ away)
  · exact layered.mem_next

/-- The search lists what lies beyond the last layer, up to the number of layers it may add. -/
theorem Layered.mem_beyond (layered : Layered next starts steps seen layer) (more : Nat)
    (id : String) :
    id ∈ beyond next more seen layer ↔
      ∃ count, steps < count ∧ count ≤ steps + more ∧ Away next starts count id := by
  induction more generalizing steps seen layer with
  | zero =>
      simp only [beyond, List.not_mem_nil, false_iff]
      rintro ⟨count, far, near, _⟩
      omega
  | succ more ih =>
      rw [beyond_succ, List.mem_append, layered.mem_next, ih layered.step]
      constructor
      · rintro (away | ⟨count, far, near, away⟩)
        · exact ⟨steps + 1, by omega, by omega, away⟩
        · exact ⟨count, by omega, by omega, away⟩
      · rintro ⟨count, far, near, away⟩
        by_cases last : count = steps + 1
        · exact Or.inl (last ▸ away)
        · exact Or.inr ⟨count, by omega, by omega, away⟩

theorem Layered.beyond_nodup (layered : Layered next starts steps seen layer) (more : Nat) :
    (beyond next more seen layer).Nodup := by
  induction more generalizing steps seen layer with
  | zero => exact List.nodup_nil
  | succ more ih =>
      rw [beyond_succ, List.nodup_append]
      refine ⟨fresh_nodup _ _, ih layered.step, ?_⟩
      rintro id found other later rfl
      obtain ⟨count, far, _, away⟩ := (layered.step.mem_beyond more id).mp later
      have same := away.unique ((layered.mem_next id).mp found)
      omega

/-- The search lists nearer nodes first. -/
theorem Layered.beyond_ordered (layered : Layered next starts steps seen layer) (more : Nat) :
    (beyond next more seen layer).Pairwise fun earlier later =>
      ∀ left right, Away next starts left earlier → Away next starts right later → left ≤ right := by
  induction more generalizing steps seen layer with
  | zero => exact List.Pairwise.nil
  | succ more ih =>
      rw [beyond_succ, List.pairwise_append]
      refine ⟨List.pairwise_of_forall_mem_list ?_, ih layered.step, ?_⟩
      · intro earlier first later second left right awayLeft awayRight
        have leftSame := awayLeft.unique ((layered.mem_next earlier).mp first)
        have rightSame := awayRight.unique ((layered.mem_next later).mp second)
        omega
      · intro earlier first later second left right awayLeft awayRight
        have leftSame := awayLeft.unique ((layered.mem_next earlier).mp first)
        obtain ⟨count, far, _, away⟩ := (layered.step.mem_beyond more later).mp second
        have rightSame := awayRight.unique away
        omega

/-! ### The queue and the layers -/

section

variable (graph : Graph) {maxDepth : Int} {depth : Nat}

/-- While one layer is taken from the queue, what it leads to gathers behind it as the next layer. -/
theorem spread_layer (shallow : (depth : Int) ≤ maxDepth) (visited layer gathered : List String) :
    graph.spread maxDepth visited
        (layer.map (fun id => (id, depth)) ++ gathered.map fun id => (id, depth + 1)) =
      fresh visited (layer.flatMap graph.sourcesOf) ++
        graph.spread maxDepth (visited ++ fresh visited (layer.flatMap graph.sourcesOf))
          ((gathered ++ fresh visited (layer.flatMap graph.sourcesOf)).map fun id => (id, depth + 1)) := by
  induction layer generalizing visited gathered with
  | nil =>
      simp only [List.map_nil, List.nil_append, List.flatMap_nil, fresh, List.append_nil]
  | cons id rest ih =>
      -- The sources of the front join the gathered ones; the others of the layer see them marked.
      rw [List.map_cons, List.cons_append, spread, if_neg (by omega)]
      dsimp only
      rw [List.append_assoc, ← List.map_append, ih, List.flatMap_cons, fresh_append]
      simp only [List.append_assoc]

theorem spread_deep {queue : List (String × Nat)} (deep : ∀ entry ∈ queue, maxDepth < (entry.2 : Int))
    (visited : List String) : graph.spread maxDepth visited queue = [] := by
  induction queue with
  | nil => rw [spread]
  | cons entry rest ih =>
      rw [spread, if_pos (deep entry List.mem_cons_self)]
      exact ih fun other member => deep other (List.mem_cons_of_mem entry member)

/-- The queue finds the layers, one after the other. -/
theorem spread_eq_beyond (steps : Nat) (room : (maxDepth + 1 - depth).toNat = steps)
    (visited layer : List String) :
    graph.spread maxDepth visited (layer.map fun id => (id, depth)) =
      beyond graph.sourcesOf steps visited layer := by
  induction steps generalizing depth visited layer with
  | zero =>
      apply spread_deep
      intro entry member
      obtain ⟨id, _, rfl⟩ := List.mem_map.mp member
      omega
  | succ steps ih =>
      have round := graph.spread_layer (by omega : (depth : Int) ≤ maxDepth) visited layer []
      rw [List.map_nil, List.append_nil, List.nil_append] at round
      rw [round, beyond_succ, ih (by omega)]

end

/-! ### Walks along the edges -/

inductive Walk (graph : Graph) : Nat → String → String → Prop
  | stay (id : String) : Walk graph 0 id id
  | along {steps : Nat} {edge : Edge} {last : String} (member : edge ∈ graph.edges)
      (onward : Walk graph steps edge.target last) : Walk graph (steps + 1) edge.source last

/-- The length of a shortest walk from a node into a set of nodes. -/
def IsDistance (graph : Graph) (goal : String → Prop) (id : String) (steps : Nat) : Prop :=
  IsLeast {count | ∃ last, goal last ∧ graph.Walk count id last} steps

/-- Steps against the edges are walks read backwards. -/
theorem reaches_sourcesOf_iff (graph : Graph) (goals : List String) (steps : Nat) (id : String) :
    Reaches graph.sourcesOf goals steps id ↔ ∃ last, last ∈ goals ∧ graph.Walk steps id last := by
  constructor
  · intro reached
    induction reached with
    | start member => exact ⟨_, member, Walk.stay _⟩
    | step _ member ih =>
        obtain ⟨last, goal, onward⟩ := ih
        obtain ⟨edge, present, rfl, rfl⟩ := mem_sourcesOf.mp member
        exact ⟨last, goal, Walk.along present onward⟩
  · rintro ⟨last, goal, walk⟩
    induction walk with
    | stay id => exact Reaches.start goal
    | along member _ ih => exact Reaches.step (ih goal) (mem_sourcesOf.mpr ⟨_, member, rfl, rfl⟩)

theorem away_sourcesOf_iff (graph : Graph) (goals : List String) (steps : Nat) (id : String) :
    Away graph.sourcesOf goals steps id ↔ graph.IsDistance (· ∈ goals) id steps := by
  rw [Away, IsDistance]
  simp only [reaches_sourcesOf_iff]

end ChangeImpact.Graph
