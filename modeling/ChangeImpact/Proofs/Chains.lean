import ChangeImpact.Proofs.Dependents

/-!
What a node leads to, by distance. The search marks a node when it is taken from the queue and not when it is put
there, so a node may wait at several depths. What makes the first of its entries the right one is the shape of the
queue: depths do not fall from front to back, differ by one at most, and every node that is near enough and not yet
visited lies behind an entry that is no deeper than the node is far.
-/

set_option autoImplicit false

namespace ChangeImpact.Graph

/-! ### Walks along the edges, read forward -/

variable {graph : Graph} {start : String}

theorem Walk.extend {steps : Nat} {first : String} {edge : Edge} (member : edge ∈ graph.edges)
    (walk : graph.Walk steps first edge.source) : graph.Walk (steps + 1) first edge.target := by
  generalize ends : edge.source = last at walk
  induction walk with
  | stay id =>
      subst ends
      exact Walk.along member (Walk.stay edge.target)
  | along before _ ih => exact Walk.along before (ih ends)

theorem Walk.reaches {starts : List String} {count steps : Nat} {first last : String}
    (walk : graph.Walk steps first last) (reached : Reaches graph.targetsOf starts count first) :
    Reaches graph.targetsOf starts (count + steps) last := by
  induction walk generalizing count with
  | stay id => exact reached
  | @along steps edge last member _ ih =>
      have further : edge.target ∈ graph.targetsOf edge.source :=
        mem_targetsOf.mpr ⟨edge, member, rfl, rfl⟩
      have onward := ih (Reaches.step reached further)
      rwa [Nat.add_assoc, Nat.add_comm 1 steps] at onward

theorem reaches_targetsOf_iff {steps : Nat} {id : String} :
    Reaches graph.targetsOf [start] steps id ↔ graph.Walk steps start id := by
  constructor
  · intro reached
    induction reached with
    | start member =>
        rw [List.mem_singleton.mp member]
        exact Walk.stay start
    | step _ member ih =>
        obtain ⟨edge, present, rfl, rfl⟩ := mem_targetsOf.mp member
        exact Walk.extend present ih
  · intro walk
    have reached := walk.reaches (Reaches.start (List.mem_singleton.mpr rfl))
    rwa [Nat.zero_add] at reached

theorem away_targetsOf_iff {steps : Nat} {id : String} :
    Away graph.targetsOf [start] steps id ↔ graph.IsDistance (· = id) start steps := by
  simp only [Away, IsDistance, reaches_targetsOf_iff, exists_eq_left]

/-! ### The queue -/

/-- An entry that has to wait in the queue at some time: the start, and the targets of what is visited. -/
inductive Due (next : String → List String) (start : String) (visited : List String) :
    String × Nat → Prop
  | start : Due next start visited (start, 0)
  | target {id further : String} {steps : Nat} (visit : id ∈ visited)
      (away : Away next [start] steps id) (member : further ∈ next id) :
      Due next start visited (further, steps + 1)

structure Queued (next : String → List String) (start : String) (maxDepth : Int)
    (visited : List String) (queue : List (String × Nat)) : Prop where
  reached : ∀ entry ∈ queue, Reaches next [start] entry.2 entry.1
  ascending : queue.Pairwise fun earlier later => earlier.2 ≤ later.2
  narrow : ∀ entry ∈ queue, ∀ other ∈ queue, other.2 ≤ entry.2 + 1
  kept : ∀ entry, Due next start visited entry →
    entry.1 ∈ visited ∨ entry ∈ queue ∨ maxDepth < entry.2

namespace Queued

variable {next : String → List String} {maxDepth : Int} {visited : List String}
  {queue rest : List (String × Nat)} {id : String} {depth : Nat}

theorem initial (next : String → List String) (start : String) (maxDepth : Int) :
    Queued next start maxDepth [] [(start, 0)] where
  reached := by
    intro entry member
    rw [List.mem_singleton.mp member]
    exact Reaches.start (List.mem_singleton.mpr rfl)
  ascending := List.pairwise_singleton _ _
  narrow := by
    intro entry member other alsoMember
    rw [List.mem_singleton.mp member, List.mem_singleton.mp alsoMember]
    exact Nat.zero_le _
  kept := by
    intro entry due
    cases due with
    | start => exact Or.inr (Or.inl List.mem_cons_self)
    | target visit => cases visit

/-- A node that is near enough and not visited lies behind an entry that is no deeper than the node is far. -/
theorem ahead (queued : Queued next start maxDepth visited queue) {steps : Nat}
    (away : Away next [start] steps id) (near : (steps : Int) ≤ maxDepth) (unvisited : id ∉ visited) :
    ∃ entry ∈ queue, entry.2 ≤ steps := by
  induction steps generalizing id with
  | zero =>
      obtain ⟨reached, _⟩ := away
      cases reached with
      | start member =>
          rw [List.mem_singleton.mp member] at unvisited
          rcases queued.kept (start, 0) Due.start with visit | waits | deep
          · exact absurd visit unvisited
          · exact ⟨(start, 0), waits, Nat.le_refl 0⟩
          · exact absurd near (Int.not_le.mpr deep)
  | succ steps ih =>
      obtain ⟨nearer, before, member⟩ := away.previous
      by_cases known : nearer ∈ visited
      · rcases queued.kept (id, steps + 1) (Due.target known before member) with visit | waits | deep
        · exact absurd visit unvisited
        · exact ⟨(id, steps + 1), waits, Nat.le_refl _⟩
        · exact absurd near (Int.not_le.mpr deep)
      · obtain ⟨entry, waits, bound⟩ := ih before (by omega) known
        exact ⟨entry, waits, by omega⟩

theorem front_le (queued : Queued next start maxDepth visited ((id, depth) :: rest))
    {entry : String × Nat} (member : entry ∈ (id, depth) :: rest) : depth ≤ entry.2 := by
  rcases List.mem_cons.mp member with rfl | behind
  · exact Nat.le_refl depth
  · exact (List.pairwise_cons.mp queued.ascending).1 entry behind

/-- The first entry of a node that is taken from the queue has the node's distance. -/
theorem nearest (queued : Queued next start maxDepth visited ((id, depth) :: rest))
    (unvisited : id ∉ visited) (near : (depth : Int) ≤ maxDepth) : Away next [start] depth id := by
  obtain ⟨least, bound, away⟩ := (queued.reached (id, depth) List.mem_cons_self).away
  obtain ⟨entry, member, shallow⟩ := queued.ahead away (by omega) unvisited
  have front : depth ≤ entry.2 := queued.front_le member
  have same : least = depth := by omega
  exact same ▸ away

theorem skip (queued : Queued next start maxDepth visited ((id, depth) :: rest))
    (passed : id ∈ visited ∨ maxDepth < depth) : Queued next start maxDepth visited rest where
  reached := fun entry member => queued.reached entry (List.mem_cons_of_mem _ member)
  ascending := (List.pairwise_cons.mp queued.ascending).2
  narrow := fun entry member other alsoMember =>
    queued.narrow entry (List.mem_cons_of_mem _ member) other (List.mem_cons_of_mem _ alsoMember)
  kept := by
    intro entry due
    rcases queued.kept entry due with visit | waits | deep
    · exact Or.inl visit
    · rcases List.mem_cons.mp waits with rfl | behind
      · exact passed.imp_right Or.inr
      · exact Or.inr (Or.inl behind)
    · exact Or.inr (Or.inr deep)

theorem visit (queued : Queued next start maxDepth visited ((id, depth) :: rest))
    (away : Away next [start] depth id) :
    Queued next start maxDepth (id :: visited)
      (rest ++ (next id).map fun target => (target, depth + 1)) := by
  have waiting : ∀ entry ∈ rest, depth ≤ entry.2 ∧ entry.2 ≤ depth + 1 := by
    intro entry member
    have waits := List.mem_cons_of_mem (id, depth) member
    exact ⟨queued.front_le waits, queued.narrow _ List.mem_cons_self entry waits⟩
  have added : ∀ entry ∈ (next id).map (fun target => (target, depth + 1)),
      entry.1 ∈ next id ∧ entry.2 = depth + 1 := by
    intro entry member
    obtain ⟨target, leads, rfl⟩ := List.mem_map.mp member
    exact ⟨leads, rfl⟩
  have depths : ∀ entry ∈ rest ++ (next id).map (fun target => (target, depth + 1)),
      depth ≤ entry.2 ∧ entry.2 ≤ depth + 1 := by
    intro entry member
    rcases List.mem_append.mp member with waits | new
    · exact waiting entry waits
    · have deeper := (added entry new).2
      omega
  constructor
  · intro entry member
    rcases List.mem_append.mp member with waits | new
    · exact queued.reached entry (List.mem_cons_of_mem _ waits)
    · rw [(added entry new).2]
      exact Reaches.step away.1 (added entry new).1
  · rw [List.pairwise_append]
    refine ⟨(List.pairwise_cons.mp queued.ascending).2, List.pairwise_of_forall_mem_list ?_, ?_⟩
    · intro earlier first later second
      exact Nat.le_of_eq ((added earlier first).2.trans (added later second).2.symm)
    · intro earlier first later second
      rw [(added later second).2]
      exact (waiting earlier first).2
  · intro entry member other alsoMember
    have one := depths entry member
    have two := depths other alsoMember
    omega
  · have before : ∀ entry, Due next start visited entry →
        entry.1 ∈ id :: visited ∨ entry ∈ rest ++ (next id).map (fun target => (target, depth + 1)) ∨
          maxDepth < entry.2 := by
      intro entry due
      rcases queued.kept entry due with visit | waits | deep
      · exact Or.inl (List.mem_cons_of_mem _ visit)
      · rcases List.mem_cons.mp waits with rfl | behind
        · exact Or.inl List.mem_cons_self
        · exact Or.inr (Or.inl (List.mem_append_left _ behind))
      · exact Or.inr (Or.inr deep)
    intro entry due
    cases due with
    | start => exact before _ Due.start
    | @target other further steps visit otherAway member =>
        rcases List.mem_cons.mp visit with rfl | earlier
        · -- The node itself: its targets have just been queued, one step deeper than it lies.
          rw [otherAway.unique away]
          exact Or.inr (Or.inl (List.mem_append_right _ (List.mem_map.mpr ⟨further, member, rfl⟩)))
        · exact before _ (Due.target earlier otherAway member)

end Queued

/-! ### The whole search -/

section

variable {maxDepth : Int} {visited : List String} {queue : List (String × Nat)}

/-- Induction along a search: what holds when the queue is empty and is kept by a visit holds of all visits. -/
theorem Queued.induction {motive : List String → List String → Prop}
    (queued : Queued graph.targetsOf start maxDepth visited queue)
    (empty : ∀ visited, Queued graph.targetsOf start maxDepth visited [] → motive visited [])
    (visit : ∀ visited id (depth : Nat) queue, id ∉ visited → (depth : Int) ≤ maxDepth →
      Away graph.targetsOf [start] depth id →
      Queued graph.targetsOf start maxDepth (id :: visited) queue →
      (∀ entry ∈ queue, depth ≤ entry.2) →
      motive (id :: visited) (graph.visits maxDepth (id :: visited) queue) →
      motive visited (id :: graph.visits maxDepth (id :: visited) queue)) :
    motive visited (graph.visits maxDepth visited queue) := by
  induction visited, queue using visits.induct graph maxDepth with
  | case1 visited =>
      rw [visits]
      exact empty visited queued
  | case2 visited id depth rest passed ih =>
      rw [visits, if_pos passed]
      apply ih
      apply queued.skip
      simpa using passed
  | case3 visited id depth rest taken ih =>
      rw [visits, if_neg taken]
      simp only [Bool.or_eq_true, List.contains_iff_mem, decide_eq_true_eq, not_or, Int.not_lt] at taken
      have away := queued.nearest taken.1 taken.2
      refine visit visited id depth _ taken.1 taken.2 away (queued.visit away) ?_ (ih (queued.visit away))
      intro entry member
      rcases List.mem_append.mp member with waits | new
      · exact queued.front_le (List.mem_cons_of_mem _ waits)
      · obtain ⟨target, _, rfl⟩ := List.mem_map.mp new
        exact Nat.le_succ depth

/-- The search visits what is near enough and was not visited before. -/
theorem Queued.mem_visits (queued : Queued graph.targetsOf start maxDepth visited queue) :
    ∀ id, id ∈ graph.visits maxDepth visited queue ↔
      id ∉ visited ∧
        ∃ steps : Nat, (steps : Int) ≤ maxDepth ∧ Away graph.targetsOf [start] steps id := by
  apply queued.induction (motive := fun visited ids => ∀ id, id ∈ ids ↔ id ∉ visited ∧
    ∃ steps : Nat, (steps : Int) ≤ maxDepth ∧ Away graph.targetsOf [start] steps id)
  · intro visited queued id
    simp only [List.not_mem_nil, false_iff]
    rintro ⟨unvisited, steps, near, away⟩
    obtain ⟨entry, member, _⟩ := queued.ahead away near unvisited
    cases member
  · intro visited other depth queue unvisited near away _ _ ih id
    rw [List.mem_cons, ih, List.mem_cons, not_or]
    by_cases same : id = other
    · subst same
      simp only [true_or, unvisited, not_false_eq_true, true_and, true_iff]
      exact ⟨depth, near, away⟩
    · simp only [same, false_or, not_false_eq_true, true_and]

theorem Queued.visits_nodup (queued : Queued graph.targetsOf start maxDepth visited queue) :
    (graph.visits maxDepth visited queue).Nodup := by
  apply queued.induction (motive := fun _ ids => ids.Nodup)
  · intro _ _
    exact List.nodup_nil
  · intro visited id depth queue _ _ _ queued _ ih
    rw [List.nodup_cons]
    refine ⟨?_, ih⟩
    intro again
    exact ((queued.mem_visits id).mp again).1 List.mem_cons_self

/-- Nearer nodes are visited first: what is visited later lay behind an entry of the queue. -/
theorem Queued.visits_ordered (queued : Queued graph.targetsOf start maxDepth visited queue) :
    (graph.visits maxDepth visited queue).Pairwise fun earlier later =>
      ∀ left right, Away graph.targetsOf [start] left earlier →
        Away graph.targetsOf [start] right later → left ≤ right := by
  apply queued.induction (motive := fun _ ids => ids.Pairwise fun earlier later =>
    ∀ left right, Away graph.targetsOf [start] left earlier →
      Away graph.targetsOf [start] right later → left ≤ right)
  · intro _ _
    exact List.Pairwise.nil
  · intro visited id depth queue _ _ away queued deeper ih
    rw [List.pairwise_cons]
    refine ⟨?_, ih⟩
    intro later member left right leftAway rightAway
    obtain ⟨unvisited, steps, near, laterAway⟩ := (queued.mem_visits later).mp member
    obtain ⟨entry, waits, bound⟩ := queued.ahead laterAway near unvisited
    have behind := deeper entry waits
    have leftSame := leftAway.unique away
    have rightSame := rightAway.unique laterAway
    omega

end

end ChangeImpact.Graph

namespace ChangeImpact.Impact

variable {graph : Graph}

theorem node?_spec {id : String} {node : Node} (found : graph.node? id = some node) :
    node ∈ graph.nodes ∧ node.id = id := by
  have same := List.find?_some (p := fun candidate : Node => candidate.id == id) found
  exact ⟨List.mem_of_find?_eq_some found, beq_iff_eq.mp same⟩

theorem ids_filterMap_node? (graph : Graph) (ids : List String) :
    (ids.filterMap graph.node?).map Node.id = ids.filter fun id => (graph.node? id).isSome := by
  induction ids with
  | nil => rfl
  | cons id rest ih =>
      cases found : graph.node? id with
      | none => simp [found, ih]
      | some node => simp [found, ih, (node?_spec found).2]

/-- What the nodes of a chain are when it is right: those at most so far from the start, each once and nearer ones
first. -/
structure IsChain (graph : Graph) (start : String) (maxDepth : Int) (nodes : List Node) : Prop where
  present : ∀ node ∈ nodes, node ∈ graph.nodes
  nodup : (nodes.map Node.id).Nodup
  mem_iff : ∀ id, id ∈ nodes.map Node.id ↔
    id ∈ graph.nodes.map Node.id ∧
      ∃ steps : Nat, (steps : Int) ≤ maxDepth ∧ graph.IsDistance (· = id) start steps
  ordered : nodes.Pairwise fun earlier later =>
    ∀ left right, graph.IsDistance (· = earlier.id) start left →
      graph.IsDistance (· = later.id) start right → left ≤ right

theorem isChain_visits (graph : Graph) (start : String) (maxDepth : Int) :
    IsChain graph start maxDepth
      ((graph.visits maxDepth [] [(start, 0)]).filterMap graph.node?) := by
  have queued := Graph.Queued.initial graph.targetsOf start maxDepth
  have kept := ids_filterMap_node? graph (graph.visits maxDepth [] [(start, 0)])
  constructor
  · intro node member
    obtain ⟨id, _, found⟩ := List.mem_filterMap.mp member
    exact (node?_spec found).1
  · rw [kept]
    exact queued.visits_nodup.filter _
  · intro id
    have known : (graph.node? id).isSome ↔ id ∈ graph.nodes.map Node.id := by
      simp [Graph.node?]
    rw [kept, List.mem_filter, queued.mem_visits, known]
    simp only [List.not_mem_nil, not_false_eq_true, true_and, Graph.away_targetsOf_iff]
    exact and_comm
  · have ordered := queued.visits_ordered.filter fun id => (graph.node? id).isSome
    rw [← kept, List.pairwise_map] at ordered
    simpa only [Graph.away_targetsOf_iff] using ordered

/-- Nothing is near enough when no depth is, and nothing but itself is near a node that no edge starts at. -/
theorem IsChain.eq_nil {start : String} {maxDepth : Int} {nodes : List Node}
    (chain : IsChain graph start maxDepth nodes)
    (nowhere : maxDepth < 0 ∨ start ∉ graph.nodes.map Node.id ∧ ∀ edge ∈ graph.edges, edge.source ≠ start) :
    nodes = [] := by
  rw [← List.map_eq_nil_iff (f := Node.id), List.eq_nil_iff_forall_not_mem]
  intro id member
  obtain ⟨present, steps, near, ⟨last, same, walk⟩, _⟩ := (chain.mem_iff id).mp member
  rcases nowhere with negative | ⟨absent, isolated⟩
  · omega
  · cases walk with
    | stay => exact absurd (same ▸ present) absent
    | @along _ edge _ edgeMember _ => exact isolated edge edgeMember rfl

/-- A chain has the labels of what is near enough. -/
theorem chain_exact (graph : Graph) (start : String) (maxDepth : Int) :
    ∃ nodes, chain graph start maxDepth = nodes.map Node.label ∧
      IsChain graph start maxDepth nodes ∧
      (maxDepth < 0 ∨ (start ∉ graph.nodes.map Node.id ∧
        ∀ edge ∈ graph.edges, edge.source ≠ start ∧ edge.target ≠ start) →
        chain graph start maxDepth = []) := by
  have right := isChain_visits graph start maxDepth
  refine ⟨_, rfl, right, ?_⟩
  intro nowhere
  have nothing := right.eq_nil (nowhere.imp_right fun unknown =>
    ⟨unknown.1, fun edge member => (unknown.2 edge member).1⟩)
  rw [chain, nothing]
  rfl

end ChangeImpact.Impact
