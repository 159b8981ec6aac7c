import ChangeImpact.Impact.Basic
import ChangeImpact.Proofs.Distance
import ChangeImpact.Proofs.Score

/-!
What a change touches, by distance. In a graph whose edges join its own nodes the analysis always has an answer;
its direct nodes lie one step from the targets, its transitive ones farther, as far as the depth allows.
-/

set_option autoImplicit false

namespace ChangeImpact.Impact

/-- A node that a change is about: it belongs to the file and, when a function is named, is one of that
name. An empty name names no function. -/
def IsTarget (graph : Graph) (file : String) (function : Option String) (id : String) : Prop :=
  ∃ node ∈ graph.nodes, node.id = id ∧ node.file = some file ∧
    ∀ name, function = some name → name ≠ "" → node.kind = .functionKind ∧ node.name = name

theorem file?_eq_some {node : Node} {file : String} (given : file ≠ "") :
    node.file? = some file ↔ node.file = some file := by
  unfold Node.file?
  rw [Option.filter_eq_some_iff]
  constructor
  · exact fun found => found.1
  · exact fun found => ⟨found, decide_eq_true given⟩

theorem mem_targets {graph : Graph} {file : String} (given : file ≠ "") {function : Option String}
    {id : String} : id ∈ targets graph file function ↔ IsTarget graph file function id := by
  unfold targets IsTarget
  cases named : function.filter (· ≠ "") with
  | none =>
      have unnamed (name : String) (asked : function = some name) : name = "" := by
        subst asked
        by_cases empty : name = ""
        · exact empty
        · rw [Option.filter_some, if_pos (decide_eq_true empty)] at named
          cases named
      simp only [List.mem_map, List.mem_filter, beq_iff_eq, file?_eq_some given]
      constructor
      · rintro ⟨node, ⟨member, inFile⟩, same⟩
        exact ⟨node, member, same, inFile, fun name asked real => absurd (unnamed name asked) real⟩
      · rintro ⟨node, member, same, inFile, _⟩
        exact ⟨node, ⟨member, inFile⟩, same⟩
  | some name =>
      obtain ⟨asked, real⟩ := Option.filter_eq_some_iff.mp named
      simp only [List.mem_map, List.mem_filter, beq_iff_eq, file?_eq_some given, Bool.and_eq_true]
      constructor
      · rintro ⟨node, ⟨⟨member, inFile⟩, kind, called⟩, same⟩
        refine ⟨node, member, same, inFile, ?_⟩
        intro other also _
        have equal : name = other := Option.some.inj (asked.symm.trans also)
        exact ⟨kind, called.trans equal⟩
      · rintro ⟨node, member, same, inFile, isFunction⟩
        exact ⟨node, ⟨⟨member, inFile⟩, isFunction name asked (of_decide_eq_true real)⟩, same⟩

/-! ### Ids that are nodes -/

theorem node?_exists {graph : Graph} {id : String} (present : id ∈ graph.nodes.map Node.id) :
    ∃ node, graph.node? id = some node := by
  obtain ⟨node, member, same⟩ := List.mem_map.mp present
  cases found : graph.node? id with
  | some other => exact ⟨other, rfl⟩
  | none =>
      unfold Graph.node? at found
      rw [List.find?_eq_none] at found
      exact absurd (beq_iff_eq.mpr same) (found node member)

theorem nodesOf_exists {graph : Graph} {ids : List String}
    (present : ∀ id ∈ ids, id ∈ graph.nodes.map Node.id) :
    ∃ nodes, nodesOf graph ids = .ok nodes := by
  induction ids with
  | nil => exact ⟨[], rfl⟩
  | cons id rest ih =>
      obtain ⟨node, found⟩ := node?_exists (present id List.mem_cons_self)
      obtain ⟨nodes, others⟩ := ih fun other member => present other (List.mem_cons_of_mem _ member)
      refine ⟨node :: nodes, ?_⟩
      unfold nodesOf
      rw [found, others]
      rfl

theorem filesOf_exists {graph : Graph} {ids : List String} (leftOut : List String)
    (present : ∀ id ∈ ids, id ∈ graph.nodes.map Node.id) :
    ∃ files, filesOf graph ids leftOut = .ok files := by
  obtain ⟨nodes, found⟩ := nodesOf_exists present
  unfold filesOf
  rw [found]
  exact ⟨_, rfl⟩

/-- Whatever depends on something is a node of a closed graph. -/
theorem mem_ids_of_away {graph : Graph} (closed : graph.Closed) {goals : List String} {steps : Nat}
    {id : String} (positive : 0 < steps) (away : Graph.Away graph.sourcesOf goals steps id) :
    id ∈ graph.nodes.map Node.id := by
  obtain ⟨fewer, rfl⟩ : ∃ fewer, steps = fewer + 1 := ⟨steps - 1, by omega⟩
  obtain ⟨nearer, _, member⟩ := away.previous
  obtain ⟨edge, present, rfl, _⟩ := Graph.mem_sourcesOf.mp member
  exact (closed edge present).1

/-! ### The two lists of dependents -/

section

variable (graph : Graph) (chosen : List String) (maxDepth : Int)

theorem layered_direct :
    Graph.Layered graph.sourcesOf chosen 1 (chosen ++ directNodes graph chosen)
      (directNodes graph chosen) :=
  Graph.Layered.initial.step

theorem mem_directNodes (id : String) :
    id ∈ directNodes graph chosen ↔ Graph.Away graph.sourcesOf chosen 1 id :=
  (layered_direct graph chosen).mem_layer id

theorem transitiveNodes_eq_beyond (direct : List String) :
    transitiveNodes graph chosen direct maxDepth =
      Graph.beyond graph.sourcesOf maxDepth.toNat (chosen ++ direct) direct :=
  graph.spread_eq_beyond maxDepth.toNat (by omega) (chosen ++ direct) direct

theorem mem_transitiveNodes (id : String) :
    id ∈ transitiveNodes graph chosen (directNodes graph chosen) maxDepth ↔
      ∃ steps : Nat, 2 ≤ steps ∧ (steps : Int) ≤ maxDepth + 1 ∧
        Graph.Away graph.sourcesOf chosen steps id := by
  rw [transitiveNodes_eq_beyond, (layered_direct graph chosen).mem_beyond]
  constructor
  · rintro ⟨steps, far, near, away⟩
    exact ⟨steps, by omega, by omega, away⟩
  · rintro ⟨steps, far, near, away⟩
    exact ⟨steps, by omega, by omega, away⟩

theorem transitiveNodes_nodup :
    (transitiveNodes graph chosen (directNodes graph chosen) maxDepth).Nodup := by
  rw [transitiveNodes_eq_beyond]
  exact (layered_direct graph chosen).beyond_nodup _

theorem dependents_nodup :
    (directNodes graph chosen ++
      transitiveNodes graph chosen (directNodes graph chosen) maxDepth).Nodup := by
  rw [List.nodup_append]
  refine ⟨fresh_nodup _ _, transitiveNodes_nodup graph chosen maxDepth, ?_⟩
  rintro id direct other transitive rfl
  obtain ⟨steps, far, _, away⟩ := (mem_transitiveNodes graph chosen maxDepth id).mp transitive
  have same := away.unique ((mem_directNodes graph chosen id).mp direct)
  omega

/-- All dependents are different nodes, so there are no more of them than nodes. -/
theorem dependents_length_le (closed : graph.Closed) :
    (directNodes graph chosen).length +
        (transitiveNodes graph chosen (directNodes graph chosen) maxDepth).length ≤
      graph.nodes.length := by
  rw [← List.length_append, ← List.length_map Node.id]
  apply (dependents_nodup graph chosen maxDepth).length_le_of_subset
  intro id member
  rcases List.mem_append.mp member with direct | transitive
  · exact mem_ids_of_away closed Nat.one_pos ((mem_directNodes graph chosen id).mp direct)
  · obtain ⟨steps, far, _, away⟩ := (mem_transitiveNodes graph chosen maxDepth id).mp transitive
    exact mem_ids_of_away closed (by omega) away

end

/-- Without targets there are no dependents. -/
theorem transitiveNodes_nil (graph : Graph) (maxDepth : Int) :
    transitiveNodes graph [] (directNodes graph []) maxDepth = [] := by
  unfold transitiveNodes
  rw [directNodes, List.flatMap_nil, fresh, List.map_nil, Graph.spread]

/-- In a closed graph the analysis has an answer, which holds the two lists of dependents. -/
theorem analyze_exists {graph : Graph} (closed : graph.Closed)
    (findings : List Store.StoredFinding) (file : String) (function : Option String)
    (maxDepth : Int) :
    ∃ result, analyze graph findings file function maxDepth = .ok result ∧
      result.directNodes = directNodes graph (targets graph file function) ∧
      result.transitiveNodes =
        transitiveNodes graph (targets graph file function)
          (directNodes graph (targets graph file function)) maxDepth := by
  unfold analyze
  dsimp only
  split
  · rename_i empty
    rw [List.isEmpty_iff.mp empty]
    exact ⟨_, rfl, rfl, (transitiveNodes_nil graph maxDepth).symm⟩
  · have directPresent : ∀ id ∈ directNodes graph (targets graph file function),
        id ∈ graph.nodes.map Node.id := by
      intro id member
      exact mem_ids_of_away closed Nat.one_pos ((mem_directNodes _ _ id).mp member)
    have transitivePresent : ∀ id ∈ transitiveNodes graph (targets graph file function)
        (directNodes graph (targets graph file function)) maxDepth,
        id ∈ graph.nodes.map Node.id := by
      intro id member
      obtain ⟨steps, far, _, away⟩ := (mem_transitiveNodes _ _ _ id).mp member
      exact mem_ids_of_away closed (by omega) away
    obtain ⟨directFiles, direct⟩ := filesOf_exists [file] directPresent
    obtain ⟨transitiveFiles, transitive⟩ :=
      filesOf_exists (file :: directFiles) transitivePresent
    obtain ⟨percent, scored⟩ :=
      score_exists (dependents_length_le graph (targets graph file function) maxDepth closed)
    rw [direct, scored]
    change ∃ result, (filesOf graph _ (file :: directFiles) >>= fun _ => _) = Except.ok result ∧ _
    rw [transitive]
    exact ⟨_, rfl, rfl, rfl⟩

/-- What a result says when its two lists of nodes are right: direct nodes lie at distance one from the goal,
transitive ones from distance two to one beyond the depth, each node once and nearer ones first. -/
structure Result.IsExact (graph : Graph) (goal : String → Prop) (maxDepth : Int) (result : Result) :
    Prop where
  direct_nodup : result.directNodes.Nodup
  mem_direct : ∀ id, id ∈ result.directNodes ↔ graph.IsDistance goal id 1
  transitive_nodup : result.transitiveNodes.Nodup
  mem_transitive : ∀ id, id ∈ result.transitiveNodes ↔
    ∃ steps : Nat, 2 ≤ steps ∧ (steps : Int) ≤ maxDepth + 1 ∧ graph.IsDistance goal id steps
  ordered : result.transitiveNodes.Pairwise fun earlier later =>
    ∀ left right, graph.IsDistance goal earlier left → graph.IsDistance goal later right →
      left ≤ right

/-- The analysis of a closed graph has an answer, and its lists are those of the distances. -/
theorem analyze_exact (graph : Graph) (closed : graph.Closed)
    (findings : List Store.StoredFinding) (file : String) (given : file ≠ "")
    (function : Option String) (maxDepth : Int) :
    ∃ result, analyze graph findings file function maxDepth = .ok result ∧
      result.IsExact graph (IsTarget graph file function) maxDepth := by
  obtain ⟨result, answered, direct, transitive⟩ :=
    analyze_exists closed findings file function maxDepth
  have sameTargets : IsTarget graph file function = (· ∈ targets graph file function) :=
    funext fun id => propext (mem_targets given).symm
  refine ⟨result, answered, ?_, ?_, ?_, ?_, ?_⟩
  · rw [direct]
    exact fresh_nodup _ _
  · intro id
    rw [direct, mem_directNodes, Graph.away_sourcesOf_iff, sameTargets]
  · rw [transitive]
    exact transitiveNodes_nodup _ _ _
  · intro id
    rw [transitive, mem_transitiveNodes, sameTargets]
    simp only [Graph.away_sourcesOf_iff]
  · rw [transitive, sameTargets, transitiveNodes_eq_beyond]
    simp only [← Graph.away_sourcesOf_iff]
    exact (layered_direct graph (targets graph file function)).beyond_ordered _

/-- Three functions that call each other in a ring, one of them twice and one also itself. -/
def callRing : Graph :=
  { analysis := "ring"
    nodes :=
      [{ id := "a", analysis := "ring", kind := .functionKind, name := "first", file := some "a.py" },
        { id := "b", analysis := "ring", kind := .functionKind, name := "second", file := some "b.py" },
        { id := "c", analysis := "ring", kind := .functionKind, name := "third", file := some "c.py" }]
    edges :=
      [{ id := "ba", analysis := "ring", source := "b", target := "a", kind := .calls },
        { id := "ba again", analysis := "ring", source := "b", target := "a", kind := .calls },
        { id := "cb", analysis := "ring", source := "c", target := "b", kind := .calls },
        { id := "cc", analysis := "ring", source := "c", target := "c", kind := .calls },
        { id := "ac", analysis := "ring", source := "a", target := "c", kind := .calls }] }

theorem callRing_closed : callRing.Closed := by
  unfold Graph.Closed callRing
  simp

theorem analyze_exact_callRing :
    callRing.Closed ∧ "a.py" ≠ "" ∧
      ∃ result, analyze callRing [] "a.py" (some "first") 1 = .ok result ∧
        result.IsExact callRing (IsTarget callRing "a.py" (some "first")) 1 :=
  ⟨callRing_closed, by decide,
    analyze_exact callRing callRing_closed [] "a.py" (by decide) (some "first") 1⟩

end ChangeImpact.Impact
