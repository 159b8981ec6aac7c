import ChangeImpact.Proofs.Dependents
import ChangeImpact.Proofs.Outcome
import ChangeImpact.Proofs.Rounding
import Mathlib.Algebra.Order.Floor.Semifield
import Mathlib.Data.List.Nodup
import Mathlib.Data.Rat.Floor

/-!
More edges and more depth never take anything from what a change touches. A node may come nearer and so move from one
list of dependents to the other, but it stays among them; with the nodes the files and the score grow.
-/

set_option autoImplicit false

namespace ChangeImpact

namespace Graph

/-! ### Nodes that come nearer -/

section

variable {next wider : String → List String} {starts others : List String}

theorem Reaches.mono (steps : ∀ id, next id ⊆ wider id) (begins : starts ⊆ others) {count : Nat}
    {id : String} (reached : Reaches next starts count id) : Reaches wider others count id := by
  induction reached with
  | start member => exact Reaches.start (begins member)
  | step _ member ih => exact Reaches.step ih (steps _ member)

theorem away_zero (next : String → List String) (starts : List String) (id : String) :
    Away next starts 0 id ↔ id ∈ starts :=
  (Layered.initial.mem_layer id).symm

/-- What is not a start comes nearer, if at all, when there are more steps to take. -/
theorem Away.nearer (steps : ∀ id, next id ⊆ wider id) (same : ∀ id, id ∈ starts ↔ id ∈ others)
    {count : Nat} {id : String} (positive : 0 < count) (away : Away next starts count id) :
    ∃ least, 0 < least ∧ least ≤ count ∧ Away wider others least id := by
  obtain ⟨least, bound, nearer⟩ := (away.1.mono steps fun id => (same id).mp).away
  refine ⟨least, ?_, bound, nearer⟩
  by_contra none
  have start : least = 0 := by omega
  rw [start, away_zero, ← same, ← away_zero next] at nearer
  have both := nearer.unique away
  omega

end

/-- Two graphs of the same nodes, in whatever order these are listed: there are as many of them, and an id stands for
the same node in both. -/
structure SameNodes (first second : Graph) : Prop where
  perm : first.nodes.Perm second.nodes
  find : ∀ id, first.node? id = second.node? id

theorem node?_eq_some {graph : Graph} (distinct : (graph.nodes.map Node.id).Nodup) {id : String} {node : Node} :
    graph.node? id = some node ↔ node ∈ graph.nodes ∧ node.id = id := by
  unfold node?
  constructor
  · intro found
    exact ⟨List.mem_of_find?_eq_some found, by simpa using List.find?_some found⟩
  · rintro ⟨member, rfl⟩
    cases found : graph.nodes.find? fun other => other.id == node.id with
    | none => exact absurd (beq_self_eq_true _) (List.find?_eq_none.mp found node member)
    | some other =>
        have same : other.id = node.id := by simpa using List.find?_some found
        rw [List.inj_on_of_nodup_map distinct (List.mem_of_find?_eq_some found) member same]

/-- When ids are distinct, the order of the nodes says nothing. -/
theorem SameNodes.of_perm {first second : Graph} (distinct : (first.nodes.map Node.id).Nodup)
    (perm : first.nodes.Perm second.nodes) : SameNodes first second := by
  refine ⟨perm, ?_⟩
  intro id
  apply Option.ext
  intro node
  rw [node?_eq_some distinct, node?_eq_some ((perm.map Node.id).nodup_iff.mp distinct), perm.mem_iff]

theorem sourcesOf_subset {first second : Graph} (grown : first.edges ⊆ second.edges) (id : String) :
    first.sourcesOf id ⊆ second.sourcesOf id := by
  intro source member
  obtain ⟨edge, present, ends⟩ := mem_sourcesOf.mp member
  exact mem_sourcesOf.mpr ⟨edge, grown present, ends⟩

end Graph

namespace Impact

/-! ### Scores -/

/-- A half is added to the rounded quotient, the sum is rounded again, and its whole part counts. -/
theorem roundedQuotient_ok {numerator denominator percent : Nat}
    (found : roundedQuotient numerator denominator = .ok percent) :
    ∃ top bottom : Nat, 0 < top ∧ 0 < bottom ∧
      (top : ℚ) / bottom = Binary64.value (Binary64.roundRatio numerator denominator) + 1 / 2 ∧
      percent = ⌊Binary64.value (Binary64.roundRatio top bottom)⌋₊ := by
  unfold roundedQuotient at found
  dsimp only at found
  split at found
  · cases found
  · have positive := Binary64.ratio_pos (Binary64.roundRatio numerator denominator).1
      (Binary64.roundRatio numerator denominator).2
    have exact := Binary64.quotient_ratio (Binary64.roundRatio numerator denominator).1
      (Binary64.roundRatio numerator denominator).2
    generalize Binary64.ratio (Binary64.roundRatio numerator denominator).1
      (Binary64.roundRatio numerator denominator).2 = parts at found positive exact
    refine ⟨2 * parts.1 + parts.2, 2 * parts.2, by omega, by omega, ?_, ?_⟩
    · have nonzero : (parts.2 : ℚ) ≠ 0 := by exact_mod_cast Nat.ne_of_gt positive
      have unfolded : (parts.1 : ℚ) / parts.2 = Binary64.value (Binary64.roundRatio numerator denominator) := exact
      rw [← unfolded]
      push_cast
      field_simp
    · have whole := Binary64.quotient_ratio (Binary64.roundRatio (2 * parts.1 + parts.2) (2 * parts.2)).1
        (Binary64.roundRatio (2 * parts.1 + parts.2) (2 * parts.2)).2
      cases found
      rw [← Nat.floor_div_eq_div (K := ℚ)]
      exact congrArg Nat.floor whole

theorem roundedQuotient_mono {less more whole left right : Nat} (positive : 0 < less) (total : 0 < whole)
    (bound : less ≤ more) (one : roundedQuotient less whole = .ok left)
    (two : roundedQuotient more whole = .ok right) : left ≤ right := by
  obtain ⟨top, bottom, topPos, bottomPos, sum, rfl⟩ := roundedQuotient_ok one
  obtain ⟨otherTop, otherBottom, otherTopPos, otherBottomPos, otherSum, rfl⟩ := roundedQuotient_ok two
  have quotients : (less : ℚ) / whole ≤ more / whole :=
    div_le_div_of_nonneg_right (by exact_mod_cast bound) (Nat.cast_nonneg whole)
  have rounded := Binary64.roundRatio_mono positive total (by omega) total quotients
  apply Nat.floor_mono
  apply Binary64.roundRatio_mono topPos bottomPos otherTopPos otherBottomPos
  rw [sum, otherSum]
  exact add_le_add_left rounded _

theorem score_mono {less more whole left right : Nat} (bound : less ≤ more)
    (one : score (Int.ofNat less) (Int.ofNat whole) = .ok left)
    (two : score (Int.ofNat more) (Int.ofNat whole) = .ok right) : left ≤ right := by
  unfold score at one two
  simp only [Int.ofNat_eq_natCast, Int.toNat_natCast] at one two
  by_cases nothing : (whole : Int) ≤ 0 ∨ (less : Int) ≤ 0
  · rw [if_pos nothing] at one
    cases one
    exact Nat.zero_le right
  · have something : ¬((whole : Int) ≤ 0 ∨ (more : Int) ≤ 0) := by omega
    rw [if_neg nothing] at one
    rw [if_neg something] at two
    obtain ⟨first, roundedFirst, same⟩ := Outcome.bind_ok one
    cases same
    obtain ⟨second, roundedSecond, same⟩ := Outcome.bind_ok two
    cases same
    have rounded := roundedQuotient_mono (by omega) (by omega) (Nat.mul_le_mul_left 100 bound) roundedFirst
      roundedSecond
    omega

/-! ### The parts of a result -/

variable {graph : Graph} {findings : List Store.StoredFinding} {file : String} {function : Option String}
  {maxDepth : Int} {result : Result}

theorem mem_nodesOf {ids : List String} {nodes : List Node} (found : nodesOf graph ids = .ok nodes)
    {node : Node} : node ∈ nodes ↔ ∃ id ∈ ids, graph.node? id = some node := by
  induction ids generalizing nodes with
  | nil =>
      cases found
      simp
  | cons id rest ih =>
      unfold nodesOf at found
      split at found
      · cases found
      · rename_i first here
        obtain ⟨others, there, same⟩ := Outcome.bind_ok found
        cases same
        simp only [List.mem_cons, ih there, exists_eq_or_imp, here, Option.some.injEq]
        rw [eq_comm]

theorem mem_filesOf {ids leftOut files : List String} (found : filesOf graph ids leftOut = .ok files)
    {path : String} :
    path ∈ files ↔ path ∉ leftOut ∧ ∃ id ∈ ids, (graph.node? id).bind Node.file? = some path := by
  unfold filesOf at found
  obtain ⟨nodes, listed, same⟩ := Outcome.bind_ok found
  cases same
  have member := @mem_nodesOf graph ids nodes listed
  simp only [Text.sorted, List.mem_mergeSort, List.mem_filter, mem_distinct, List.mem_filterMap, member,
    Option.bind_eq_some_iff]
  constructor
  · rintro ⟨⟨node, ⟨id, among, here⟩, inFile⟩, outside⟩
    exact ⟨by simpa using outside, id, among, node, here, inFile⟩
  · rintro ⟨outside, id, among, node, here, inFile⟩
    exact ⟨⟨node, ⟨id, among, here⟩, inFile⟩, by simpa using outside⟩

def Result.dependents (result : Result) : List String := result.directNodes ++ result.transitiveNodes

/-- The files of an answer are those of its nodes: the direct ones without the target, the transitive ones without the
direct ones as well, and both together as the affected ones. -/
theorem analyze_files (answered : analyze graph findings file function maxDepth = .ok result) :
    result.targetFile = file ∧
    filesOf graph result.directNodes [file] = .ok result.directFiles ∧
    filesOf graph result.transitiveNodes (file :: result.directFiles) = .ok result.transitiveFiles ∧
    result.affectedFiles = Text.sorted (distinct (result.directFiles ++ result.transitiveFiles)) := by
  unfold analyze at answered
  dsimp only at answered
  split at answered
  · cases answered
    have nothing : ∀ leftOut, filesOf graph [] leftOut = .ok [] := by
      intro leftOut
      unfold filesOf
      exact congrArg Except.ok List.mergeSort_nil
    exact ⟨rfl, nothing _, nothing _, List.mergeSort_nil.symm⟩
  · obtain ⟨directFiles, direct, answered⟩ := Outcome.bind_ok answered
    obtain ⟨transitiveFiles, transitive, answered⟩ := Outcome.bind_ok answered
    obtain ⟨percent, scored, same⟩ := Outcome.bind_ok answered
    cases same
    exact ⟨rfl, direct, transitive, rfl⟩

theorem affectedFiles_score (answered : analyze graph findings file function maxDepth = .ok result) :
    (∀ path, path ∈ result.affectedFiles ↔
      path ≠ file ∧ ∃ id ∈ result.dependents, (graph.node? id).bind Node.file? = some path) ∧
    score (Int.ofNat result.dependents.length) (Int.ofNat graph.nodes.length) = .ok result.score := by
  constructor
  · obtain ⟨_, direct, transitive, affected⟩ := analyze_files answered
    intro path
    rw [affected]
    unfold Result.dependents
    simp only [Text.sorted, List.mem_mergeSort, mem_distinct, List.mem_append, mem_filesOf direct,
      mem_filesOf transitive, List.mem_cons, List.not_mem_nil]
    grind
  · unfold analyze at answered
    dsimp only at answered
    split at answered
    · cases answered
      unfold score
      rw [if_pos (Or.inr (by exact Int.le_refl 0))]
    · obtain ⟨directFiles, direct, answered⟩ := Outcome.bind_ok answered
      obtain ⟨transitiveFiles, transitive, answered⟩ := Outcome.bind_ok answered
      obtain ⟨percent, scored, same⟩ := Outcome.bind_ok answered
      cases same
      unfold Result.dependents
      dsimp only
      rw [List.length_append]
      cases found : score _ _ with
      | error fault =>
          rw [found] at scored
          cases scored
      | ok value =>
          rw [found] at scored
          cases scored
          rfl

/-! ### More edges and more depth -/

theorem mem_dependents (graph : Graph) (chosen : List String) (maxDepth : Int) (id : String) :
    id ∈ directNodes graph chosen ++ transitiveNodes graph chosen (directNodes graph chosen) maxDepth ↔
      ∃ steps : Nat, 0 < steps ∧ (steps : Int) ≤ max 1 (maxDepth + 1) ∧
        Graph.Away graph.sourcesOf chosen steps id := by
  rw [List.mem_append, mem_directNodes, mem_transitiveNodes]
  constructor
  · rintro (away | ⟨steps, far, near, away⟩)
    · exact ⟨1, Nat.one_pos, Int.le_max_left _ _, away⟩
    · exact ⟨steps, by omega, by omega, away⟩
  · rintro ⟨steps, positive, near, away⟩
    by_cases one : steps = 1
    · exact Or.inl (one ▸ away)
    · exact Or.inr ⟨steps, by omega, by omega, away⟩

section

variable {first second : Graph} (same : first.SameNodes second)

include same

theorem mem_targets_congr (file : String) (function : Option String) (id : String) :
    id ∈ targets first file function ↔ id ∈ targets second file function := by
  have ofFile := same.perm.filter fun node => node.file? == some file
  apply List.Perm.mem_iff
  apply List.Perm.map
  cases function.filter (· ≠ "") with
  | none => exact ofFile
  | some name => exact ofFile.filter _

/-- A dependent stays one when edges are added and the search may go deeper: it lies no farther away than before. -/
theorem dependents_mono (grown : first.edges ⊆ second.edges) {depth deeper : Int} (further : depth ≤ deeper)
    (file : String) (function : Option String) {id : String}
    (member : id ∈ directNodes first (targets first file function) ++
      transitiveNodes first (targets first file function)
        (directNodes first (targets first file function)) depth) :
    id ∈ directNodes second (targets second file function) ++
      transitiveNodes second (targets second file function)
        (directNodes second (targets second file function)) deeper := by
  rw [mem_dependents] at member ⊢
  obtain ⟨steps, positive, near, away⟩ := member
  obtain ⟨least, some, bound, nearer⟩ := away.nearer (Graph.sourcesOf_subset grown)
    (mem_targets_congr same file function) positive
  exact ⟨least, some, by omega, nearer⟩

/-- With more edges between the same nodes and at least the same depth, a change touches at least the same nodes and
files, and its score is not lower. -/
theorem analyze_mono (firstClosed : first.Closed) (secondClosed : second.Closed)
    (grown : first.edges ⊆ second.edges) {depth deeper : Int} (further : depth ≤ deeper)
    (findings others : List Store.StoredFinding) (file : String) (function : Option String) :
    ∃ before after,
      analyze first findings file function depth = .ok before ∧
      analyze second others file function deeper = .ok after ∧
      before.dependents ⊆ after.dependents ∧
      before.affectedFiles ⊆ after.affectedFiles ∧
      before.score ≤ after.score := by
  obtain ⟨before, answered, direct, transitive⟩ := analyze_exists firstClosed findings file function depth
  obtain ⟨after, answeredToo, directToo, transitiveToo⟩ :=
    analyze_exists secondClosed others file function deeper
  obtain ⟨files, scored⟩ := affectedFiles_score answered
  obtain ⟨filesToo, scoredToo⟩ := affectedFiles_score answeredToo
  have dependents : before.dependents ⊆ after.dependents := by
    intro id member
    unfold Result.dependents at member ⊢
    rw [direct, transitive] at member
    rw [directToo, transitiveToo]
    exact dependents_mono same grown further file function member
  have distinct : before.dependents.Nodup := by
    unfold Result.dependents
    rw [direct, transitive]
    exact dependents_nodup _ _ _
  refine ⟨before, after, answered, answeredToo, dependents, ?_, ?_⟩
  · intro path member
    obtain ⟨other, id, among, inFile⟩ := (files path).mp member
    rw [same.find] at inFile
    exact (filesToo path).mpr ⟨other, id, dependents among, inFile⟩
  · rw [same.perm.length_eq] at scored
    exact score_mono (distinct.length_le_of_subset dependents) scored scoredToo

end

/-- The ring with its nodes listed the other way round, before the third function called the second. -/
def brokenRing : Graph :=
  { callRing with
    nodes := callRing.nodes.reverse
    edges := callRing.edges.filter fun edge => edge.id ≠ "cb" }

theorem brokenRing_sameNodes : brokenRing.SameNodes callRing := by
  apply Graph.SameNodes.of_perm
  · decide
  · exact List.reverse_perm _

theorem analyze_mono_brokenRing :
    brokenRing.SameNodes callRing ∧ brokenRing.Closed ∧ callRing.Closed ∧
      ∃ before after,
        analyze brokenRing [] "a.py" (some "first") 0 = .ok before ∧
        analyze callRing [] "a.py" (some "first") 1 = .ok after ∧
        before.dependents ⊆ after.dependents ∧
        before.affectedFiles ⊆ after.affectedFiles ∧
        before.score ≤ after.score := by
  have closed : brokenRing.Closed := by
    unfold Graph.Closed brokenRing callRing
    simp
  have grown : brokenRing.edges ⊆ callRing.edges := List.filter_subset_self _
  exact ⟨brokenRing_sameNodes, closed, callRing_closed,
    analyze_mono brokenRing_sameNodes closed callRing_closed grown (by decide) [] [] "a.py" (some "first")⟩

end Impact

end ChangeImpact
