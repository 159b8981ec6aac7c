import ChangeImpact.Proofs.Monotone

/-!
The files that a change touches. An answer lists them three times: those of the direct dependents, those that only
transitive dependents add, and both together. Each list rises, none names the changed file, and what they hold is
decided by the files of the dependents alone.
-/

set_option autoImplicit false

namespace ChangeImpact.Impact

variable {graph : Graph} {findings : List Store.StoredFinding} {file : String} {function : Option String}
  {maxDepth : Int} {result : Result}

/-- A node with one of the ids is in the file. A node without a file, or with an empty one, is in none. -/
def InFile (graph : Graph) (ids : List String) (path : String) : Prop :=
  path ≠ "" ∧ ∃ id ∈ ids, ∃ node, graph.node? id = some node ∧ node.file = some path

theorem inFile_iff {ids : List String} {path : String} :
    InFile graph ids path ↔ ∃ id ∈ ids, (graph.node? id).bind Node.file? = some path := by
  unfold InFile
  constructor
  · rintro ⟨real, id, among, node, here, inFile⟩
    exact ⟨id, among, Option.bind_eq_some_iff.mpr ⟨node, here, (file?_eq_some real).mpr inFile⟩⟩
  · rintro ⟨id, among, found⟩
    obtain ⟨node, here, inFile⟩ := Option.bind_eq_some_iff.mp found
    have real : path ≠ "" := of_decide_eq_true (Option.filter_eq_some_iff.mp inFile).2
    exact ⟨real, id, among, node, here, (file?_eq_some real).mp inFile⟩

theorem sorted_ascending {texts : List String} (single : texts.Nodup) :
    (Text.sorted texts).Pairwise fun left right => left < right := by
  have alike : texts.map id = texts := List.map_id texts
  exact @mergeSort_ascending String id texts (alike.symm ▸ single)

theorem filesOf_ascending {ids leftOut files : List String} (found : filesOf graph ids leftOut = .ok files) :
    files.Pairwise fun left right => left < right := by
  unfold filesOf at found
  obtain ⟨nodes, _, same⟩ := Outcome.bind_ok found
  cases same
  exact sorted_ascending ((distinct_nodup _).filter _)

structure Result.ListsFiles (graph : Graph) (result : Result) : Prop where
  direct_ascending : result.directFiles.Pairwise fun left right => left < right
  transitive_ascending : result.transitiveFiles.Pairwise fun left right => left < right
  affected_ascending : result.affectedFiles.Pairwise fun left right => left < right
  target_notMem : ∀ files ∈ [result.directFiles, result.transitiveFiles, result.affectedFiles],
    result.targetFile ∉ files
  disjoint : result.directFiles.Disjoint result.transitiveFiles
  union : ∀ path, path ∈ result.affectedFiles ↔ path ∈ result.directFiles ∨ path ∈ result.transitiveFiles
  mem_direct : ∀ path, path ∈ result.directFiles ↔
    path ≠ result.targetFile ∧ InFile graph result.directNodes path
  mem_affected : ∀ path, path ∈ result.affectedFiles ↔
    path ≠ result.targetFile ∧ InFile graph (result.directNodes ++ result.transitiveNodes) path

theorem analyze_listsFiles (answered : analyze graph findings file function maxDepth = .ok result) :
    result.ListsFiles graph := by
  obtain ⟨target, direct, transitive, affected⟩ := analyze_files answered
  have inDirect : ∀ path, path ∈ result.directFiles ↔ path ≠ file ∧ InFile graph result.directNodes path := by
    intro path
    rw [mem_filesOf direct, List.mem_singleton, inFile_iff]
  have inTransitive : ∀ path, path ∈ result.transitiveFiles ↔
      (path ≠ file ∧ path ∉ result.directFiles) ∧ InFile graph result.transitiveNodes path := by
    intro path
    rw [mem_filesOf transitive, List.mem_cons, not_or, inFile_iff]
  have union : ∀ path, path ∈ result.affectedFiles ↔
      path ∈ result.directFiles ∨ path ∈ result.transitiveFiles := by
    intro path
    rw [affected, Text.sorted, List.mem_mergeSort, mem_distinct, List.mem_append]
  have inAffected : ∀ path, path ∈ result.affectedFiles ↔
      path ≠ file ∧ InFile graph (result.directNodes ++ result.transitiveNodes) path := by
    intro path
    rw [(affectedFiles_score answered).1, Result.dependents, inFile_iff]
  have notDirect : file ∉ result.directFiles := fun member => ((inDirect file).mp member).1 rfl
  have notTransitive : file ∉ result.transitiveFiles := fun member => ((inTransitive file).mp member).1.1 rfl
  have notAffected : file ∉ result.affectedFiles := fun member => ((inAffected file).mp member).1 rfl
  exact {
    direct_ascending := filesOf_ascending direct
    transitive_ascending := filesOf_ascending transitive
    affected_ascending := affected ▸ sorted_ascending (distinct_nodup _)
    target_notMem := by
      simp only [target, List.forall_mem_cons]
      exact ⟨notDirect, notTransitive, notAffected, List.forall_mem_nil _⟩
    disjoint := fun path inFirst inSecond => ((inTransitive path).mp inSecond).1.2 inFirst
    union := union
    mem_direct := target ▸ inDirect
    mem_affected := target ▸ inAffected }

/-- The analysis of a closed graph has an answer for the file asked about, with the nodes one step from the targets and
those as far as the depth allows, and its lists of files are right for them. -/
theorem affected_files_exact (graph : Graph) (closed : graph.Closed) (findings : List Store.StoredFinding)
    (file : String) (function : Option String) (maxDepth : Int) :
    ∃ result, analyze graph findings file function maxDepth = .ok result ∧
      result.targetFile = file ∧
      result.directNodes = directNodes graph (targets graph file function) ∧
      result.transitiveNodes =
        transitiveNodes graph (targets graph file function)
          (directNodes graph (targets graph file function)) maxDepth ∧
      result.ListsFiles graph := by
  obtain ⟨result, answered, direct, transitive⟩ := analyze_exists closed findings file function maxDepth
  exact ⟨result, answered, (analyze_files answered).1, direct, transitive, analyze_listsFiles answered⟩

/-- A function with callers in its own file, in files that are reached twice, and in no file at all. -/
def sharedCallers : Graph :=
  { analysis := "shared"
    nodes :=
      [{ id := "goal", analysis := "shared", kind := .functionKind, name := "goal", file := some "a.py" },
        { id := "beside", analysis := "shared", kind := .functionKind, name := "beside", file := some "a.py" },
        { id := "near", analysis := "shared", kind := .functionKind, name := "near", file := some "b.py" },
        { id := "nearer", analysis := "shared", kind := .functionKind, name := "nearer", file := some "B.py" },
        { id := "again", analysis := "shared", kind := .functionKind, name := "again", file := some "b.py" },
        { id := "far", analysis := "shared", kind := .functionKind, name := "far", file := some "c.py" },
        { id := "empty", analysis := "shared", kind := .functionKind, name := "empty", file := some "" },
        { id := "nowhere", analysis := "shared", kind := .functionKind, name := "nowhere" }]
    edges :=
      [{ id := "1", analysis := "shared", source := "beside", target := "goal", kind := .calls },
        { id := "2", analysis := "shared", source := "near", target := "goal", kind := .calls },
        { id := "3", analysis := "shared", source := "nearer", target := "goal", kind := .calls },
        { id := "4", analysis := "shared", source := "empty", target := "goal", kind := .calls },
        { id := "5", analysis := "shared", source := "nowhere", target := "goal", kind := .calls },
        { id := "6", analysis := "shared", source := "again", target := "near", kind := .calls },
        { id := "7", analysis := "shared", source := "far", target := "again", kind := .calls },
        { id := "8", analysis := "shared", source := "goal", target := "far", kind := .calls }] }

theorem affected_files_exact_sharedCallers :
    sharedCallers.Closed ∧
      ∃ result, analyze sharedCallers [] "a.py" (some "goal") 2 = .ok result ∧
        result.targetFile = "a.py" ∧
        result.directNodes = ["beside", "near", "nearer", "empty", "nowhere"] ∧
        result.transitiveNodes = ["again", "far"] ∧
        result.ListsFiles sharedCallers := by
  have closed : sharedCallers.Closed := by
    unfold Graph.Closed sharedCallers
    simp
  have direct : directNodes sharedCallers (targets sharedCallers "a.py" (some "goal")) =
      ["beside", "near", "nearer", "empty", "nowhere"] := by
    decide +kernel
  have transitive : transitiveNodes sharedCallers (targets sharedCallers "a.py" (some "goal"))
      ["beside", "near", "nearer", "empty", "nowhere"] 2 = ["again", "far"] := by
    rw [transitiveNodes_eq_beyond]
    decide +kernel
  obtain ⟨result, answered, target, one, more, files⟩ :=
    affected_files_exact sharedCallers closed [] "a.py" (some "goal") 2
  rw [direct] at one more
  rw [transitive] at more
  exact ⟨closed, result, answered, target, one, more, files⟩

end ChangeImpact.Impact
