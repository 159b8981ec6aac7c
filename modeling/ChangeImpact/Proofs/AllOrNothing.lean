import ChangeImpact.Proofs.Atomicity
import ChangeImpact.Proofs.Stopping
import ChangeImpact.Proofs.StoredGraphs

/-!
A build is all or nothing. Whatever makes it fail, and wherever in the storing of its graph, its analysis is left without
a graph and everything else as it was.
-/

set_option autoImplicit false

namespace ChangeImpact.Store

/-! ### What is left of an analysis -/

/-- An image that has no graph of an analysis any more and else holds what another one does. -/
structure Image.Cleared (analysis : String) (before after : Image) : Prop where
  nodes : after.nodesOf analysis = []
  edges : after.edgesOf analysis = []
  others : ∀ other, other ≠ analysis → after.graphOf other = before.graphOf other
  findings : after.findings = before.findings
  records : after.records = before.records

variable {analysis : String} {image : Image} {next : Nat}

theorem Image.Sound.cleared_without (sound : image.Sound next) (analysis : String) :
    Image.Cleared analysis image (image.without analysis) :=
  ⟨image.nodesOf_without analysis, image.edgesOf_without analysis,
    fun _ different => sound.graphOf_without different, rfl, rfl⟩

/-- An image whose nodes all belong to analyses with names that can be written. -/
def Image.Legible (image : Image) : Prop :=
  ∀ node ∈ image.nodes, Text.encodeFault? node.analysis = none

theorem Image.Legible.without (legible : image.Legible) (analysis : String) :
    (image.without analysis).Legible :=
  fun node member => legible node (List.mem_filter.mp member).1

/-- There is no graph under a name that cannot be written. -/
theorem Image.Sound.cleared_of_unwritten (sound : image.Sound next) (legible : image.Legible)
    (unwritten : Text.encodeFault? analysis ≠ none) : Image.Cleared analysis image image := by
  have nodes : image.nodesOf analysis = [] := by
    apply List.filter_eq_nil_iff.mpr
    intro node member own
    rw [← beq_iff_eq.mp own] at unwritten
    exact unwritten (legible node member)
  have edges : image.edgesOf analysis = [] := by
    apply List.eq_nil_iff_forall_not_mem.mpr
    intro edge member
    have source := ((sound.typed analysis).closed edge member).1
    change edge.source ∈ (image.nodesOf analysis).map Node.id at source
    rw [nodes] at source
    cases source
  exact ⟨nodes, edges, fun _ _ => rfl, rfl, rfl⟩

theorem Image.Legible.of_nodes (legible : image.Legible) {other : Image}
    (nodes : other.nodes = image.nodes) : other.Legible := by
  unfold Legible
  rw [nodes]
  exact legible

theorem Valid.legible_deleteAnalysis {store : Store} (valid : Valid store)
    (legible : store.visible.Legible) (name : String) :
    (Store.deleteAnalysis name store).2.visible.Legible := by
  have ends := valid.settled.ends_deleteAnalysis name
  rcases outcome : Store.deleteAnalysis name store with ⟨fault | known, after⟩
  · rw [outcome] at ends
    obtain ⟨_, _, rfl⟩ := ends.of_error
    exact legible
  · have nodes : after.visible.nodes = (store.visible.without name).nodes := by
      rw [(deleteAnalysis_ok outcome).1]
      rfl
    exact (legible.without name).of_nodes nodes

/-- A build adds nodes under the name of its analysis alone, which it has written before. -/
theorem Valid.legible_build {store : Store} (valid : Valid store) (legible : store.visible.Legible)
    {builder : Builder} {table : LanguageTable} (reads : builder.extractor = .ofTable table)
    (workspace : Workspace) (options : BuildOptions) (cancel : Cancellation) :
    (builder.build workspace options cancel store).2.visible.Legible := by
  have others := legible.without options.analysis
  rcases outcome : builder.build workspace options cancel store with ⟨fault | report, after⟩
  · obtain ⟨_, _, _, rfl, same | same⟩ := Builder.build_of_error valid.settled outcome
    · exact legible.of_nodes (congrArg Image.nodes same)
    · exact others.of_nodes (congrArg Image.nodes same)
  · obtain ⟨_, assembly, _, made, rfl⟩ := Builder.build_of_ok valid.settled reads outcome
    obtain ⟨_, _, _, deleted, _⟩ := Builder.build_ok outcome
    have written := (deleteGraph_ok deleted).2.2
    intro node member
    rcases List.mem_append.mp member with old | new
    · exact others node old
    · rw [Builder.Assembly.nodes_analysis made node new]
      simpa using written

theorem Valid.legible_apply {store : Store} (valid : Valid store) (legible : store.visible.Legible)
    (change : Change) : (change.apply store).visible.Legible := by
  cases change with
  | build table policy workers workspace options cancel =>
      exact valid.legible_build legible rfl workspace options cancel
  | deleteAnalysis name => exact valid.legible_deleteAnalysis legible name
  | recordAnalysis name path now =>
      obtain ⟨_, _, nodes, _⟩ := leavesGraphs_recordAnalysis name path now store valid.settled
      exact legible.of_nodes nodes
  | addFindings name findings now =>
      obtain ⟨_, _, nodes, _⟩ := leavesGraphs_addFindings name findings now store valid.settled
      exact legible.of_nodes nodes

theorem legible_after (changes : List Change) : (after changes).visible.Legible := by
  unfold after
  have run : ∀ store, Valid store → store.visible.Legible →
      (changes.foldl Change.apply store).visible.Legible := by
    induction changes with
    | nil => exact fun _ _ legible => legible
    | cons change rest ih =>
        exact fun store valid legible => ih _ (valid.apply change) (valid.legible_apply legible change)
  exact run {} valid_initial (List.forall_mem_nil _)

end ChangeImpact.Store

namespace ChangeImpact.Builder

open ChangeImpact.Store (Script transaction)

variable {builder : Builder} {workspace : Workspace} {options : BuildOptions} {cancel : Cancellation}
  {store after : Store}

/-! ### Steps of storing -/

/-- The steps of a build that store its graph, whatever they are, done in one transaction. -/
def keepBy (steps : List Extraction → Script (Nat × Nat)) (extractions : List Extraction) :
    Store.Action Store.Fault (Nat × Nat) :=
  transaction (steps extractions).run

theorem isScript_keepNodes (nodes : List Node) : Store.IsScript (keepNodes nodes) :=
  (Store.isScript_createNodes _).bind fun _ => Store.isScript_pure _

theorem isScript_resolveEdges (index : NameIndex) (analysis : String) (extractions : List Extraction) :
    Store.IsScript (resolveEdges index analysis extractions) :=
  (isScript_keepNodes _).bind fun _ => Store.isScript_pure _

/-- The storing of a graph is one of these transactions. -/
theorem persist_eq_keepBy (policy : Policy) (analysis : String) :
    ∃ steps, persist policy analysis = keepBy steps := by
  have scripted : ∀ extractions, ∃ steps : Script (Nat × Nat),
      transaction steps.run = persist policy analysis extractions := by
    intro extractions
    obtain ⟨steps, performed⟩ := (isScript_keepNodes (extractions.flatMap (nodesOf analysis))).bind
      fun declared => (isScript_resolveEdges (.ofNodes policy declared) analysis extractions).bind fun resolved =>
        (Store.isScript_createEdges (resolved.1.map edgeDraft)).bind fun _ => Store.isScript_pure resolved.2
    refine ⟨steps, ?_⟩
    rw [performed]
    rfl
  choose steps performed using scripted
  exact ⟨steps, funext fun extractions => (performed extractions).symm⟩

/-- A build that fails leaves nothing of the graph of its analysis and all else as it was, however the graph was to be
stored. -/
theorem buildBy_cleared (valid : Store.Valid store) (legible : store.visible.Legible)
    {steps : List Extraction → Script (Nat × Nat)} {fault : Fault}
    (failed : builder.buildBy (keepBy steps) workspace options cancel store = (.error fault, after)) :
    after.depth = 0 ∧ after.committed = after.seen ∧
      Store.Image.Cleared options.analysis store.visible after.seen := by
  have settled := valid.settled
  rcases buildBy_error failed with ⟨cause, undeleted⟩ | ⟨cleared, deleted, rest⟩
  · -- The name of the analysis cannot be written, so there never was a graph of it.
    have unwritten : Text.encodeFault? options.analysis ≠ none := by
      intro written
      obtain ⟨_, _, deleted, _⟩ :=
        Store.succeeds_deleteGraph (by simpa using written) store settled.isClosed
      rw [undeleted] at deleted
      cases deleted
    have ends := settled.ends_deleteGraph options.analysis
    rw [undeleted] at ends
    obtain ⟨next, _, rfl⟩ := ends.of_error
    have rests := settled.holding store.visible next
    rw [rests.seen]
    exact ⟨rests.depth, rfl, valid.sound.cleared_of_unwritten legible unwritten⟩
  cases deleteGraph_settled settled deleted
  have empty := settled.holding (store.visible.without options.analysis) store.nextId
  have gone := valid.sound.cleared_without options.analysis
  rcases rest with rfl | ⟨extractions, ⟨cause, unstored⟩ | ⟨counts, filled, cause, stored, unfound⟩⟩
  · rw [empty.seen]
    exact ⟨empty.depth, rfl, gone⟩
  · have ends := (steps extractions).transaction_endsAs empty.depth
    unfold keepBy at unstored
    rw [unstored] at ends
    obtain ⟨committed, shown⟩ := ends.undone cause rfl
    rw [committed, shown]
    exact ⟨ends.depth.trans empty.depth, rfl, gone⟩
  · -- The name of the analysis was written once already, so the graph can be read back.
    have ends := (steps extractions).transaction_endsAs empty.depth
    unfold keepBy at stored
    rw [stored] at ends
    obtain ⟨_, _, written⟩ := Store.deleteGraph_ok deleted
    rw [(ends.settled empty.depth rfl).fullGraph_run written] at unfound
    cases unfound

/-- A build after whatever was done to an empty store. A token stops it if and only if the build comes to its files and
the token is due before twice as many checks as there are files; a later one makes no difference. Whenever it fails,
be it stopped or be it that any of the steps that store its graph fails, it leaves nothing of that graph and all else as
it was. -/
theorem build_all_or_nothing (changes : List Store.Change) (table : LanguageTable) (policy : Policy)
    (workers : Int) (workspace : Workspace) (options : BuildOptions) :
    let builder : Builder := { extractor := .ofTable table, policy, workers }
    let files := (builder.discoveryOf workspace options).files
    let store := Store.after changes
    (∀ due : Nat, (∀ file ∈ files, Text.hasNull file = false) →
      ((builder.build workspace options { atCheck := some due } store).1 =
          .error (.cancelled options.analysis) ↔
        builder.Starts options ∧ due < 2 * files.length)) ∧
    (∃ steps, ∀ cancel, builder.build workspace options cancel =
      builder.buildBy (keepBy steps) workspace options cancel) ∧
    (∀ steps cancel fault after,
      builder.buildBy (keepBy steps) workspace options cancel store = (.error fault, after) →
      after.depth = 0 ∧ after.committed = after.seen ∧
        Store.Image.Cleared options.analysis store.visible after.seen) ∧
    (∀ due : Nat, 2 * files.length ≤ due →
      builder.build workspace options { atCheck := some due } store =
        builder.build workspace options {} store) := by
  intro builder files store
  have valid := Store.valid_after changes
  have legible := Store.legible_after changes
  refine ⟨?_, ?_, ?_, ?_⟩
  · intro due names
    exact build_cancelled_iff valid.settled.isClosed names
  · obtain ⟨steps, same⟩ := persist_eq_keepBy policy options.analysis
    refine ⟨steps, fun cancel => ?_⟩
    exact congrArg (fun keep => builder.buildBy keep workspace options cancel) same
  · intro steps cancel fault after failed
    exact buildBy_cleared valid legible failed
  · intro due late
    rw [build_unstopped late]

theorem starts_callOptions : callBuilder.Starts callOptions :=
  ⟨by decide +kernel, by decide +kernel, by decide⟩

theorem build_all_or_nothing_callChanges :
    let store := Store.after Store.callChanges
    (store.visible.graphOf "a").edges.length = 1 ∧
      (∃ after, callBuilder.build callWorkspace callOptions { atCheck := some 1 } store =
          (.error (.cancelled "a"), after) ∧
        after.depth = 0 ∧ after.committed = after.seen ∧
        Store.Image.Cleared "a" store.visible after.seen) ∧
      callBuilder.build callWorkspace callOptions { atCheck := some 2 } store =
        callBuilder.build callWorkspace callOptions {} store := by
  intro store
  obtain ⟨stops, ⟨steps, same⟩, fails, late⟩ :=
    build_all_or_nothing Store.callChanges .standard .firstDeclared 0 callWorkspace callOptions
  have files : (callBuilder.discoveryOf callWorkspace callOptions).files = ["a.py"] :=
    congrArg Discovery.files callWorkspace_discovery
  have names : ∀ file ∈ (callBuilder.discoveryOf callWorkspace callOptions).files,
      Text.hasNull file = false := by
    rw [files]
    decide +kernel
  have soon : 1 < 2 * (callBuilder.discoveryOf callWorkspace callOptions).files.length := by
    rw [files]
    decide
  have past : 2 * (callBuilder.discoveryOf callWorkspace callOptions).files.length ≤ 2 := by
    rw [files]
    decide
  refine ⟨Store.callChanges_edges, ?_, late 2 past⟩
  have stopped : (callBuilder.build callWorkspace callOptions { atCheck := some 1 } store).1 =
      .error (.cancelled "a") := (stops 1 names).mpr ⟨starts_callOptions, soon⟩
  rcases ended : callBuilder.build callWorkspace callOptions { atCheck := some 1 } store with ⟨_, after⟩
  rw [ended] at stopped
  cases stopped
  exact ⟨after, rfl, fails steps { atCheck := some 1 } _ after ((congrFun (same _) store).symm.trans ended)⟩

/-- Without anyone to read, a build is not stopped by a token that is due at once: it fails before. -/
theorem build_not_cancelled_without_workers :
    let builder : Builder := { workers := -1 }
    (builder.build callWorkspace callOptions { atCheck := some 0 } {}).1 = .error .noWorkers ∧
      ¬ ((builder.build callWorkspace callOptions { atCheck := some 0 } {}).1 =
          .error (.cancelled callOptions.analysis) ↔
        0 < 2 * (builder.discoveryOf callWorkspace callOptions).files.length) := by
  intro builder
  have failed : (builder.build callWorkspace callOptions { atCheck := some 0 } {}).1 =
      .error .noWorkers :=
    build_of_unread rfl starts_callOptions.written starts_callOptions.plain (if_pos (by decide))
  have files : (builder.discoveryOf callWorkspace callOptions).files = ["a.py"] :=
    congrArg Discovery.files callWorkspace_discovery
  refine ⟨failed, ?_⟩
  rw [failed, files]
  intro claimed
  cases claimed.mpr (by decide)

end ChangeImpact.Builder
