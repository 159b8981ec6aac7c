import ChangeImpact.Proofs.GraphTyping
import ChangeImpact.Proofs.Upkeep

/-!
What a build leaves in the store. One that goes well puts the assembly of what was read where the old graph was; one
that fails puts nothing there, though the old graph may be gone.
-/

set_option autoImplicit false

namespace ChangeImpact.Builder

open ChangeImpact.Store (Settled Ends)

variable {α : Type} {builder : Builder} {table : LanguageTable} {workspace : Workspace}
  {options : BuildOptions} {cancel : Cancellation} {store after : Store}

theorem storing_run (action : Store.Action Store.Fault α) (store : Store) :
    storing action store = ((action store).1.mapError Fault.store, (action store).2) := rfl

theorem storing_ok {action : Store.Action Store.Fault α} {value : α}
    (done : storing action store = (.ok value, after)) : action store = (.ok value, after) := by
  rw [storing_run] at done
  rcases outcome : action store with ⟨_ | _, last⟩
  · rw [outcome] at done
    cases done
  · rw [outcome] at done
    cases done
    rfl

theorem storing_error {action : Store.Action Store.Fault α} {fault : Fault}
    (failed : storing action store = (.error fault, after)) :
    ∃ cause, action store = (.error cause, after) := by
  rw [storing_run] at failed
  rcases outcome : action store with ⟨cause | _, last⟩
  · rw [outcome] at failed
    cases failed
    exact ⟨cause, rfl⟩
  · rw [outcome] at failed
    cases failed

theorem lift_run (result : Except Fault α) (store : Store) :
    (liftM result : Store.Action Fault α) store = (result, store) := rfl

/-- Each file has its extraction, in order. -/
theorem extract_done {files : List String} {extractions : List Extraction}
    (done : builder.extract workspace options cancel files = .ok extractions) :
    List.Forall₂ (fun file extraction =>
      Sources.extractFile builder.extractor workspace options.project file = .ok extraction) files extractions := by
  unfold extract at done
  split at done
  · cases done
  split at done
  · cases done
  · cases done
  · rename_i all
    cases done
    obtain ⟨_, _, collected⟩ := Outcome.bind_ok all
    exact Sources.collect_done collected

theorem extract_isSound (reads : builder.extractor = .ofTable table) {files : List String}
    {extractions : List Extraction}
    (done : builder.extract workspace options cancel files = .ok extractions) :
    ∀ extraction ∈ extractions, extraction.IsSound := by
  have each := extract_done done
  rw [reads] at each
  intro extraction member
  obtain ⟨file, _, extracted⟩ := Outcome.exists_item each member
  exact Sources.extractFile_isSound extracted

/-- The steps of a build that goes well. -/
theorem build_ok {report : BuildReport}
    (done : builder.build workspace options cancel store = (.ok report, after)) :
    ∃ cleared extractions filled,
      Store.deleteGraph options.analysis store = (.ok (), cleared) ∧
      builder.extract workspace options cancel (builder.discoveryOf workspace options).files =
        .ok extractions ∧
      persist builder.policy options.analysis extractions cleared =
        (.ok (report.placeholders, report.dropped), filled) ∧
      Store.fullGraph options.analysis filled = (.ok report.graph, after) := by
  obtain ⟨_, cleared, deleted, run⟩ := Operation.bind_ok done
  dsimp only at run
  split at run
  · cases run
  obtain ⟨extractions, read, extracted, run⟩ := Operation.bind_ok run
  rw [lift_run] at extracted
  obtain ⟨readAll, rfl⟩ := Prod.mk.inj extracted
  obtain ⟨counts, filled, persisted, run⟩ := Operation.bind_ok run
  obtain ⟨graph, last, found, same⟩ := Operation.bind_ok run
  cases same
  exact ⟨_, extractions, filled, storing_ok deleted, readAll, storing_ok persisted, storing_ok found⟩

/-- Where a build may fail: at the old graph, before anything is stored, while it is stored, or when it is read
back. -/
theorem buildBy_error {keep : List Extraction → Store.Action Store.Fault (Nat × Nat)} {fault : Fault}
    (failed : builder.buildBy keep workspace options cancel store = (.error fault, after)) :
    (∃ cause, Store.deleteGraph options.analysis store = (.error cause, after)) ∨
      ∃ cleared, Store.deleteGraph options.analysis store = (.ok (), cleared) ∧
        (after = cleared ∨ ∃ extractions,
          (∃ cause, keep extractions cleared = (.error cause, after)) ∨
          ∃ counts filled cause, keep extractions cleared = (.ok counts, filled) ∧
            Store.fullGraph options.analysis filled = (.error cause, after)) := by
  rcases Operation.bind_error failed with undeleted | ⟨_, cleared, deleted, run⟩
  · exact Or.inl (storing_error undeleted)
  refine Or.inr ⟨cleared, storing_ok deleted, ?_⟩
  dsimp only at run
  split at run
  · cases run
    exact Or.inl rfl
  rcases Operation.bind_error run with unread | ⟨extractions, read, extracted, run⟩
  · rw [lift_run] at unread
    exact Or.inl (Prod.mk.inj unread).2.symm
  rw [lift_run] at extracted
  obtain ⟨_, rfl⟩ := Prod.mk.inj extracted
  refine Or.inr ⟨extractions, ?_⟩
  rcases Operation.bind_error run with unstored | ⟨counts, filled, persisted, run⟩
  · exact Or.inl (storing_error unstored)
  rcases Operation.bind_error run with unfound | ⟨graph, last, _, impossible⟩
  · obtain ⟨cause, unfound⟩ := storing_error unfound
    exact Or.inr ⟨counts, filled, cause, storing_ok persisted, unfound⟩
  · cases impossible

/-! ### The graph of an assembly among others -/

namespace Assembly

variable {policy : Policy} {analysis : String} {first : Nat} {extractions : List Extraction}
  {assembly : Assembly} (made : assembly = assemble policy analysis first extractions)

include made

theorem graphOf_addTo_other {other : String} (different : other ≠ analysis) (image : Store.Image) :
    (assembly.addTo image).graphOf other = image.graphOf other := by
  have nodes : assembly.nodes.filter (fun node => node.analysis == other) = [] := by
    rw [List.filter_eq_nil_iff]
    intro node member own
    rw [nodes_analysis made node member] at own
    exact different (beq_iff_eq.mp own).symm
  have edges : assembly.edges.filter (fun edge => edge.analysis == other) = [] := by
    rw [List.filter_eq_nil_iff]
    intro edge member own
    rw [edges_analysis made edge member] at own
    exact different (beq_iff_eq.mp own).symm
  unfold Store.Image.graphOf Store.Image.nodesOf Store.Image.edgesOf addTo
  rw [List.filter_append, List.filter_append, nodes, edges, List.append_nil, List.append_nil]

theorem graphOf_addTo_self {image : Store.Image}
    (empty : image.graphOf analysis = { analysis, nodes := [], edges := [] }) :
    (assembly.addTo image).graphOf analysis =
      { analysis, nodes := assembly.nodes, edges := assembly.edges } := by
  have noNodes : image.nodes.filter (fun node => node.analysis == analysis) = [] :=
    congrArg Graph.nodes empty
  have noEdges : image.edges.filter (fun edge => edge.analysis == analysis) = [] :=
    congrArg Graph.edges empty
  have nodes : assembly.nodes.filter (fun node => node.analysis == analysis) = assembly.nodes := by
    rw [List.filter_eq_self]
    intro node member
    exact beq_iff_eq.mpr (nodes_analysis made node member)
  have edges : assembly.edges.filter (fun edge => edge.analysis == analysis) = assembly.edges := by
    rw [List.filter_eq_self]
    intro edge member
    exact beq_iff_eq.mpr (edges_analysis made edge member)
  unfold Store.Image.graphOf Store.Image.nodesOf Store.Image.edgesOf addTo
  rw [List.filter_append, List.filter_append, noNodes, noEdges, nodes, edges, List.nil_append,
    List.nil_append]

end Assembly

/-! ### Builds on a store at rest -/

theorem ends_persist (settled : Settled store) (policy : Policy) (analysis : String)
    (extractions : List Extraction) : Ends store (persist policy analysis extractions store) :=
  settled.ends_transaction <| (steady_keepNodes _).bind fun _ => (steady_resolveEdges _ _ _).bind fun _ =>
    (Store.steady_createEdges _).bind fun _ => Store.steady_pure _

/-- The old graph goes at once or not at all. -/
theorem deleteGraph_settled (settled : Settled store) {analysis : String}
    (deleted : Store.deleteGraph analysis store = (.ok (), after)) :
    after = store.holding (store.visible.without analysis) store.nextId := by
  have ends := settled.ends_deleteGraph analysis
  rw [deleted] at ends
  obtain ⟨visible, nextId, _⟩ := Store.deleteGraph_ok deleted
  rw [← visible, ← nextId]
  exact ends.of_ok.1

/-- A build that goes well: what was read is stored in place of the old graph, and the report tells of it. -/
theorem build_of_ok (settled : Settled store) (reads : builder.extractor = .ofTable table)
    {report : BuildReport}
    (done : builder.build workspace options cancel store = (.ok report, after)) :
    ∃ extractions assembly,
      builder.extract workspace options cancel (builder.discoveryOf workspace options).files =
        .ok extractions ∧
      assembly = assemble builder.policy options.analysis store.nextId extractions ∧
      after = store.holding (assembly.addTo (store.visible.without options.analysis))
        (store.nextId + assembly.size) := by
  obtain ⟨cleared, extractions, filled, deleted, readAll, persisted, found⟩ := build_ok done
  cases deleteGraph_settled settled deleted
  have sound := extract_isSound reads readAll
  obtain ⟨_, visible, nextId⟩ := persist_ok sound persisted
  have empty := settled.holding (store.visible.without options.analysis) store.nextId
  have ends := ends_persist empty builder.policy options.analysis extractions
  rw [persisted] at ends
  obtain ⟨_, rfl, _⟩ := Store.fullGraph_ok found
  refine ⟨extractions, _, readAll, rfl, ?_⟩
  rw [ends.of_ok.1, visible, nextId]
  rfl

/-- A build that fails: the tables are as before, or the old graph is gone. -/
theorem build_of_error (settled : Settled store) {fault : Fault}
    (failed : builder.build workspace options cancel store = (.error fault, after)) :
    ∃ image next, store.nextId ≤ next ∧ after = store.holding image next ∧
      (image = store.visible ∨ image = store.visible.without options.analysis) := by
  rcases buildBy_error failed with ⟨cause, undeleted⟩ | ⟨cleared, deleted, rest⟩
  · have ends := settled.ends_deleteGraph options.analysis
    rw [undeleted] at ends
    obtain ⟨next, later, rfl⟩ := ends.of_error
    exact ⟨_, next, later, rfl, Or.inl rfl⟩
  cases deleteGraph_settled settled deleted
  have empty := settled.holding (store.visible.without options.analysis) store.nextId
  rcases rest with rfl | ⟨extractions, ⟨cause, unstored⟩ | ⟨counts, filled, cause, persisted, unfound⟩⟩
  · exact ⟨_, _, Nat.le_refl _, rfl, Or.inr rfl⟩
  · have ends := ends_persist empty builder.policy options.analysis extractions
    rw [unstored] at ends
    obtain ⟨next, later, rfl⟩ := ends.of_error
    exact ⟨_, next, later, rfl, Or.inr rfl⟩
  · -- The name of the analysis was written once already, so the graph can be read back.
    have ends := ends_persist empty builder.policy options.analysis extractions
    rw [persisted] at ends
    obtain ⟨_, _, written⟩ := Store.deleteGraph_ok deleted
    rw [Settled.fullGraph_run (ends.settled empty) written] at unfound
    cases unfound

end ChangeImpact.Builder
