import ChangeImpact.Proofs.Refusals
import ChangeImpact.Proofs.Renaming
import ChangeImpact.Proofs.StoredGraphs
import Mathlib.Data.Set.Function

/-!
Builds do not look back. Whatever was stored before, two builds of one project fail for the same reason, or their graphs
differ in ids alone: there is a bijection between the ids that takes the one report to the other.
-/

set_option autoImplicit false

namespace ChangeImpact

/-! ### Graphs under other ids -/

namespace Graph

def ids (graph : Graph) : List String := graph.nodes.map Node.id ++ graph.edges.map Edge.id

def renamed (rename : String → String) (graph : Graph) : Graph :=
  { graph with
    nodes := graph.nodes.map (Node.renamed rename)
    edges := graph.edges.map (Edge.renamed rename) }

variable (rename : String → String) (graph : Graph)

theorem ids_renamed : (graph.renamed rename).ids = graph.ids.map rename := by
  unfold ids renamed
  rw [List.map_append, List.map_map, List.map_map, List.map_map, List.map_map]
  rfl

theorem nodesByKind_renamed : (graph.renamed rename).nodesByKind = graph.nodesByKind := by
  unfold nodesByKind renamed
  rw [List.map_map]
  rfl

theorem edgesByKind_renamed : (graph.renamed rename).edgesByKind = graph.edgesByKind := by
  unfold edgesByKind renamed
  rw [List.map_map]
  rfl

/-- A renaming is a bijection between the ids of two graphs if it keeps them distinct. -/
theorem bijOn_renamed (distinct : (graph.ids.map rename).Nodup) :
    Set.BijOn rename {id | id ∈ graph.ids} {id | id ∈ (graph.renamed rename).ids} := by
  rw [ids_renamed]
  refine ⟨?_, ?_, ?_⟩
  · intro id member
    exact List.mem_map_of_mem member
  · intro one first two second same
    exact List.inj_on_of_nodup_map distinct first second same
  · intro id member
    exact List.mem_map.mp member

end Graph

namespace Builder

open ChangeImpact.Outcome (fault?)
open ChangeImpact.Store (idsFrom)

variable {builder : Builder} {table : LanguageTable} {workspace : Workspace} {options : BuildOptions}
  {cancel : Cancellation} {store after : Store}

/-! ### Assemblies -/

namespace Assembly

def graph (analysis : String) (assembly : Assembly) : Graph :=
  { analysis, nodes := assembly.nodes, edges := assembly.edges }

theorem graph_renamed (rename : String → String) (analysis : String) (assembly : Assembly) :
    (assembly.renamed rename).graph analysis = (assembly.graph analysis).renamed rename := by
  unfold graph Graph.renamed nodes
  rw [List.map_append]
  rfl

variable {policy : Policy} {analysis : String} {first : Nat} {extractions : List Extraction}
  {assembly : Assembly}

theorem graph_ids (made : assembly = assemble policy analysis first extractions) :
    (assembly.graph analysis).ids = idsFrom first assembly.size := by
  unfold Graph.ids graph size
  rw [nodes_ids made, edges_ids made, Store.idsFrom_append]

/-- An edge between nodes of an assembly is refused for its kind or its analysis only. -/
theorem edge_refusal? (made : assembly = assemble policy analysis first extractions)
    (sound : ∀ extraction ∈ extractions, extraction.IsSound) {edge : Edge} (member : edge ∈ assembly.edges) :
    (edgeDraft edge).refusal? =
      ([edge.analysis, edge.kind.name].findSome? Text.encodeFault?).map Store.Cause.unencodable := by
  have written : ∀ id ∈ assembly.nodes.map Node.id, Text.encodeFault? id = none := by
    intro id listed
    rw [nodes_ids made] at listed
    obtain ⟨number, _, _, rfl⟩ := Store.mem_idsFrom.mp listed
    exact Store.encodeFault?_idText number
  obtain ⟨source, target⟩ := (wellTyped made sound).closed edge member
  have sourceWritten := written _ source
  have targetWritten := written _ target
  rw [edgeDraft_refusal?]
  simp only [List.findSome?_cons, sourceWritten, targetWritten]

/-- Whether the rows of extractions are refused does not depend on their ids. -/
theorem fault?_assemble (sound : ∀ extraction ∈ extractions, extraction.IsSound) (first second : Nat) :
    (assemble policy analysis second extractions).fault? =
      (assemble policy analysis first extractions).fault? := by
  obtain ⟨rename, shifts⟩ := exists_shifts first second
  have renamed := assemble_renamed shifts policy analysis extractions
  -- The two edges differ in texts that are ids, and those can always be written.
  have edges : ∀ edge ∈ (assemble policy analysis first extractions).edges,
      (edgeDraft (edge.renamed rename)).refusal? = (edgeDraft edge).refusal? := by
    intro edge member
    have other : edge.renamed rename ∈ (assemble policy analysis second extractions).edges := by
      rw [renamed]
      exact List.mem_map_of_mem member
    rw [edge_refusal? rfl sound member, edge_refusal? rfl sound other]
    rfl
  have refusals := List.map_congr_left edges
  rw [renamed]
  unfold fault? Assembly.renamed Assembly.nodes
  dsimp only
  rw [← List.map_append, List.findSome?_map, List.findSome?_map]
  congr 2
  calc _ = (List.map _ _).findSome? id := findSome?_eq_map _ _
    _ = (List.map _ _).findSome? id := congrArg (List.findSome? id) refusals
    _ = _ := (findSome?_eq_map _ _).symm

end Assembly

/-! ### Faults of builds -/

/-- Why a build fails that takes ids from a number on: the name of the analysis, the path of the project, its files, or
the rows they become. -/
def reason? (builder : Builder) (workspace : Workspace) (options : BuildOptions) (cancel : Cancellation)
    (first : Nat) : Option Fault :=
  let extracted := builder.extract workspace options cancel (builder.discoveryOf workspace options).files
  ((Text.encodeFault? options.analysis).map fun fault => Fault.store (.unencodable fault)).or <|
    if Text.hasNull options.project then some .nullInFolder
    else (fault? extracted).or <| extracted.toOption.bind fun extractions =>
      (assemble builder.policy options.analysis first extractions).fault?.map Fault.store

theorem storing_fault? {α : Type} (action : Store.Action Store.Fault α) (store : Store) :
    fault? (storing action store).1 = (fault? (action store).1).map Fault.store := by
  rw [storing_run]
  cases (action store).1 <;> rfl

theorem build_fault? (reads : builder.extractor = .ofTable table) (isOpen : store.isClosed = false) :
    fault? (builder.build workspace options cancel store).1 =
      builder.reason? workspace options cancel store.nextId := by
  unfold reason?
  refine (Store.bind_fault? _ ?_).trans (congrArg (Option.or · _) ?_)
  rotate_left
  · rw [storing_fault?, Store.deleteGraph_fault? isOpen, Option.map_map]
    rfl
  intro _ cleared deleted
  have deleted := storing_ok deleted
  have clearedOpen := (Store.steady_deleteGraph _).stays_open deleted isOpen
  obtain ⟨_, nextId, written⟩ := Store.deleteGraph_ok deleted
  dsimp only
  split
  · rfl
  refine (Store.bind_fault? _ ?_).trans (congrArg (Option.or · _) ?_)
  rotate_left
  · rfl
  intro extractions read extracted
  rw [lift_run] at extracted
  obtain ⟨readAll, rfl⟩ := Prod.mk.inj extracted
  have sound := extract_isSound reads readAll
  have only : (builder.extract workspace options cancel
      (builder.discoveryOf workspace options).files).toOption = some extractions :=
    congrArg Except.toOption readAll
  rw [only, Option.bind_some, ← nextId, ← persist_fault? sound clearedOpen, ← storing_fault?]
  refine (Store.bind_fault? none ?_).trans Option.or_none
  intro counts filled persisted
  have filledOpen := (steady_persist _ _ _).stays_open (storing_ok persisted) clearedOpen
  refine (Store.bind_fault? none ?_).trans (Option.or_none.trans ?_)
  · intro graph last _
    rfl
  · rw [storing_fault?, (Store.succeeds_fullGraph written).fault? filledOpen]
    rfl

/-- Which ids a build takes makes no difference to whether it fails. -/
theorem reason?_eq (reads : builder.extractor = .ofTable table) (first second : Nat) :
    builder.reason? workspace options cancel first =
      builder.reason? workspace options cancel second := by
  unfold reason?
  dsimp only
  cases read : builder.extract workspace options cancel
      (builder.discoveryOf workspace options).files with
  | error fault =>
      have unread : (Except.error fault : Except Fault (List Extraction)).toOption = none := rfl
      rw [unread, Option.bind_none, Option.bind_none]
  | ok extractions =>
      have sound := extract_isSound reads read
      have same : (assemble builder.policy options.analysis first extractions).fault? =
          (assemble builder.policy options.analysis second extractions).fault? :=
        Assembly.fault?_assemble sound second first
      have only : (Except.ok extractions : Except Fault (List Extraction)).toOption = some extractions :=
        rfl
      rw [only, Option.bind_some, Option.bind_some, same]

/-! ### Reports -/

def reportOf (builder : Builder) (workspace : Workspace) (options : BuildOptions)
    (extractions : List Extraction) (assembly : Assembly) : BuildReport :=
  { analysis := options.analysis
    graph := assembly.graph options.analysis
    scope := options.scope
    discovery := builder.discoveryOf workspace options
    filesParsed := (extractions.filter fun extraction => !extraction.isSkipped).length
    parseErrors := parseErrors extractions
    placeholders := assembly.placeholders.length
    dropped := assembly.dropped }

theorem build_reportOf (reads : builder.extractor = .ofTable table) {report : BuildReport}
    (done : builder.build workspace options cancel store = (.ok report, after)) :
    ∃ extractions,
      builder.extract workspace options cancel (builder.discoveryOf workspace options).files =
        .ok extractions ∧
      report = builder.reportOf workspace options extractions
        (assemble builder.policy options.analysis store.nextId extractions) := by
  obtain ⟨_, cleared, deleted, run⟩ := Operation.bind_ok done
  dsimp only at run
  split at run
  · cases run
  obtain ⟨extractions, read, extracted, run⟩ := Operation.bind_ok run
  rw [lift_run] at extracted
  obtain ⟨readAll, rfl⟩ := Prod.mk.inj extracted
  obtain ⟨counts, filled, persisted, run⟩ := Operation.bind_ok run
  obtain ⟨graph, last, found, same⟩ := Operation.bind_ok run
  cases same
  obtain ⟨visible, nextId, _⟩ := Store.deleteGraph_ok (storing_ok deleted)
  obtain ⟨counted, filledVisible, _⟩ := persist_ok (extract_isSound reads readAll) (storing_ok persisted)
  obtain ⟨rfl, _, _⟩ := Store.fullGraph_ok (storing_ok found)
  rw [nextId] at counted filledVisible
  refine ⟨extractions, readAll, ?_⟩
  generalize made : assemble builder.policy options.analysis store.nextId extractions = assembly
    at counted filledVisible ⊢
  have stored := Assembly.graphOf_addTo_self made.symm
    (Store.Image.graphOf_without_self options.analysis store.visible)
  rw [filledVisible, visible, stored, counted]
  rfl

theorem reportOf_renamed (rename : String → String) (extractions : List Extraction) (assembly : Assembly) :
    builder.reportOf workspace options extractions (assembly.renamed rename) =
      { builder.reportOf workspace options extractions assembly with
        graph := (assembly.graph options.analysis).renamed rename } := by
  unfold reportOf
  rw [Assembly.graph_renamed]
  unfold Assembly.renamed
  rw [List.length_map]

/-- What is read of a project depends neither on who reads it nor on a token that lets it pass. -/
theorem extract_unique {other : Builder} (reads : builder.extractor = other.extractor)
    {token : Cancellation} {files : List String} {left right : List Extraction}
    (one : builder.extract workspace options cancel files = .ok left)
    (two : other.extract workspace options token files = .ok right) : left = right := by
  have first := extract_done one
  rw [reads] at first
  refine List.right_unique_forall₂' ?_ first (extract_done two)
  intro file extraction again here there
  exact Except.ok.inj (here.symm.trans there)

/-- Two builds of one project on open stores, whatever these hold. With the same token they fail for the same reason or
both go well; and if both go well, with whatever tokens and however many workers, then the second report is the first one
with the ids of its graph renamed, one to one. -/
theorem builds_equal_up_to_ids (table : LanguageTable) (policy : Policy) (workspace : Workspace)
    (options : BuildOptions) {first second : Store} (firstOpen : first.isClosed = false)
    (secondOpen : second.isClosed = false) :
    (∀ (workers : Int) (cancel : Cancellation) (fault : Fault),
      let builder : Builder := { extractor := .ofTable table, policy, workers }
      (builder.build workspace options cancel first).1 = .error fault ↔
        (builder.build workspace options cancel second).1 = .error fault) ∧
    ∀ (workers others : Int) (cancel token : Cancellation) (report again : BuildReport),
      let builder : Builder := { extractor := .ofTable table, policy, workers }
      let other : Builder := { extractor := .ofTable table, policy, workers := others }
      (builder.build workspace options cancel first).1 = .ok report →
      (other.build workspace options token second).1 = .ok again →
      ∃ rename : String → String,
        Set.BijOn rename {id | id ∈ report.graph.ids} {id | id ∈ again.graph.ids} ∧
        again = { report with graph := report.graph.renamed rename } ∧
        again.graph.nodesByKind = report.graph.nodesByKind ∧
        again.graph.edgesByKind = report.graph.edgesByKind := by
  constructor
  · intro workers cancel fault builder
    have reads : builder.extractor = .ofTable table := rfl
    have same : fault? (builder.build workspace options cancel first).1 =
        fault? (builder.build workspace options cancel second).1 := by
      rw [build_fault? reads firstOpen, build_fault? reads secondOpen]
      exact reason?_eq reads _ _
    rw [← Outcome.fault?_eq_some, ← Outcome.fault?_eq_some, same]
  · intro workers others cancel token report again builder other done doneAgain
    have reads : builder.extractor = other.extractor := rfl
    obtain ⟨extractions, read, reported⟩ := build_reportOf rfl (Prod.ext done rfl)
    obtain ⟨readOnes, readAgain, reportedAgain⟩ := build_reportOf rfl (Prod.ext doneAgain rfl)
    cases extract_unique reads read readAgain
    obtain ⟨rename, shifts⟩ := exists_shifts first.nextId second.nextId
    have renamed := assemble_renamed shifts policy options.analysis extractions
    have ids := Assembly.graph_ids (renamed.symm)
    generalize assemble policy options.analysis first.nextId extractions = assembly
      at reported renamed ids
    have graphs : again = { report with graph := report.graph.renamed rename } := by
      rw [reportedAgain, reported]
      exact (congrArg _ renamed).trans (reportOf_renamed rename extractions assembly)
    have distinct : (report.graph.ids.map rename).Nodup := by
      rw [← Graph.ids_renamed, reported]
      change (Graph.renamed rename (assembly.graph options.analysis)).ids.Nodup
      rw [← Assembly.graph_renamed, ids]
      exact Store.idsFrom_nodup _ _
    refine ⟨rename, ?_, graphs, ?_, ?_⟩
    · rw [graphs]
      exact Graph.bijOn_renamed rename _ distinct
    · rw [graphs]
      exact Graph.nodesByKind_renamed rename _
    · rw [graphs]
      exact Graph.edgesByKind_renamed rename _

theorem callWorkspace_files {report : BuildReport}
    (built : callBuilder.build callWorkspace callOptions {} {} = (.ok report, after)) :
    report.discovery.files = ["a.py"] := by
  obtain ⟨_, _, rfl⟩ := build_reportOf rfl built
  exact congrArg Discovery.files callWorkspace_discovery

theorem callWorkspace_report {report : BuildReport}
    (built : callBuilder.build callWorkspace callOptions {} {} = (.ok report, after)) :
    report.graph.edges.length = 1 := by
  have reads : callBuilder.extractor = .ofTable .standard := rfl
  obtain ⟨extractions, extracted, rfl⟩ := build_reportOf reads built
  generalize made : assemble _ _ _ extractions = assembly
  have counted := Assembly.edges_length made.symm (extract_isSound reads extracted)
  cases callWorkspace_extract.symm.trans extracted
  refine counted.trans ?_
  decide +kernel

/-- The build of a file with one call, on an empty store and once more on what it left there. -/
theorem builds_equal_up_to_ids_callChanges :
    ∃ report again : BuildReport,
      (callBuilder.build callWorkspace callOptions {} {}).1 = .ok report ∧
      (callBuilder.build callWorkspace callOptions {} (Store.after Store.callChanges)).1 = .ok again ∧
      report.graph.edges.length = 1 ∧
      ∃ rename : String → String,
        Set.BijOn rename {id | id ∈ report.graph.ids} {id | id ∈ again.graph.ids} ∧
        again.graph = report.graph.renamed rename := by
  have isOpen := (Store.valid_after Store.callChanges).settled.isClosed
  have alike := builds_equal_up_to_ids .standard .firstDeclared callWorkspace callOptions
    Store.settled_initial.isClosed isOpen
  obtain ⟨report, after, built⟩ := callWorkspace_build
  have done : (callBuilder.build callWorkspace callOptions {} {}).1 = .ok report :=
    congrArg Prod.fst built
  cases rebuilt : (callBuilder.build callWorkspace callOptions {} (Store.after Store.callChanges)).1 with
  | error fault =>
      have failed := (alike.1 0 {} fault).mpr rebuilt
      cases done.symm.trans failed
  | ok again =>
      obtain ⟨rename, bijective, same, _⟩ := alike.2 0 0 {} {} report again done rebuilt
      exact ⟨report, again, done, rfl, callWorkspace_report built, rename, bijective,
        congrArg BuildReport.graph same⟩

end Builder

end ChangeImpact
