import ChangeImpact.Proofs.StoredGraphs
import ChangeImpact.Workbench

/-!
Questions to the workbench, and the builds it makes. What is asked about an analysis that is loaded is answered from
the loaded graph, without a look at the store; what is asked about another is answered as by one who looks afresh.
-/

set_option autoImplicit false

namespace ChangeImpact.Store

/-- What the search for a record finds. -/
theorem Settled.findRecord_cases {store : Store} (settled : Settled store) (analysis : String) :
    ([analysis].findSome? Text.encodeFault? ≠ none ∧
        ∃ fault, (findRecord analysis store).1 = .error fault) ∨
      [analysis].findSome? Text.encodeFault? = none ∧
        (store.visible.hasRecord analysis = false ∧ (findRecord analysis store).1 = .ok none ∨
          store.visible.hasRecord analysis = true ∧
            ∃ record, (findRecord analysis store).1 = .ok (some record)) := by
  cases written : [analysis].findSome? Text.encodeFault? with
  | some fault =>
      left
      unfold findRecord query
      rw [settled.isClosed, written]
      exact ⟨Option.some_ne_none fault, _, rfl⟩
  | none =>
      right
      refine ⟨rfl, ?_⟩
      have run : findRecord analysis store = (.ok _, store) := settled.query_run written
      rw [run]
      unfold Image.hasRecord
      cases found : store.visible.records.find? (fun record => record.id == some analysis) with
      | none =>
          refine Or.inl ⟨?_, rfl⟩
          rw [List.any_eq_false]
          exact List.find?_eq_none.mp found
      | some record =>
          have holds := List.find?_some found
          exact Or.inr ⟨List.any_eq_true.mpr ⟨record, List.mem_of_find?_eq_some found, holds⟩, record, rfl⟩

end ChangeImpact.Store

namespace ChangeImpact.Workbench

open ChangeImpact.Store (Settled Image)

/-! ### Questions -/

inductive Question where
  | impact (file : String) (function : Option String) (maxDepth : Int)
  | deadNodes
  | chain (id : String) (maxDepth : Int)
  | named (name : String) (file : Option String)

inductive Reply where
  | impact (result : Impact.Result)
  | nodes (nodes : List Node)
  | labels (labels : List String)

namespace Question

def ask (analysis : String) : Question → Action Reply
  | .impact file function maxDepth => do
      pure (.impact (← Workbench.impact analysis file function maxDepth))
  | .deadNodes => do pure (.nodes (← Workbench.deadNodes analysis))
  | .chain id maxDepth => do pure (.labels (← Workbench.chain analysis id maxDepth))
  | .named name file => do pure (.nodes (← Workbench.named analysis name file))

def answer (store : Store) (graph : Graph) : Question → Except Fault Reply
  | .impact file function maxDepth => do
      let findings := findingsAbout store graph.analysis file
      let result ← (Impact.analyze graph findings file function maxDepth).mapError Fault.impact
      .ok (.impact result)
  | .deadNodes => .ok (.nodes (Impact.deadNodes graph))
  | .chain id maxDepth => .ok (.labels (Impact.chain graph id maxDepth))
  | .named name file => .ok (.nodes (Impact.named graph name file))

/-- The answer of one who has loaded nothing: the analysis must have a record, and its graph is read from the
store. -/
def fresh (store : Store) (analysis : String) (question : Question) : Except Fault Reply := do
  let record ← (Store.findRecord analysis store).1.mapError Fault.store
  if record.isNone then .error (.unknownAnalysis analysis)
  else
    let graph ← (Store.fullGraph analysis store).1.mapError Fault.store
    question.answer store graph

variable {analysis : String} {bench ready : Workbench} {graph : Graph}

/-- What is done with a graph that is required, once it is loaded. -/
theorem require_run {α : Type} {key : Option String}
    (loaded : ensureLoaded analysis bench = (.ok (), ready))
    (required : Impact.require ready.loaded key = .ok graph) (next : Workbench → Graph → Action α) :
    (do
      ensureLoaded analysis
      let now ← get
      let graph ← answering (Impact.require now.loaded key)
      next now graph : Action α) bench = next ready graph ready := by
  rw [Operation.bind_of_ok loaded]
  change (answering (Impact.require ready.loaded key) >>= next ready) ready = _
  rw [required]
  rfl

/-- A question that finds its graph loaded is answered from it. -/
theorem ask_of_loaded (loaded : ensureLoaded analysis bench = (.ok (), ready))
    (here : ready.loaded = some graph) (own : graph.analysis = analysis) (question : Question) :
    question.ask analysis bench = (question.answer ready.store graph, ready) := by
  subst own
  have required : Impact.require ready.loaded (some graph.analysis) = .ok graph := by
    rw [here]
    exact if_pos rfl
  have requiredAny : Impact.require ready.loaded none = .ok graph := by
    rw [here]
    rfl
  cases question with
  | impact file function maxDepth =>
      have asked := require_run loaded required fun now found =>
        answering (Impact.analyze found (findingsAbout now.store graph.analysis file) file function maxDepth)
      cases analyzed : Impact.analyze graph (findingsAbout ready.store graph.analysis file) file
          function maxDepth with
      | ok result =>
          rw [analyzed] at asked
          refine (Operation.bind_of_ok asked).trans ?_
          unfold answer
          dsimp only
          rw [analyzed]
          rfl
      | error fault =>
          rw [analyzed] at asked
          refine (Operation.bind_of_error asked).trans ?_
          unfold answer
          dsimp only
          rw [analyzed]
          rfl
  | deadNodes =>
      have asked := require_run loaded required fun _ graph => pure (Impact.deadNodes graph)
      exact (Operation.bind_of_ok asked).trans rfl
  | chain id maxDepth =>
      have asked := require_run loaded requiredAny fun _ graph => pure (Impact.chain graph id maxDepth)
      exact (Operation.bind_of_ok asked).trans rfl
  | named name file =>
      have asked := require_run loaded requiredAny fun _ graph => pure (Impact.named graph name file)
      exact (Operation.bind_of_ok asked).trans rfl

theorem ask_of_error {fault : Fault} (failed : ensureLoaded analysis bench = (.error fault, ready))
    (question : Question) : question.ask analysis bench = (.error fault, ready) := by
  cases question with
  | impact file function maxDepth => exact Operation.bind_of_error (Operation.bind_of_error failed)
  | deadNodes => exact Operation.bind_of_error (Operation.bind_of_error failed)
  | chain id maxDepth => exact Operation.bind_of_error (Operation.bind_of_error failed)
  | named name file => exact Operation.bind_of_error (Operation.bind_of_error failed)

end Question

/-! ### Loading -/

section

variable {analysis : String} {bench : Workbench}

theorem withStore_run {α : Type} (action : Store.Action Fault α) (bench : Workbench) :
    withStore action bench =
      ((action bench.store).1, { bench with store := (action bench.store).2 }) := rfl

theorem storing_run {α : Type} (action : Store.Action Store.Fault α) (bench : Workbench) :
    storing action bench =
      ((action bench.store).1.mapError Fault.store,
        { bench with store := (action bench.store).2 }) := rfl

theorem storing_reads {α : Type} {action : Store.Action Store.Fault α} (reads : Store.OnlyReads action)
    (bench : Workbench) :
    storing action bench = ((action bench.store).1.mapError Fault.store, bench) := by
  rw [storing_run, reads bench.store]

theorem ensureLoaded_run (analysis : String) (bench : Workbench) :
    ensureLoaded analysis bench =
      (if bench.loadedAnalysis ≠ some analysis then do
        requireRecord analysis
        let _ ← load analysis
      else pure () : Action Unit) bench := rfl

theorem ensureLoaded_of_loaded (here : bench.loadedAnalysis = some analysis) :
    ensureLoaded analysis bench = (.ok (), bench) := by
  rw [ensureLoaded_run, if_neg (not_not_intro here)]
  rfl

theorem requireRecord_run (analysis : String) (bench : Workbench) :
    requireRecord analysis bench =
      match (Store.findRecord analysis bench.store).1 with
      | .error fault => (.error (.store fault), bench)
      | .ok none => (.error (.unknownAnalysis analysis), bench)
      | .ok (some _) => (.ok (), bench) := by
  have looked := storing_reads (Store.onlyReads_findRecord analysis) bench
  unfold requireRecord
  cases found : (Store.findRecord analysis bench.store).1 with
  | error fault =>
      rw [found] at looked
      exact Operation.bind_of_error looked
  | ok record =>
      rw [found] at looked
      rw [Operation.bind_of_ok looked]
      cases record <;> rfl

theorem load_of_written (settled : Settled bench.store)
    (written : [analysis].findSome? Text.encodeFault? = none) :
    load analysis bench = (.ok (bench.store.visible.graphOf analysis),
      { bench with loaded := some (bench.store.visible.graphOf analysis) }) := by
  have read := storing_reads (Store.onlyReads_fullGraph analysis) bench
  rw [settled.fullGraph_run written] at read
  unfold load
  rw [Operation.bind_of_ok read]
  rfl

/-- What a fresh answer is, in terms of the tables. -/
theorem fresh_of_record (settled : Settled bench.store)
    (written : [analysis].findSome? Text.encodeFault? = none)
    (recorded : bench.store.visible.hasRecord analysis = true) (question : Question) :
    question.fresh bench.store analysis =
      question.answer bench.store (bench.store.visible.graphOf analysis) := by
  rcases settled.findRecord_cases analysis with
    ⟨unwritten, _⟩ | ⟨_, ⟨unrecorded, _⟩ | ⟨_, record, found⟩⟩
  · exact absurd written unwritten
  · rw [recorded] at unrecorded
    cases unrecorded
  · unfold Question.fresh
    rw [found, settled.fullGraph_run written]
    rfl

theorem fresh_of_unrecorded (settled : Settled bench.store)
    (written : [analysis].findSome? Text.encodeFault? = none)
    (unrecorded : bench.store.visible.hasRecord analysis = false) (question : Question) :
    question.fresh bench.store analysis = .error (.unknownAnalysis analysis) := by
  rcases settled.findRecord_cases analysis with
    ⟨unwritten, _⟩ | ⟨_, ⟨_, unknown⟩ | ⟨recorded, _⟩⟩
  · exact absurd written unwritten
  · unfold Question.fresh
    rw [unknown]
    rfl
  · rw [recorded] at unrecorded
    cases unrecorded

/-- A question about an analysis that is not loaded is answered afresh. It loads the graph if there is a record;
otherwise it fails and leaves the workbench as it is. -/
theorem ask_of_other (settled : Settled bench.store) (other : bench.loadedAnalysis ≠ some analysis)
    (question : Question) :
    (question.ask analysis bench).1 = question.fresh bench.store analysis ∧
      (¬ (bench.store.visible.hasRecord analysis = true ∧
            [analysis].findSome? Text.encodeFault? = none) ∧
          (question.ask analysis bench).2 = bench ∨
        (bench.store.visible.hasRecord analysis = true ∧
            [analysis].findSome? Text.encodeFault? = none) ∧
          (question.ask analysis bench).2 =
            { bench with loaded := some (bench.store.visible.graphOf analysis) }) := by
  have required := requireRecord_run analysis bench
  have begun := ensureLoaded_run analysis bench
  rw [if_pos other] at begun
  rcases settled.findRecord_cases analysis with
    ⟨unwritten, fault, failed⟩ | ⟨written, ⟨unrecorded, unknown⟩ | ⟨recorded, record, found⟩⟩
  · rw [failed] at required
    rw [Operation.bind_of_error required] at begun
    rw [Question.ask_of_error begun]
    refine ⟨?_, Or.inl ⟨fun both => unwritten both.2, rfl⟩⟩
    unfold Question.fresh
    rw [failed]
    rfl
  · rw [unknown] at required
    rw [Operation.bind_of_error required] at begun
    rw [Question.ask_of_error begun, fresh_of_unrecorded settled written unrecorded]
    refine ⟨rfl, Or.inl ⟨?_, rfl⟩⟩
    rw [unrecorded]
    exact fun both => nomatch both.1
  · rw [found] at required
    rw [Operation.bind_of_ok required, Operation.bind_of_ok (load_of_written settled written)] at begun
    rw [Question.ask_of_loaded begun rfl rfl, fresh_of_record settled written recorded]
    exact ⟨rfl, Or.inr ⟨⟨recorded, written⟩, rfl⟩⟩

end

/-! ### Builds at the workbench -/

theorem builderOf_reads (settings : Settings) :
    (builderOf settings).extractor = .ofTable .standard := rfl

theorem build_of_unlocated {workspace : Workspace} {request : BuildRequest} {fault : Fault}
    (unlocated : projectPath workspace request.path = .error fault) (cancel : Cancellation)
    (now : String) (bench : Workbench) :
    build workspace request cancel now bench = (.error fault, bench) := by
  have lifted : (liftM (.error fault : Except Fault String) : Action String) bench =
    (.error fault, bench) := rfl
  unfold build
  rw [unlocated]
  exact Operation.bind_of_error lifted

theorem build_of_located {workspace : Workspace} {request : BuildRequest} {project : String}
    (located : projectPath workspace request.path = .ok project) (cancel : Cancellation)
    (now : String) (bench : Workbench) :
    build workspace request cancel now bench =
      buildAt workspace (optionsOf bench.settings workspace request project) cancel now bench := by
  have lifted : (liftM (.ok project : Except Fault String) : Action String) bench =
    (.ok project, bench) := rfl
  have got : (get : Action Workbench) bench = (.ok bench, bench) := rfl
  unfold build
  rw [located, Operation.bind_of_ok lifted]
  dsimp only
  rw [Operation.bind_of_ok got]

/-- How a build at the workbench goes: the record may fail, then the build may, and then the graph may have to be
loaded again. -/
theorem buildAt_cases (workspace : Workspace) (options : BuildOptions) (cancel : Cancellation)
    (now : String) (bench : Workbench) :
    let record := Store.recordAnalysis (.str options.analysis)
      (.str (workspace.shownPath options.project)) now bench.store
    let builder := builderOf bench.settings
    (∃ cause first, record = (.error cause, first) ∧
      buildAt workspace options cancel now bench = (.error (.store cause), { bench with store := first })) ∨
    ∃ first, record = (.ok (), first) ∧
      ((∃ fault second, builder.build workspace options cancel first = (.error fault, second) ∧
        buildAt workspace options cancel now bench = (.error fault, { bench with store := second })) ∨
      ∃ report second, builder.build workspace options cancel first = (.ok report, second) ∧
        buildAt workspace options cancel now bench =
          (do
            if bench.loadedAnalysis = some options.analysis then
              let _ ← load options.analysis
            pure report : Action BuildReport) { bench with store := second }) := by
  intro record builder
  have got : (get : Action Workbench) bench = (.ok bench, bench) := rfl
  have kept := storing_run (Store.recordAnalysis (.str options.analysis)
    (.str (workspace.shownPath options.project)) now) bench
  unfold buildAt
  rw [Operation.bind_of_ok got]
  rcases recorded : record with ⟨cause | _, first⟩
  · left
    change storing _ bench = (record.1.mapError Fault.store, { bench with store := record.2 }) at kept
    rw [recorded] at kept
    exact ⟨cause, first, rfl, Operation.bind_of_error kept⟩
  · right
    change storing _ bench = (record.1.mapError Fault.store, { bench with store := record.2 }) at kept
    rw [recorded] at kept
    have built := withStore_run (builder.build workspace options cancel) { bench with store := first }
    refine ⟨first, rfl, ?_⟩
    rw [Operation.bind_of_ok kept]
    dsimp only at built
    rcases outcome : builder.build workspace options cancel first with ⟨fault | report, second⟩
    · left
      rw [outcome] at built
      exact ⟨fault, second, rfl, Operation.bind_of_error built⟩
    · right
      rw [outcome] at built
      exact ⟨report, second, rfl, (Operation.bind_of_ok built).trans rfl⟩

end ChangeImpact.Workbench
