import ChangeImpact.Proofs.Questions
import Mathlib.Data.List.Induction

/-!
Whether the workbench answers from what is stored. Its answers are those that a fresh look would give unless the store
has lost the analysis since it was loaded, which only a deletion of it or a build of it that fails can bring about.
-/

set_option autoImplicit false

namespace ChangeImpact.Store

/-! ### What changes leave of an analysis -/

/-- The graph of an analysis stays, and its record if it had one. -/
structure Spares (analysis : String) (before after : Store) : Prop where
  graph : after.visible.graphOf analysis = before.visible.graphOf analysis
  record : before.visible.hasRecord analysis = true → after.visible.hasRecord analysis = true

def Lacks (analysis : String) (store : Store) : Prop :=
  store.visible.graphOf analysis = { analysis, nodes := [], edges := [] }

variable {analysis : String} {store after : Store}

theorem Spares.of_visible (same : after.visible = store.visible) : Spares analysis store after := by
  constructor
  · rw [same]
  · rw [same]
    exact fun recorded => recorded

theorem Spares.trans {one two three : Store} (first : Spares analysis one two)
    (second : Spares analysis two three) : Spares analysis one three :=
  ⟨second.graph.trans first.graph, fun recorded => second.record (first.record recorded)⟩

theorem Image.hasRecord_congr {one two : Image} (same : one.records = two.records) :
    one.hasRecord analysis = two.hasRecord analysis := by
  unfold hasRecord
  rw [same]

theorem Image.hasRecord_putRecord {record : Record} {image : Image}
    (recorded : image.hasRecord analysis = true ∨ record.id = some analysis) :
    (image.putRecord record).hasRecord analysis = true := by
  unfold putRecord hasRecord at *
  split
  · rename_i known
    have kept : ∀ other : Record, (if other.id == record.id then
        { other with path := record.path, updatedAt := record.updatedAt } else other).id = other.id := by
      intro other
      split <;> rfl
    dsimp only
    rw [List.any_map]
    simp only [Function.comp_def, kept]
    rcases recorded with before | own
    · exact before
    · rw [own] at known
      exact (Bool.and_eq_true_iff.mp known).2
  · rw [List.any_append, Bool.or_eq_true]
    rcases recorded with before | own
    · exact Or.inl before
    · right
      rw [List.any_cons, own, beq_self_eq_true, Bool.true_or]

theorem Settled.recordAnalysis_spares (settled : Settled store) {value path : Json.Value}
    {now : String} {result : Except Fault Unit}
    (done : recordAnalysis value path now store = (result, after)) : Spares analysis store after := by
  cases result with
  | error fault =>
      have ends := settled.ends_recordAnalysis value path now
      rw [done] at ends
      obtain ⟨next, _, rfl⟩ := ends.of_error
      exact Spares.of_visible rfl
  | ok _ =>
      obtain ⟨_, record, _, _, rfl⟩ := settled.recordAnalysis_ok done
      constructor
      · change (store.visible.putRecord record).graphOf analysis = _
        unfold Image.putRecord
        split <;> rfl
      · exact fun recorded => Image.hasRecord_putRecord (Or.inl recorded)

/-- A text under which a record is kept is one that can be written. -/
theorem Settled.recordAnalysis_str (settled : Settled store) {path : Json.Value} {now : String}
    (done : recordAnalysis (.str analysis) path now store = (.ok (), after)) :
    after.visible.hasRecord analysis = true ∧ [analysis].findSome? Text.encodeFault? = none := by
  obtain ⟨cell, record, bound, own, rfl⟩ := settled.recordAnalysis_ok done
  have written : Text.encodeFault? analysis = none := by
    unfold Cell.bind at bound
    dsimp only at bound
    split at bound
    · cases bound
    · assumption
  rw [Cell.bind_str bound] at own
  constructor
  · exact Image.hasRecord_putRecord (Or.inr own)
  · rw [List.findSome?_cons, written]
    rfl

theorem Valid.deleteAnalysis_cases (valid : Valid store) {other : String}
    {result : Except Fault Bool} (done : Store.deleteAnalysis other store = (result, after)) :
    Spares analysis store after ∨ other = analysis ∧ Lacks analysis after := by
  cases result with
  | error fault =>
      have ends := valid.settled.ends_deleteAnalysis other
      rw [done] at ends
      obtain ⟨next, _, rfl⟩ := ends.of_error
      exact Or.inl (Spares.of_visible rfl)
  | ok known =>
      obtain ⟨visible, _⟩ := deleteAnalysis_ok done
      by_cases same : other = analysis
      · subst same
        right
        refine ⟨rfl, ?_⟩
        unfold Lacks
        rw [visible]
        exact Image.graphOf_without_self other store.visible
      · left
        constructor
        · rw [visible]
          exact valid.sound.graphOf_without fun equal => same equal.symm
        · rw [visible]
          intro recorded
          obtain ⟨record, member, own⟩ := List.any_eq_true.mp recorded
          refine List.any_eq_true.mpr ⟨record, List.mem_filter.mpr ⟨member, ?_⟩, own⟩
          rw [beq_iff_eq.mp own]
          simpa using fun equal => same equal.symm

/-- A deletion leaves no record. -/
theorem Settled.deleteAnalysis_unrecorded (settled : Settled store)
    (written : [analysis].findSome? Text.encodeFault? = none) :
    (deleteAnalysis analysis store).2.visible.hasRecord analysis = false := by
  obtain ⟨known, last, done, _⟩ := succeeds_deleteAnalysis written store settled.isClosed
  rw [done, (deleteAnalysis_ok done).1]
  refine List.any_eq_false.mpr fun record member => ?_
  have kept := of_decide_eq_true (List.mem_filter.mp member).2
  rwa [beq_iff_eq]

/-- A build leaves all other analyses, and one that fails may have taken the graph of its own away. -/
theorem Valid.build_cases (valid : Valid store) (analysis : String) {builder : Builder}
    {table : LanguageTable} (reads : builder.extractor = .ofTable table) {workspace : Workspace}
    {options : BuildOptions} {cancel : Cancellation} {result : Except ChangeImpact.Fault BuildReport}
    (done : builder.build workspace options cancel store = (result, after)) :
    after.visible.records = store.visible.records ∧
      (Spares analysis store after ∨ options.analysis = analysis ∧
        (Lacks analysis after ∨ ∃ report, result = .ok report)) := by
  cases result with
  | error fault =>
      obtain ⟨image, next, _, rfl, rfl | rfl⟩ := Builder.build_of_error valid.settled done
      · exact ⟨rfl, Or.inl (Spares.of_visible rfl)⟩
      · refine ⟨rfl, ?_⟩
        by_cases same : options.analysis = analysis
        · subst same
          exact Or.inr ⟨rfl, Or.inl (Image.graphOf_without_self _ _)⟩
        · left
          exact ⟨valid.sound.graphOf_without (Ne.symm same), fun recorded => recorded⟩
  | ok report =>
      obtain ⟨extractions, assembly, _, made, rfl⟩ := Builder.build_of_ok valid.settled reads done
      refine ⟨rfl, ?_⟩
      by_cases same : options.analysis = analysis
      · exact Or.inr ⟨same, Or.inr ⟨report, rfl⟩⟩
      · left
        have different : analysis ≠ options.analysis := Ne.symm same
        refine ⟨?_, fun recorded => recorded⟩
        exact (Builder.Assembly.graphOf_addTo_other made different _).trans
          (valid.sound.graphOf_without different)

end ChangeImpact.Store

namespace ChangeImpact.Workbench

open ChangeImpact.Store (Settled Valid Image Spares Lacks)

/-! ### Steps -/

inductive BenchStep where
  | build (workspace : Workspace) (request : BuildRequest) (cancel : Cancellation) (now : String)
  | ask (analysis : String) (question : Question)
  | delete (analysis : String)

namespace BenchStep

def run (bench : Workbench) : BenchStep → Workbench
  | .build workspace request cancel now => (Workbench.build workspace request cancel now bench).2
  | .ask analysis question => (question.ask analysis bench).2
  | .delete analysis => { bench with store := (Store.deleteAnalysis analysis bench.store).2 }

/-- The steps that may take away what is stored of an analysis: its deletion, and a build of it that fails. -/
def Harms (analysis : String) (bench : Workbench) : BenchStep → Prop
  | .build workspace request cancel now =>
      (∃ project, projectPath workspace request.path = .ok project ∧
        (optionsOf bench.settings workspace request project).analysis = analysis) ∧
      ∃ fault, (Workbench.build workspace request cancel now bench).1 = .error fault
  | .ask _ _ => False
  | .delete other => other = analysis

end BenchStep

inductive Effect (analysis : String) (before after : Workbench) (harmful : Prop) : Prop
  | spared (same : after.loaded = before.loaded)
      (spares : Spares analysis before.store after.store)
  | lost (same : after.loaded = before.loaded) (lacks : Lacks analysis after.store)
      (harm : harmful)
  | unloaded (other : after.loadedAnalysis ≠ some analysis)
  | loaded (here : after.loaded = some (after.store.visible.graphOf analysis))
      (recorded : after.store.visible.hasRecord analysis = true)
      (written : [analysis].findSome? Text.encodeFault? = none)

theorem Effect.mono {analysis : String} {before after : Workbench} {one two : Prop}
    (effect : Effect analysis before after one) (implies : one → two) :
    Effect analysis before after two := by
  cases effect with
  | spared same spares => exact .spared same spares
  | lost same lacks harm => exact .lost same lacks (implies harm)
  | unloaded other => exact .unloaded other
  | loaded here recorded written => exact .loaded here recorded written

section

variable {bench : Workbench}

/-- A question about the analysis that is loaded changes nothing. -/
theorem ask_of_here {analysis : String} (here : bench.loadedAnalysis = some analysis)
    (question : Question) :
    ∃ graph, bench.loaded = some graph ∧ graph.analysis = analysis ∧
      question.ask analysis bench = (question.answer bench.store graph, bench) := by
  obtain ⟨graph, loaded, own⟩ := Option.map_eq_some_iff.mp here
  exact ⟨graph, loaded, own,
    Question.ask_of_loaded (ensureLoaded_of_loaded here) loaded own question⟩

theorem ask_effect (valid : Valid bench.store) (other : String) (question : Question)
    (analysis : String) :
    Valid (question.ask other bench).2.store ∧
      Effect analysis bench (question.ask other bench).2 False := by
  have unchanged : Effect analysis bench bench False := .spared rfl (Spares.of_visible rfl)
  by_cases here : bench.loadedAnalysis = some other
  · obtain ⟨graph, _, _, asked⟩ := ask_of_here here question
    rw [asked]
    exact ⟨valid, unchanged⟩
  · rcases (ask_of_other valid.settled here question).2 with
      ⟨_, same⟩ | ⟨⟨recorded, written⟩, same⟩
    · rw [same]
      exact ⟨valid, unchanged⟩
    · rw [same]
      refine ⟨valid, ?_⟩
      by_cases own : other = analysis
      · subst own
        exact .loaded rfl recorded written
      · exact .unloaded fun loaded => own (Option.some.inj loaded)

theorem delete_effect (valid : Valid bench.store) (other analysis : String) :
    Valid (Store.deleteAnalysis other bench.store).2 ∧
      Effect analysis bench { bench with store := (Store.deleteAnalysis other bench.store).2 }
        (other = analysis) := by
  refine ⟨valid.deleteAnalysis other, ?_⟩
  cases outcome : Store.deleteAnalysis other bench.store with
  | mk result store =>
      rcases valid.deleteAnalysis_cases outcome with spares | ⟨own, lacks⟩
      · exact .spared rfl spares
      · exact .lost rfl lacks own

/-- What a build at the workbench can do. -/
theorem buildAt_effect (valid : Valid bench.store) (workspace : Workspace) (options : BuildOptions)
    (cancel : Cancellation) (now analysis : String) :
    Valid (buildAt workspace options cancel now bench).2.store ∧
      Effect analysis bench (buildAt workspace options cancel now bench).2
        (options.analysis = analysis ∧
          ∃ fault, (buildAt workspace options cancel now bench).1 = .error fault) := by
  have validFirst := valid.recordAnalysis (.str options.analysis)
    (.str (workspace.shownPath options.project)) now
  rcases buildAt_cases workspace options cancel now bench with
    ⟨cause, first, recorded, ended⟩ | ⟨first, recorded, built⟩
  · rw [recorded] at validFirst
    rw [ended]
    exact ⟨validFirst, .spared rfl (valid.settled.recordAnalysis_spares recorded)⟩
  rw [recorded] at validFirst
  obtain ⟨hasRecord, written⟩ := valid.settled.recordAnalysis_str recorded
  have spared : Spares analysis bench.store first := valid.settled.recordAnalysis_spares recorded
  have reads := builderOf_reads bench.settings
  rcases built with ⟨fault, second, outcome, ended⟩ | ⟨report, second, outcome, ended⟩
  · have validSecond := validFirst.build reads workspace options cancel
    rw [outcome] at validSecond
    rw [ended]
    refine ⟨validSecond, ?_⟩
    rcases (validFirst.build_cases analysis reads outcome).2 with spares | ⟨own, lacks | ⟨report, done⟩⟩
    · exact .spared rfl (spared.trans spares)
    · exact .lost rfl lacks ⟨own, fault, rfl⟩
    · cases done
  · have validSecond := validFirst.build reads workspace options cancel
    rw [outcome] at validSecond
    obtain ⟨records, kept⟩ := validFirst.build_cases analysis reads outcome
    by_cases here : bench.loadedAnalysis = some options.analysis
    · have settled : Settled ({ bench with store := second } : Workbench).store := validSecond.settled
      rw [if_pos here, Operation.bind_of_ok (load_of_written settled written)] at ended
      rw [ended]
      refine ⟨validSecond, ?_⟩
      by_cases own : options.analysis = analysis
      · subst own
        exact .loaded rfl ((Image.hasRecord_congr records).trans hasRecord) written
      · exact .unloaded fun loaded => own (Option.some.inj loaded)
    · -- A new graph of an analysis that is not loaded takes nothing from the one that is.
      rw [if_neg here] at ended
      rw [ended]
      refine ⟨validSecond, ?_⟩
      rcases kept with spares | ⟨own, _⟩
      · exact .spared rfl (spared.trans spares)
      · subst own
        exact .unloaded here

/-- A build leaves a record of its analysis if it could be made, whatever else becomes of the build. -/
theorem buildAt_recorded (valid : Valid bench.store) {workspace : Workspace} {options : BuildOptions}
    {now : String} {first : Store} (other : bench.loadedAnalysis ≠ some options.analysis)
    (recorded : Store.recordAnalysis (.str options.analysis)
      (.str (workspace.shownPath options.project)) now bench.store = (.ok (), first))
    (cancel : Cancellation) :
    (buildAt workspace options cancel now bench).2.store.visible.hasRecord options.analysis = true ∧
      (buildAt workspace options cancel now bench).2.loaded = bench.loaded := by
  have validFirst := valid.recordAnalysis (.str options.analysis)
    (.str (workspace.shownPath options.project)) now
  rw [recorded] at validFirst
  have kept := (valid.settled.recordAnalysis_str recorded).1
  have reads := builderOf_reads bench.settings
  rcases buildAt_cases workspace options cancel now bench with
    ⟨cause, _, failed, _⟩ | ⟨second, again, built⟩
  · cases recorded.symm.trans failed
  cases recorded.symm.trans again
  rcases built with ⟨fault, second, outcome, ended⟩ | ⟨report, second, outcome, ended⟩
  · have records := (validFirst.build_cases options.analysis reads outcome).1
    rw [ended]
    exact ⟨(Image.hasRecord_congr records).trans kept, rfl⟩
  · have records := (validFirst.build_cases options.analysis reads outcome).1
    rw [if_neg other] at ended
    rw [ended]
    exact ⟨(Image.hasRecord_congr records).trans kept, rfl⟩

theorem BenchStep.effect (valid : Valid bench.store) (step : BenchStep) (analysis : String) :
    Valid (step.run bench).store ∧
      Effect analysis bench (step.run bench) (step.Harms analysis bench) := by
  cases step with
  | build workspace request cancel now =>
      unfold BenchStep.run BenchStep.Harms
      dsimp only
      cases located : projectPath workspace request.path with
      | error fault =>
          rw [build_of_unlocated located]
          exact ⟨valid, .spared rfl (Spares.of_visible rfl)⟩
      | ok project =>
          rw [build_of_located located]
          obtain ⟨kept, effect⟩ := buildAt_effect valid workspace
            (optionsOf bench.settings workspace request project) cancel now analysis
          refine ⟨kept, effect.mono ?_⟩
          rintro ⟨own, failed⟩
          exact ⟨⟨project, rfl, own⟩, failed⟩
  | ask other question => exact ask_effect valid other question analysis
  | delete other => exact delete_effect valid other analysis

/-! ### Runs -/

def after (settings : Settings) (steps : List BenchStep) : Workbench :=
  steps.foldl BenchStep.run { store := {}, settings }

theorem after_append_singleton (settings : Settings) (steps : List BenchStep) (step : BenchStep) :
    after settings (steps ++ [step]) = step.run (after settings steps) := by
  unfold after
  rw [List.foldl_append]
  rfl

/-- The loaded graph is that of an analysis, and is not what a fresh look would find. -/
def Stale (analysis : String) (bench : Workbench) : Prop :=
  ∃ graph, bench.loaded = some graph ∧ graph.analysis = analysis ∧
    ¬ (bench.store.visible.hasRecord analysis = true ∧
      bench.store.visible.graphOf analysis = graph)

/-- What a store still has of a graph that was loaded from it: all of it, or nothing. -/
structure Backed (store : Store) (graph : Graph) : Prop where
  written : [graph.analysis].findSome? Text.encodeFault? = none
  closed : graph.Closed
  stored : store.visible.hasRecord graph.analysis = true ∧
      store.visible.graphOf graph.analysis = graph ∨
    Lacks graph.analysis store

theorem Backed.step {graph : Graph} (valid : Valid bench.store)
    (backed : ∀ known, bench.loaded = some known → Backed bench.store known) (step : BenchStep)
    (here : (step.run bench).loaded = some graph) : Backed (step.run bench).store graph := by
  obtain ⟨kept, effect⟩ := step.effect valid graph.analysis
  cases effect with
  | spared same spares =>
      obtain ⟨written, closed, stored⟩ := backed graph (same.symm.trans here)
      refine ⟨written, closed, ?_⟩
      rcases stored with ⟨recorded, whole⟩ | lacks
      · exact Or.inl ⟨spares.record recorded, spares.graph.trans whole⟩
      · exact Or.inr (spares.graph.trans lacks)
  | lost same lacks _ =>
      obtain ⟨written, closed, _⟩ := backed graph (same.symm.trans here)
      exact ⟨written, closed, Or.inr lacks⟩
  | unloaded other =>
      refine absurd ?_ other
      unfold loadedAnalysis
      rw [here]
      rfl
  | loaded own recorded written =>
      have whole := Option.some.inj (own.symm.trans here)
      refine ⟨written, ?_, Or.inl ⟨recorded, whole⟩⟩
      have typed := kept.sound.typed graph.analysis
      rw [whole] at typed
      exact typed.closed

theorem after_backed (settings : Settings) (steps : List BenchStep) :
    Valid (after settings steps).store ∧
      ∀ graph, (after settings steps).loaded = some graph →
        Backed (after settings steps).store graph := by
  induction steps using List.reverseRecOn with
  | nil => exact ⟨Store.valid_initial, fun graph loaded => nomatch loaded⟩
  | append_singleton steps step ih =>
      rw [after_append_singleton]
      exact ⟨(step.effect ih.1 "").1, fun graph => Backed.step ih.1 ih.2 step⟩

/-- A step that makes the loaded graph stale is one that harms its analysis. -/
theorem Stale.step {analysis : String} (valid : Valid bench.store) (step : BenchStep)
    (stale : Stale analysis (step.run bench)) :
    (step.run bench).loaded = bench.loaded ∧ (Stale analysis bench ∨ step.Harms analysis bench) := by
  obtain ⟨graph, here, own, differs⟩ := stale
  cases (step.effect valid analysis).2 with
  | spared same spares =>
      refine ⟨same, Or.inl ⟨graph, same.symm.trans here, own, ?_⟩⟩
      rintro ⟨recorded, whole⟩
      exact differs ⟨spares.record recorded, spares.graph.trans whole⟩
  | lost same _ harm => exact ⟨same, Or.inr harm⟩
  | unloaded other =>
      refine absurd ?_ other
      unfold loadedAnalysis
      rw [here, ← own]
      rfl
  | loaded whole recorded _ =>
      exact absurd ⟨recorded, Option.some.inj (whole.symm.trans here)⟩ differs

/-- A deletion of the analysis that is loaded makes its graph stale. -/
theorem Stale.of_delete {analysis : String} (valid : Valid bench.store)
    (backed : ∀ graph, bench.loaded = some graph → Backed bench.store graph)
    (here : bench.loadedAnalysis = some analysis) :
    Stale analysis ((BenchStep.delete analysis).run bench) := by
  obtain ⟨graph, loaded, rfl⟩ := Option.map_eq_some_iff.mp here
  have unrecorded := valid.settled.deleteAnalysis_unrecorded (backed graph loaded).written
  refine ⟨graph, loaded, rfl, ?_⟩
  rintro ⟨recorded, _⟩
  exact Bool.false_ne_true (unrecorded.symm.trans recorded)

theorem Stale.exists_harm {settings : Settings} {steps : List BenchStep} {analysis : String}
    (stale : Stale analysis (after settings steps)) :
    ∃ before step later, steps = before ++ step :: later ∧
      step.Harms analysis (after settings before) ∧
      (after settings before).loaded = (after settings steps).loaded := by
  induction steps using List.reverseRecOn with
  | nil =>
      obtain ⟨graph, here, _⟩ := stale
      cases here
  | append_singleton steps step ih =>
      rw [after_append_singleton] at stale ⊢
      obtain ⟨same, earlier | harm⟩ := stale.step (after_backed settings steps).1
      · obtain ⟨before, first, later, rfl, harm, loaded⟩ := ih earlier
        refine ⟨before, first, later ++ [step], ?_, harm, loaded.trans same.symm⟩
        rw [List.append_assoc, List.cons_append]
      · exact ⟨steps, step, [], rfl, harm, same.symm⟩

/-- A closed graph without nodes is empty. -/
theorem eq_empty_of_closed {graph : Graph} (closed : graph.Closed) (bare : graph.nodes = []) :
    graph = { analysis := graph.analysis, nodes := [], edges := [] } := by
  obtain ⟨analysis, nodes, edges⟩ := graph
  cases bare
  cases edges with
  | nil => rfl
  | cons edge rest =>
      have ends := closed edge List.mem_cons_self
      cases ends.1

/-- Some question shows that a graph is stale: what is dead in it if it has no record, and otherwise what has the
name of one of its nodes. -/
theorem Stale.exists_question {analysis : String} (valid : Valid bench.store)
    (backed : ∀ graph, bench.loaded = some graph → Backed bench.store graph)
    (stale : Stale analysis bench) :
    ∃ question : Question,
      (question.ask analysis bench).1 ≠ question.fresh bench.store analysis := by
  obtain ⟨graph, here, rfl, differs⟩ := stale
  obtain ⟨written, closed, stored⟩ := backed graph here
  have loaded : bench.loadedAnalysis = some graph.analysis := by
    unfold loadedAnalysis
    rw [here]
    rfl
  have asked := Question.ask_of_loaded (ensureLoaded_of_loaded loaded) here rfl
  cases recorded : bench.store.visible.hasRecord graph.analysis with
  | false =>
      refine ⟨.deadNodes, ?_⟩
      rw [asked, fresh_of_unrecorded valid.settled written recorded]
      exact fun same => nomatch same
  | true =>
      -- There is a record, so the store has lost the graph; only a graph with nodes differs from the empty one.
      rcases stored with whole | lacks
      · exact absurd whole differs
      cases nodes : graph.nodes with
      | nil => exact absurd ⟨recorded, lacks.trans (eq_empty_of_closed closed nodes).symm⟩ differs
      | cons node rest =>
          refine ⟨.named node.name none, ?_⟩
          rw [asked, fresh_of_record valid.settled written recorded, lacks]
          intro same
          have absent : Impact.named graph node.name none = [] := Reply.nodes.inj (Except.ok.inj same)
          have member : node ∈ Impact.named graph node.name none := by
            refine List.mem_filter.mpr ⟨?_, ?_⟩
            · rw [nodes]
              exact List.mem_cons_self
            · rw [beq_self_eq_true]
              rfl
          rw [absent] at member
          cases member

theorem ask_of_not_stale {analysis : String} (valid : Valid bench.store)
    (backed : ∀ graph, bench.loaded = some graph → Backed bench.store graph)
    (current : ¬ Stale analysis bench) (question : Question) :
    (question.ask analysis bench).1 = question.fresh bench.store analysis := by
  by_cases here : bench.loadedAnalysis = some analysis
  · obtain ⟨graph, loaded, rfl, asked⟩ := ask_of_here here question
    obtain ⟨recorded, whole⟩ := not_not.mp fun differs => current ⟨graph, loaded, rfl, differs⟩
    rw [asked, fresh_of_record valid.settled (backed graph loaded).written recorded, whole]
  · exact (ask_of_other valid.settled here question).1

end

/-- The answers about an analysis are fresh, whatever has happened, exactly if the loaded graph is not a stale one of
it. It can only be stale because of a deletion of the analysis, or a build of it that failed, since which the graph has
stayed loaded; and every deletion of the analysis that is loaded makes it so. -/
theorem answers_fresh_iff (settings : Settings) (steps : List BenchStep) (analysis : String) :
    ((∀ question : Question, (question.ask analysis (after settings steps)).1 =
        question.fresh (after settings steps).store analysis) ↔
      ¬ Stale analysis (after settings steps)) ∧
    (Stale analysis (after settings steps) →
      ∃ before step later, steps = before ++ step :: later ∧
        step.Harms analysis (after settings before) ∧
        (after settings before).loaded = (after settings steps).loaded) ∧
    ((after settings steps).loadedAnalysis = some analysis →
      Stale analysis (after settings (steps ++ [.delete analysis]))) := by
  obtain ⟨valid, backed⟩ := after_backed settings steps
  refine ⟨⟨?_, ask_of_not_stale valid backed⟩, Stale.exists_harm, ?_⟩
  · intro fresh stale
    obtain ⟨question, differs⟩ := stale.exists_question valid backed
    exact differs (fresh question)
  · intro here
    rw [after_append_singleton]
    exact Stale.of_delete valid backed here

/-! ### A stale answer -/

private theorem empty_route (purpose : Workspace.Purpose) :
    (Workspace.empty "w").route purpose "" = .ok (.found Workspace.base) := by
  have parts : Path.components "" = [] := by decide +kernel
  have short : ¬ Workspace.maxPathOctets < "".utf8ByteSize := by decide +kernel
  have plain : Text.hasNull "" = false := by decide +kernel
  unfold Workspace.route
  rw [plain, if_neg short, parts, Workspace.follow]
  rfl

def emptyRequest : BuildRequest := { path := ".", analysis := some "a" }

private theorem emptyRequest_projectPath : projectPath (.empty "w") emptyRequest.path = .ok "" := by
  have real : (Workspace.empty "w").realPath "." = .ok "" := by
    have place : Workspace.pathTo
        ((Tracing.ofPath (.empty "w") ".").place.foldl (Path.step true) []).reverse = "" := by
      decide +kernel
    have plain : Text.hasNull "." = false := by decide +kernel
    unfold Workspace.realPath
    dsimp only
    rw [plain, place, empty_route]
    rfl
  have located : (Workspace.empty "w").locate "" = .ok (Workspace.base, .directory []) := by
    unfold Workspace.locate
    rw [empty_route]
    rfl
  change projectPath (.empty "w") "." = _
  unfold projectPath
  rw [real]
  dsimp only [Except.mapError, bind, Except.bind]
  rw [located]

def emptyOptions : BuildOptions := optionsOf {} (.empty "w") emptyRequest ""

private theorem emptyOptions_analysis : emptyOptions.analysis = "a" := by decide +kernel

private theorem emptyOptions_recorded :
    ∃ first, Store.recordAnalysis (.str emptyOptions.analysis)
      (.str ((Workspace.empty "w").shownPath emptyOptions.project)) "" {} = (.ok (), first) := by
  have done : (Store.recordAnalysis (.str emptyOptions.analysis)
      (.str ((Workspace.empty "w").shownPath emptyOptions.project)) "" {}).1.isOk = true := by
    decide +kernel
  rcases outcome : Store.recordAnalysis (.str emptyOptions.analysis)
    (.str ((Workspace.empty "w").shownPath emptyOptions.project)) "" {} with ⟨fault | _, first⟩
  · rw [outcome] at done
    cases done
  · exact ⟨first, rfl⟩

/-- A build of a project without files, a question about it, and its deletion. -/
def forgetting : List BenchStep :=
  [.build (.empty "w") emptyRequest {} "", .ask "a" .deadNodes, .delete "a"]

theorem forgetting_loaded : (after {} (forgetting.take 2)).loadedAnalysis = some "a" := by
  have valid := (after_backed {} (forgetting.take 1)).1
  have kept : (after {} (forgetting.take 1)).store.visible.hasRecord "a" = true ∧
      (after {} (forgetting.take 1)).loaded = none := by
    have begun : after {} (forgetting.take 1) =
        (build (.empty "w") emptyRequest {} "" { store := {} }).2 := rfl
    have unloaded : ({ store := {} } : Workbench).loadedAnalysis ≠ some emptyOptions.analysis :=
      fun same => nomatch same
    obtain ⟨first, recorded⟩ := emptyOptions_recorded
    have kept := buildAt_recorded Store.valid_initial unloaded recorded {}
    rw [emptyOptions_analysis] at kept
    rw [begun, build_of_located emptyRequest_projectPath]
    exact kept
  have written : ["a"].findSome? Text.encodeFault? = none := by decide +kernel
  have other : (after {} (forgetting.take 1)).loadedAnalysis ≠ some "a" := by
    unfold loadedAnalysis
    rw [kept.2]
    exact fun same => nomatch same
  rcases (ask_of_other valid.settled other .deadNodes).2 with ⟨unknown, _⟩ | ⟨_, loaded⟩
  · exact absurd ⟨kept.1, written⟩ unknown
  · have asked : after {} (forgetting.take 2) =
        (Question.deadNodes.ask "a" (after {} (forgetting.take 1))).2 :=
      after_append_singleton {} (forgetting.take 1) (.ask "a" .deadNodes)
    rw [asked, loaded]
    rfl

theorem answers_stale_forgetting :
    (∃ nodes, (Question.deadNodes.ask "a" (after {} forgetting)).1 = .ok (.nodes nodes)) ∧
      Question.deadNodes.fresh (after {} forgetting).store "a" = .error (.unknownAnalysis "a") := by
  have ended : after {} forgetting =
      (BenchStep.delete "a").run (after {} (forgetting.take 2)) := after_append_singleton {} (forgetting.take 2) _
  obtain ⟨valid, backed⟩ := after_backed {} (forgetting.take 2)
  obtain ⟨graph, loaded, own⟩ := Option.map_eq_some_iff.mp forgetting_loaded
  have written : ["a"].findSome? Text.encodeFault? = none := own ▸ (backed graph loaded).written
  have here : (after {} forgetting).loadedAnalysis = some "a" := by
    rw [ended]
    exact forgetting_loaded
  constructor
  · obtain ⟨_, _, _, asked⟩ := ask_of_here here .deadNodes
    rw [asked]
    exact ⟨_, rfl⟩
  · have settled := (after_backed {} forgetting).1.settled
    have unrecorded := valid.settled.deleteAnalysis_unrecorded written
    rw [ended] at settled ⊢
    exact fresh_of_unrecorded settled written unrecorded .deadNodes

end ChangeImpact.Workbench
