import ChangeImpact.Proofs.Dependents
import ChangeImpact.Proofs.EdgesKept
import ChangeImpact.Session.Run

/-!
Every graph in the store is well typed, after whatever was done to the store. Graphs of different analyses share
no node, so that a graph can be taken away or built anew without touching the others.
-/

set_option autoImplicit false

namespace ChangeImpact.Store

/-! ### Images -/

/-- An image whose graphs are all well typed and whose nodes have ids that were given out. -/
structure Image.Sound (image : Image) (next : Nat) : Prop where
  ids : (image.nodes.map Node.id).Nodup
  taken : ∀ node ∈ image.nodes, ∃ number < next, idText number = node.id
  typed : ∀ analysis, (image.graphOf analysis).WellTyped

namespace Image

variable {image : Image} {next : Nat}

theorem sound_initial (next : Nat) : Image.Sound {} next :=
  ⟨List.nodup_nil, List.forall_mem_nil _, Graph.wellTyped_empty⟩

theorem Sound.later (sound : image.Sound next) {more : Nat} (later : next ≤ more) :
    image.Sound more := by
  refine ⟨sound.ids, ?_, sound.typed⟩
  intro node member
  obtain ⟨number, given, same⟩ := sound.taken node member
  exact ⟨number, Nat.lt_of_lt_of_le given later, same⟩

/-- Only nodes and edges count. -/
theorem Sound.of_same (sound : image.Sound next) {other : Image} (nodes : other.nodes = image.nodes)
    (edges : other.edges = image.edges) : other.Sound next := by
  have graphs : ∀ analysis, other.graphOf analysis = image.graphOf analysis := by
    intro analysis
    unfold graphOf nodesOf edgesOf
    rw [nodes, edges]
  refine ⟨?_, ?_, ?_⟩
  · rw [nodes]
    exact sound.ids
  · rw [nodes]
    exact sound.taken
  · intro analysis
    rw [graphs]
    exact sound.typed analysis

theorem nodes_without (analysis : String) (image : Image) :
    (image.without analysis).nodes = image.nodes.filter fun node => node.analysis ≠ analysis := rfl

/-- A node of another analysis is still there. -/
theorem hasNode_of_other {analysis other id : String} (different : other ≠ analysis)
    (present : id ∈ (image.nodesOf other).map Node.id) :
    ({ image with nodes := image.nodes.filter fun node => node.analysis ≠ analysis } : Image).hasNode
      id = true := by
  obtain ⟨node, member, rfl⟩ := List.mem_map.mp present
  obtain ⟨stored, own⟩ := List.mem_filter.mp member
  refine List.any_eq_true.mpr ⟨node, List.mem_filter.mpr ⟨stored, ?_⟩, beq_self_eq_true _⟩
  rw [beq_iff_eq.mp own]
  exact decide_eq_true different

/-- Taking a graph away leaves the others: an edge at a node that goes is an edge of the graph that goes. -/
theorem Sound.graphOf_without (sound : image.Sound next) {analysis other : String}
    (different : other ≠ analysis) :
    (image.without analysis).graphOf other = image.graphOf other := by
  have nodes : (image.without analysis).nodesOf other = image.nodesOf other := by
    unfold nodesOf
    rw [nodes_without, List.filter_filter]
    apply List.filter_congr
    intro node _
    by_cases own : node.analysis = other
    · simp [own, different]
    · simp [own]
  have edges : (image.without analysis).edgesOf other = image.edgesOf other := by
    unfold edgesOf without dropNodes dropEdges
    dsimp only
    rw [List.filter_filter, List.filter_filter]
    apply List.filter_congr
    intro edge stored
    by_cases own : edge.analysis = other
    · have member : edge ∈ (image.graphOf other).edges :=
        List.mem_filter.mpr ⟨stored, beq_iff_eq.mpr own⟩
      obtain ⟨source, target⟩ := (sound.typed other).closed edge member
      have sourceStays := hasNode_of_other different source
      have targetStays := hasNode_of_other different target
      unfold hasNode at sourceStays targetStays ⊢
      dsimp only at sourceStays targetStays ⊢
      rw [sourceStays, targetStays]
      simp [own, different]
    · have foreign : (edge.analysis == other) = false := beq_false_of_ne own
      rw [foreign, Bool.false_and, Bool.false_and]
  unfold graphOf
  rw [nodes, edges]

theorem Sound.without (sound : image.Sound next) (analysis : String) :
    (image.without analysis).Sound next := by
  refine ⟨?_, ?_, ?_⟩
  · exact (List.filter_sublist.map Node.id).nodup sound.ids
  · intro node member
    exact sound.taken node (List.mem_filter.mp member).1
  · intro other
    by_cases same : other = analysis
    · rw [same, graphOf_without_self]
      exact Graph.wellTyped_empty analysis
    · rw [sound.graphOf_without same]
      exact sound.typed other

/-! ### Adding a graph -/

section

variable {policy : Policy} {analysis : String} {first : Nat} {extractions : List Extraction}
  {assembly : Builder.Assembly}
  (made : assembly = Builder.assemble policy analysis first extractions)

include made

/-- The ids of an assembly are new, so it can stand beside all other graphs. -/
theorem Sound.addTo (sound : image.Sound first)
    (empty : image.graphOf analysis = { analysis, nodes := [], edges := [] })
    (extracted : ∀ extraction ∈ extractions, extraction.IsSound) :
    (assembly.addTo image).Sound (first + assembly.size) := by
  have fresh : ∀ node ∈ assembly.nodes, ∃ number, first ≤ number ∧
      number < first + assembly.nodes.length ∧ idText number = node.id := by
    intro node member
    apply mem_idsFrom.mp
    rw [← Builder.Assembly.nodes_ids made]
    exact List.mem_map_of_mem member
  refine ⟨?_, ?_, ?_⟩
  · change ((image.nodes ++ assembly.nodes).map Node.id).Nodup
    rw [List.map_append, List.nodup_append]
    refine ⟨sound.ids, ?_, ?_⟩
    · rw [Builder.Assembly.nodes_ids made]
      exact idsFrom_nodup _ _
    · intro left inImage right inAssembly same
      obtain ⟨old, oldMember, rfl⟩ := List.mem_map.mp inImage
      obtain ⟨new, newMember, rfl⟩ := List.mem_map.mp inAssembly
      obtain ⟨number, given, oldId⟩ := sound.taken old oldMember
      obtain ⟨other, notBefore, _, newId⟩ := fresh new newMember
      have equal : number = other := idText_injective (oldId.trans (same.trans newId.symm))
      omega
  · intro node member
    rcases List.mem_append.mp member with inImage | inAssembly
    · obtain ⟨number, given, same⟩ := sound.taken node inImage
      exact ⟨number, by omega, same⟩
    · obtain ⟨number, _, before, same⟩ := fresh node inAssembly
      refine ⟨number, ?_, same⟩
      unfold Builder.Assembly.size
      omega
  · intro other
    by_cases same : other = analysis
    · rw [same, Builder.Assembly.graphOf_addTo_self made empty]
      exact Builder.Assembly.wellTyped made extracted
    · rw [Builder.Assembly.graphOf_addTo_other made same]
      exact sound.typed other

end

end Image

/-! ### Stores -/

structure Valid (store : Store) : Prop where
  settled : Settled store
  sound : store.visible.Sound store.nextId

theorem valid_initial : Valid {} := ⟨settled_initial, Image.sound_initial 1⟩

theorem Valid.holding {store : Store} (valid : Valid store) {image : Image} {next : Nat}
    (sound : image.Sound next) : Valid (store.holding image next) :=
  ⟨valid.settled.holding image next, sound⟩

theorem Valid.of_keepsGraphs {before after : Store} (valid : Valid before)
    (kept : KeepsGraphs before after) : Valid after := by
  obtain ⟨settled, later, nodes, edges⟩ := kept valid.settled
  exact ⟨settled, (valid.sound.later later).of_same nodes edges⟩

theorem Valid.deleteAnalysis {store : Store} (valid : Valid store) (analysis : String) :
    Valid (deleteAnalysis analysis store).2 := by
  have ends := valid.settled.ends_deleteAnalysis analysis
  cases outcome : Store.deleteAnalysis analysis store with
  | mk answer after =>
      rw [outcome] at ends
      cases answer with
      | error fault =>
          obtain ⟨next, later, rfl⟩ := ends.of_error
          exact valid.holding (valid.sound.later later)
      | ok known =>
          obtain ⟨visible, nextId⟩ := deleteAnalysis_ok outcome
          refine ⟨ends.settled valid.settled, ?_⟩
          change after.visible.Sound after.nextId
          rw [visible, nextId]
          exact (valid.sound.without analysis).of_same rfl rfl

theorem Valid.build {store : Store} (valid : Valid store) {builder : Builder} {table : LanguageTable}
    (reads : builder.extractor = .ofTable table) (workspace : Workspace) (options : BuildOptions)
    (cancel : Cancellation) : Valid (builder.build workspace options cancel store).2 := by
  have cleared := valid.sound.without options.analysis
  cases outcome : builder.build workspace options cancel store with
  | mk answer after =>
      cases answer with
      | error fault =>
          obtain ⟨image, next, later, rfl, same | same⟩ :=
            Builder.build_of_error valid.settled outcome
          · rw [same]
            exact valid.holding (valid.sound.later later)
          · rw [same]
            exact valid.holding (cleared.later later)
      | ok report =>
          obtain ⟨extractions, assembly, extracted, made, rfl⟩ :=
            Builder.build_of_ok valid.settled reads outcome
          exact valid.holding
            (cleared.addTo made (Image.graphOf_without_self options.analysis store.visible)
              (Builder.extract_isSound reads extracted))

theorem Valid.recordAnalysis {store : Store} (valid : Valid store) (analysis path : Json.Value)
    (now : String) : Valid (recordAnalysis analysis path now store).2 :=
  valid.of_keepsGraphs (leavesGraphs_recordAnalysis analysis path now store)

inductive Change where
  | build (table : LanguageTable) (policy : Policy) (workers : Int) (workspace : Workspace)
      (options : BuildOptions) (cancel : Cancellation)
  | deleteAnalysis (analysis : String)
  | recordAnalysis (analysis path : Json.Value) (now : String)
  | addFindings (analysis : String) (findings : List Finding) (now : String)

def Change.apply (store : Store) : Change → Store
  | .build table policy workers workspace options cancel =>
      (({ extractor := .ofTable table, policy, workers } : Builder).build workspace options cancel
        store).2
  | .deleteAnalysis analysis => (Store.deleteAnalysis analysis store).2
  | .recordAnalysis analysis path now => (Store.recordAnalysis analysis path now store).2
  | .addFindings analysis findings now => (Store.addFindings analysis findings now store).2

def after (changes : List Change) : Store := changes.foldl Change.apply {}

theorem Valid.apply {store : Store} (valid : Valid store) (change : Change) :
    Valid (change.apply store) := by
  cases change with
  | build table policy workers workspace options cancel =>
      exact valid.build rfl workspace options cancel
  | deleteAnalysis analysis => exact valid.deleteAnalysis analysis
  | recordAnalysis analysis path now => exact valid.recordAnalysis analysis path now
  | addFindings analysis findings now =>
      exact valid.of_keepsGraphs (leavesGraphs_addFindings analysis findings now store)

theorem valid_after (changes : List Change) : Valid (after changes) := by
  unfold after
  have run : ∀ store, Valid store → Valid (changes.foldl Change.apply store) := by
    induction changes with
    | nil => exact fun _ valid => valid
    | cons change rest ih => exact fun store valid => ih _ (valid.apply change)
  exact run {} valid_initial

end ChangeImpact.Store

namespace ChangeImpact.Session

/-! ### Questions about a graph that was loaded -/

def Request.AsksAbout (analysis : String) : Request → Prop
  | .impact other _ _ _ => other = analysis
  | .deadNodes other => other = analysis
  | .chain _ _ => True
  | .dependents _ => True
  | .dependencies _ => True
  | _ => False

theorem run_load_ok {now analysis : String} {session loaded : Session} {answer : Answer}
    (done : run now (.load analysis) session = (.ok answer, loaded)) :
    loaded.loaded = some (session.store.visible.graphOf analysis) := by
  unfold run at done
  obtain ⟨graph, between, found, remaining⟩ := Operation.bind_ok done
  obtain ⟨_, last, kept, same⟩ := Operation.bind_ok remaining
  cases same
  cases kept
  rcases outcome : Store.fullGraph analysis session.store with ⟨_ | _, store⟩
  · unfold storing at found
    rw [outcome] at found
    cases found
  · obtain ⟨rfl, _, _⟩ := Store.fullGraph_ok outcome
    unfold storing at found
    rw [outcome] at found
    cases found
    rfl

theorem run_load {session : Session} (settled : Store.Settled session.store) {analysis : String}
    (written : [analysis].findSome? Text.encodeFault? = none) (now : String) :
    ∃ answer loaded, run now (.load analysis) session = (.ok answer, loaded) := by
  have found : storing (Store.fullGraph analysis) session =
      (.ok (session.store.visible.graphOf analysis), session) := by
    unfold storing
    rw [settled.fullGraph_run written]
    rfl
  unfold run
  rw [Operation.bind_of_ok found]
  exact ⟨_, _, rfl⟩

/-- A question that the loaded graph answers. -/
theorem aboutGraph_answers {α : Type} {session : Session} {graph : Graph}
    (here : session.loaded = some graph) {analysis : Option String}
    (own : analysis = none ∨ analysis = some graph.analysis)
    {question : Graph → Except Impact.Fault α} (answered : ∃ value, question graph = .ok value)
    (reply : α → Answer) :
    ∃ answer, ((aboutGraph analysis question >>= fun value => pure (reply value)) session).1 =
      .ok answer := by
  obtain ⟨value, answered⟩ := answered
  have required : Impact.require session.loaded analysis = .ok graph := by
    unfold Impact.require
    rw [here]
    rcases own with rfl | rfl
    · rfl
    · exact if_pos rfl
  have asked : aboutGraph analysis question session = (.ok value, session) := by
    unfold aboutGraph asking
    dsimp only
    rw [required]
    change ((question graph).mapError _, session) = _
    rw [answered]
    rfl
  rw [Operation.bind_of_ok asked]
  exact ⟨reply value, rfl⟩

/-- In a closed graph every question has an answer. -/
theorem run_answers {graph : Graph} (closed : graph.Closed) {session : Session}
    (here : session.loaded = some graph) {request : Request} (asks : request.AsksAbout graph.analysis)
    (now : String) : ∃ answer, (run now request session).1 = .ok answer := by
  cases request with
  | impact other file function maxDepth =>
      cases asks
      obtain ⟨result, answered, _⟩ := Impact.analyze_exists closed
        (findingsAbout session graph.analysis file) file function maxDepth
      unfold run
      exact aboutGraph_answers here (Or.inr rfl) ⟨result, answered⟩ Answer.impact
  | deadNodes other =>
      cases asks
      unfold run
      refine aboutGraph_answers here (Or.inr rfl) ?_ _
      exact ⟨_, rfl⟩
  | chain id maxDepth =>
      unfold run
      refine aboutGraph_answers here (Or.inl rfl) ?_ _
      exact ⟨_, rfl⟩
  | dependents id =>
      have present : ∀ source ∈ graph.sourcesOf id, source ∈ graph.nodes.map Node.id := by
        intro source member
        obtain ⟨edge, stored, rfl, _⟩ := Graph.mem_sourcesOf.mp member
        exact (closed edge stored).1
      unfold run
      exact aboutGraph_answers here (Or.inl rfl) (Impact.nodesOf_exists present) _
  | dependencies id =>
      have present : ∀ target ∈ graph.targetsOf id, target ∈ graph.nodes.map Node.id := by
        intro target member
        obtain ⟨edge, stored, _, rfl⟩ := Graph.mem_targetsOf.mp member
        exact (closed edge stored).2
      unfold run
      exact aboutGraph_answers here (Or.inl rfl) (Impact.nodesOf_exists present) _
  | _ => cases asks

end ChangeImpact.Session

namespace ChangeImpact.Store

/-- Whatever is done to an empty store, the graph of each analysis is well typed. Once it is loaded, every question
about it has an answer. -/
theorem stored_graphs_wellTyped (changes : List Change) (analysis : String) :
    ((after changes).visible.graphOf analysis).WellTyped ∧
      ∀ (session loaded : Session) (now later : String) (answer : Session.Answer)
        (request : Session.Request),
        session.store = after changes →
        Session.run now (.load analysis) session = (.ok answer, loaded) →
        request.AsksAbout analysis →
        ∃ reply, (Session.run later request loaded).1 = .ok reply := by
  have typed := (valid_after changes).sound.typed analysis
  refine ⟨typed, ?_⟩
  intro session loaded now later answer request held done asks
  have here := Session.run_load_ok done
  rw [held] at here
  exact Session.run_answers typed.closed here asks later

def callChanges : List Change :=
  [.build .standard .firstDeclared 0 Builder.callWorkspace Builder.callOptions {}]

theorem callChanges_edges : ((after callChanges).visible.graphOf "a").edges.length = 1 := by
  obtain ⟨report, last, built⟩ := Builder.callWorkspace_build
  have reads : Builder.callBuilder.extractor = .ofTable .standard := rfl
  obtain ⟨extractions, assembly, extracted, made, same⟩ :=
    Builder.build_of_ok settled_initial reads built
  have stored := Builder.Assembly.graphOf_addTo_self made
    (Image.graphOf_without_self "a" ({} : Store).visible)
  have counted := Builder.Assembly.edges_length made (Builder.extract_isSound reads extracted)
  have ended : after callChanges = last := congrArg Prod.snd built
  cases Builder.callWorkspace_extract.symm.trans extracted
  rw [ended, same]
  refine (congrArg (fun graph => graph.edges.length) stored).trans (counted.trans ?_)
  decide +kernel

theorem stored_graphs_wellTyped_callChanges :
    ((after callChanges).visible.graphOf "a").edges.length = 1 ∧
      ((after callChanges).visible.graphOf "a").WellTyped ∧
      ∃ answer loaded,
        Session.run "" (.load "a")
          { workspace := Builder.callWorkspace, store := after callChanges } = (.ok answer, loaded) ∧
        ∃ reply, (Session.run "" (.impact "a" "a.py" none 5) loaded).1 = .ok reply := by
  obtain ⟨typed, answers⟩ := stored_graphs_wellTyped callChanges "a"
  have written : ["a"].findSome? Text.encodeFault? = none := by decide +kernel
  let session : Session := { workspace := Builder.callWorkspace, store := after callChanges }
  have settled : Settled session.store := (valid_after callChanges).settled
  obtain ⟨answer, loaded, done⟩ := Session.run_load settled written ""
  exact ⟨callChanges_edges, typed, answer, loaded, done,
    answers session loaded "" "" answer _ rfl done rfl⟩

end ChangeImpact.Store
