import ChangeImpact.Proofs.Calls
import ChangeImpact.Proofs.EdgesKept
import ChangeImpact.Proofs.Rebuild

/-!
Which function or class a call is taken to come from. A call carries the name of the nearest scope around it, and the
policy then chooses among all that the file declares by this name. So a call lies within its source if what shares the
name stands around the call, and otherwise only if the policy happens to choose well.
-/

set_option autoImplicit false

namespace ChangeImpact

/-! ### Lines -/

def Edge.line? (edge : Edge) : Option Int := (edge.metadata.lookup "line").bind Json.Value.whole?

def Node.spans (node : Node) (line : Int) : Bool :=
  match node.lineStart.whole?, node.lineEnd.whole? with
  | some first, some last => decide (first ≤ line ∧ line ≤ last)
  | _, _ => false

theorem Node.spans_iff {node : Node} {first last : Nat} (starts : node.lineStart = .ofNat first)
    (ends : node.lineEnd = .ofNat last) (line : Nat) : node.spans line = true ↔ first ≤ line ∧ line ≤ last := by
  have whole : ∀ number, (Json.Value.ofNat number).whole? = some (Int.ofNat number) := fun _ => rfl
  unfold Node.spans
  rw [starts, ends, whole, whole]
  simp

namespace Graph

def CallsWithinSources (graph : Graph) : Prop :=
  ∀ edge ∈ graph.edges, edge.kind = .calls → ∀ source ∈ graph.nodes, source.id = edge.source →
    source.kind = .functionKind ∨ source.kind = .classKind → edge.line?.any source.spans = true

instance (graph : Graph) : Decidable graph.CallsWithinSources :=
  inferInstanceAs (Decidable (∀ edge ∈ graph.edges, edge.kind = .calls → ∀ source ∈ graph.nodes,
    source.id = edge.source → source.kind = .functionKind ∨ source.kind = .classKind →
      edge.line?.any source.spans = true))

/-- The modules, classes and functions listed under a file and a name, in order. -/
def namesakes (graph : Graph) (file name : String) : List Node :=
  graph.nodes.filter fun node => !node.isExternal &&
    (NameIndex.keysOf node).contains (NameIndex.qualified file name) && Resolution.sourceKinds.contains node.kind

end Graph

/-! ### From references to edges -/

namespace Builder.Assembly

variable {policy : Policy} {analysis : String} {first : Nat} {extractions : List Extraction}
  {assembly : Assembly} (made : assembly = assemble policy analysis first extractions)
  (sound : ∀ extraction ∈ extractions, extraction.IsSound)

include made sound

theorem namesakes_eq (file name : String) :
    (assembly.graph analysis).namesakes file name =
      ((NameIndex.ofNodes policy assembly.declared).candidates (NameIndex.qualified file name)).filter
        fun node => NameIndex.permits (some Resolution.sourceKinds) node.kind := by
  have inside := declared_isExternal made sound
  have outside := (placeholders_stand made).external
  rw [NameIndex.candidates_eq, List.filter_filter]
  unfold Graph.namesakes graph nodes
  dsimp only
  rw [List.filter_append]
  -- Placeholders have a name and no file, but they are external, so none of them is a namesake.
  refine (congrArg₂ (· ++ ·) (List.filter_congr ?_) (List.filter_eq_nil_iff.mpr ?_)).trans (List.append_nil _)
  · intro node member
    rw [inside node member, Bool.not_false, Bool.true_and]
    exact Bool.and_comm _ _
  · intro node member
    rw [outside node member]
    exact Bool.false_ne_true

/-- A reference starts from the node that the policy chooses among those of its file and its source. -/
theorem resolve_source {extraction : Extraction} (among : extraction ∈ extractions) {reference : Reference}
    (member : reference ∈ extraction.references) (hasName : extraction.file ≠ "") :
    (NameIndex.ofNodes policy assembly.declared).resolve reference.source extraction.file
        (some Resolution.sourceKinds) =
      policy.choose ((assembly.graph analysis).namesakes extraction.file reference.source) := by
  obtain ⟨declaration, declared, named, kind⟩ := (sound extraction among).anchored.source reference member
  obtain ⟨node, found, sameName, sameKind, lies⟩ := exists_declared made among declared
  have place : node.file? = some extraction.file := by
    unfold Node.file?
    rw [lies]
    simp [hasName]
  have permitted : NameIndex.permits (some Resolution.sourceKinds) node.kind = true := by
    rw [sameKind]
    exact List.contains_iff_mem.mpr kind
  rw [namesakes_eq made sound, ← named, ← sameName]
  exact NameIndex.resolve_eq_lookup found place permitted

end Builder.Assembly

/-- An edge as a reference of a file becomes one: it keeps kind and line, and starts from what the index finds under the
name of the source. -/
structure Resolution.Carries (index : NameIndex) (file : String) (reference : Reference) (edge : Edge) : Prop where
  kind : edge.kind = reference.kind
  line : edge.metadata.lookup "line" = reference.metadata.lookup "line"
  source : ∃ source, index.resolve reference.source file (some sourceKinds) = some source ∧ source.id = edge.source

theorem Resolution.edge_carries {index : NameIndex} {file : String} {reference : Reference} {pending : PendingEdge}
    (found : pending? index (file, reference) = some pending) (analysis : String)
    (placeholders : List (String × String)) (id : String) :
    Carries index file reference ((edge analysis placeholders pending).withId id) := by
  obtain ⟨source, resolved, rfl⟩ := Option.map_eq_some_iff.mp found
  unfold edge Edge.withId
  dsimp only
  split
  · exact ⟨rfl, rfl, source, resolved, rfl⟩
  · exact ⟨rfl, Json.Fields.lookup_set_of_ne (by decide) _ _, source, resolved, rfl⟩

namespace Builder.Assembly

variable {policy : Policy} {analysis : String} {first : Nat} {extractions : List Extraction}
  {assembly : Assembly} (made : assembly = assemble policy analysis first extractions)

include made

theorem exists_carried {edge : Edge} (member : edge ∈ assembly.edges) :
    ∃ extraction ∈ extractions, ∃ reference ∈ extraction.references,
      Resolution.Carries (.ofNodes policy assembly.declared) extraction.file reference edge := by
  obtain ⟨id, pending, listed, rfl⟩ := exists_pending made member
  obtain ⟨item, inFiles, found⟩ := Resolution.mem_pending.mp listed
  obtain ⟨extraction, among, inFile⟩ := List.mem_flatMap.mp inFiles
  obtain ⟨reference, here, rfl⟩ := List.mem_map.mp inFile
  exact ⟨extraction, among, reference, here, Resolution.edge_carries found _ _ _⟩

theorem exists_carrier (sound : ∀ extraction ∈ extractions, extraction.IsSound) {extraction : Extraction}
    (among : extraction ∈ extractions) {reference : Reference} (member : reference ∈ extraction.references) :
    ∃ edge ∈ assembly.edges,
      Resolution.Carries (.ofNodes policy assembly.declared) extraction.file reference edge := by
  have listed : (extraction.file, reference) ∈ Resolution.referencesOf extractions :=
    List.mem_flatMap.mpr ⟨extraction, among, List.mem_map_of_mem member⟩
  obtain ⟨pending, found⟩ := Option.isSome_iff_exists.mp (pending?_isSome made sound _ listed)
  obtain ⟨id, stored⟩ := exists_edge made (Resolution.mem_pending.mpr ⟨_, listed, found⟩)
  exact ⟨_, stored, Resolution.edge_carries found _ _ _⟩

theorem exists_declaration {node : Node} (member : node ∈ assembly.declared) :
    ∃ extraction ∈ extractions, node.file = some extraction.file ∧
      ∃ declaration ∈ extraction.declarations, node.kind = declaration.kind ∧ node.name = declaration.name ∧
        node.lineStart = declaration.lineStart ∧ node.lineEnd = declaration.lineEnd := by
  subst made
  obtain ⟨id, original, among, rfl⟩ := Store.exists_of_mem_identifiedFrom member
  obtain ⟨extraction, listed, inFile⟩ := List.mem_flatMap.mp among
  obtain ⟨declaration, declared, rfl⟩ := List.mem_map.mp inFile
  exact ⟨extraction, listed, rfl, declaration, declared, rfl, rfl, rfl, rfl⟩

end Builder.Assembly

/-! ### From calls to edges -/

/-- An edge as a call becomes one: it starts from the node that the policy chooses among the namesakes of the call's
scope. -/
structure Call.Becomes (policy : Policy) (graph : Graph) (call : Call) (edge : Edge) : Prop where
  kind : edge.kind = .calls
  line : edge.line? = some (call.line : Int)
  source : ∃ source, policy.choose (graph.namesakes call.file call.scope) = some source ∧ source.id = edge.source

/-- A call whose scope cannot be mistaken for another: what its file declares by the name of the scope stands around the
call. -/
structure Call.IsClear (call : Call) : Prop where
  nested : call.root.Nested
  around : ∀ visit ∈ call.declaring, visit.tree ∈ call.visit.ancestors

instance (call : Call) : Decidable call.IsClear :=
  decidable_of_iff (call.root.Nested ∧ ∀ visit ∈ call.declaring, visit.tree ∈ call.visit.ancestors)
    ⟨fun both => ⟨both.1, both.2⟩, fun clear => ⟨clear.nested, clear.around⟩⟩

namespace Builder.Assembly

variable {policy : Policy} {analysis : String} {first : Nat} {extractions : List Extraction}
  {assembly : Assembly} (made : assembly = assemble policy analysis first extractions)
  {table : LanguageTable} {workspace : Workspace} {project : String} {files : List String}

include made

section

variable (sound : ∀ extraction ∈ extractions, extraction.IsSound) (named : table.supports "" = false)

include sound named

theorem becomes_of_carries {file : String} {extraction : Extraction} (among : extraction ∈ extractions)
    (extracted : Sources.extractFile (.ofTable table) workspace project file = .ok extraction)
    {call : Call} (member : call ∈ Sources.calls table workspace project file) {reference : Reference}
    (here : reference ∈ extraction.references) (makes : call.Makes reference) {edge : Edge}
    (carries : Resolution.Carries (.ofNodes policy assembly.declared) extraction.file reference edge) :
    call.Becomes policy (assembly.graph analysis) edge := by
  obtain ⟨rfl, grown, _⟩ := Sources.mem_calls.mp member
  have sameFile := (Sources.extractFile_content extracted).1
  have hasName : extraction.file ≠ "" := by
    intro empty
    rw [← sameFile, empty, Sources.tree?_of_unsupported named] at grown
    cases grown
  obtain ⟨source, resolved, sameId⟩ := carries.source
  rw [resolve_source made sound among here hasName, makes.source, sameFile] at resolved
  refine ⟨carries.kind.trans makes.kind, ?_, source, resolved, sameId⟩
  unfold Edge.line?
  rw [carries.line, makes.line]
  rfl

variable (read : List.Forall₂ (fun file extraction =>
  Sources.extractFile (.ofTable table) workspace project file = .ok extraction) files extractions)

include read

theorem exists_edge_of_call {call : Call} (member : call ∈ files.flatMap (Sources.calls table workspace project)) :
    ∃ edge ∈ assembly.edges, call.Becomes policy (assembly.graph analysis) edge := by
  obtain ⟨file, listed, inFile⟩ := List.mem_flatMap.mp member
  obtain ⟨extraction, among, extracted⟩ := Outcome.exists_result read listed
  obtain ⟨reference, here, makes⟩ := Sources.exists_reference extracted inFile
  obtain ⟨edge, stored, carries⟩ := exists_carrier made sound among here
  exact ⟨edge, stored, becomes_of_carries made sound named among extracted inFile here makes carries⟩

theorem exists_call_of_edge {edge : Edge} (member : edge ∈ assembly.edges) (isCall : edge.kind = .calls) :
    ∃ call ∈ files.flatMap (Sources.calls table workspace project),
      call.Becomes policy (assembly.graph analysis) edge := by
  obtain ⟨extraction, among, reference, here, carries⟩ := exists_carried made member
  obtain ⟨file, listed, extracted⟩ := Outcome.exists_item read among
  obtain ⟨call, inFile, makes⟩ := Sources.exists_call extracted here (carries.kind.symm.trans isCall)
  exact ⟨call, List.mem_flatMap.mpr ⟨file, listed, inFile⟩,
    becomes_of_carries made sound named among extracted inFile here makes carries⟩

/-- The calls of a graph lie within their sources if each call lies within the node that is chosen for its scope. -/
theorem callsWithinSources_iff :
    (assembly.graph analysis).CallsWithinSources ↔
      ∀ call ∈ files.flatMap (Sources.calls table workspace project), ∀ source,
        policy.choose ((assembly.graph analysis).namesakes call.file call.scope) = some source →
          source.kind = .functionKind ∨ source.kind = .classKind → source.spans call.line = true := by
  constructor
  · intro within call member source chosen kind
    obtain ⟨edge, stored, becomes⟩ := exists_edge_of_call made sound named read member
    obtain ⟨other, alsoChosen, sameId⟩ := becomes.source
    cases chosen.symm.trans alsoChosen
    have present : source ∈ (assembly.graph analysis).nodes := (List.mem_filter.mp (Policy.mem_of_choose chosen)).1
    have lies := within edge stored becomes.kind source present sameId kind
    rw [becomes.line] at lies
    exact lies
  · intro chosenWell edge stored isCall source present sameId kind
    obtain ⟨call, member, becomes⟩ := exists_call_of_edge made sound named read stored isCall
    obtain ⟨chosen, isChosen, chosenId⟩ := becomes.source
    have alsoPresent : chosen ∈ (assembly.graph analysis).nodes :=
      (List.mem_filter.mp (Policy.mem_of_choose isChosen)).1
    -- Ids are distinct, so the source of the edge is the very node that was chosen.
    have same : source = chosen :=
      List.inj_on_of_nodup_map (wellTyped made sound).ids present alsoPresent (sameId.trans chosenId.symm)
    rw [becomes.line, same]
    exact chosenWell call member chosen isChosen (same ▸ kind)

end

/-- The lines of a function or class that a call's file declares by the name of its scope hold the call, if its scope
cannot be mistaken. -/
theorem spans_of_isClear (read : List.Forall₂ (fun file extraction =>
      Sources.extractFile (.ofTable table) workspace project file = .ok extraction) files extractions)
    {call : Call} (member : call ∈ files.flatMap (Sources.calls table workspace project)) (clear : call.IsClear)
    {node : Node} (declared : node ∈ assembly.declared) (lies : node.file = some call.file)
    (called : node.name = call.scope) (kind : node.kind = .functionKind ∨ node.kind = .classKind) :
    node.spans call.line = true := by
  obtain ⟨extraction, among, place, declaration, listed, sameKind, sameName, starts, ends⟩ :=
    exists_declaration made declared
  obtain ⟨file, _, extracted⟩ := Outcome.exists_item read among
  obtain ⟨home, _, inHome⟩ := List.mem_flatMap.mp member
  -- The declaration comes from the file of the call, though perhaps from another reading of it.
  have sameFile : call.file = file :=
    Option.some.inj (lies.symm.trans place) |>.trans (Sources.extractFile_content extracted).1
  obtain ⟨sameHome, _, _, visited, _⟩ := Sources.mem_calls.mp inHome
  rw [← sameHome, sameFile] at inHome
  obtain ⟨visit, declaring, first, last⟩ :=
    Sources.exists_declaring extracted inHome listed (sameName.symm.trans called) (sameKind ▸ kind)
  have around := clear.nested.within (Syntax.mem_preorder_iff.mp visited) _ (clear.around visit declaring)
  have whole := (clear.nested call.visit visited).1
  rw [Node.spans_iff (starts.trans first) (ends.trans last)]
  exact ⟨around.1, Nat.le_trans whole around.2⟩

end Builder.Assembly

namespace Builder

/-- The calls edges of a graph that was built are the calls in the sources, each from the module, class or function that
the policy chooses among all those of the file that have the name of the nearest scope around the call. So every call
lies within the lines of its source exactly if the chosen ones happen to hold the calls. They do if what a file declares
by the name of a scope stands around the calls of that scope. -/
theorem calls_within_sources_iff (table : LanguageTable) (named : table.supports "" = false) (policy : Policy)
    (workers : Int) (workspace : Workspace) (options : BuildOptions) (cancel : Cancellation) (store after : Store)
    (report : BuildReport) :
    let builder : Builder := { extractor := .ofTable table, policy, workers }
    let calls := report.discovery.files.flatMap (Sources.calls table workspace options.project)
    builder.build workspace options cancel store = (.ok report, after) →
    (∀ call ∈ calls, ∃ edge ∈ report.graph.edges, call.Becomes policy report.graph edge) ∧
    (∀ edge ∈ report.graph.edges, edge.kind = .calls → ∃ call ∈ calls, call.Becomes policy report.graph edge) ∧
    (report.graph.CallsWithinSources ↔
      ∀ call ∈ calls, ∀ source, policy.choose (report.graph.namesakes call.file call.scope) = some source →
        source.kind = .functionKind ∨ source.kind = .classKind → source.spans call.line = true) ∧
    ((∀ call ∈ calls, call.IsClear ∧ ∀ node ∈ report.graph.namesakes call.file call.scope,
        node.file = some call.file ∧ node.name = call.scope) →
      report.graph.CallsWithinSources) := by
  intro builder calls done
  have reads : builder.extractor = .ofTable table := rfl
  obtain ⟨extractions, extracted, reported⟩ := build_reportOf reads done
  have sound := extract_isSound reads extracted
  have read := extract_done extracted
  generalize made : assemble builder.policy options.analysis store.nextId extractions = assembly at reported
  subst reported
  have equivalent := Assembly.callsWithinSources_iff made.symm sound named read
  refine ⟨?_, ?_, equivalent, ?_⟩
  · intro call member
    exact Assembly.exists_edge_of_call made.symm sound named read member
  · intro edge stored isCall
    exact Assembly.exists_call_of_edge made.symm sound named read stored isCall
  · intro clear
    refine equivalent.mpr ?_
    intro call member source chosen kind
    obtain ⟨unmistaken, own⟩ := clear call member
    have listed := Policy.mem_of_choose chosen
    obtain ⟨lies, called⟩ := own source listed
    rw [Assembly.namesakes_eq made.symm sound] at listed
    have declared := (NameIndex.mem_candidates.mp (List.mem_filter.mp listed).1).1
    exact Assembly.spans_of_isClear made.symm read member unmistaken declared lies called kind

/-- The only call of a file lies within the only function of it. -/
theorem calls_within_sources_iff_callWorkspace :
    LanguageTable.standard.supports "" = false ∧
    ∃ report after, callBuilder.build callWorkspace callOptions {} {} = (.ok report, after) ∧
      (∃ edge ∈ report.graph.edges, edge.kind = .calls ∧ ∃ source ∈ report.graph.nodes,
        source.id = edge.source ∧ source.kind = .functionKind) ∧
      report.graph.CallsWithinSources := by
  have named : LanguageTable.standard.supports "" = false := by decide +kernel
  obtain ⟨report, after, built⟩ := callWorkspace_build
  obtain ⟨_, _, _, within⟩ :=
    calls_within_sources_iff .standard named .firstDeclared 0 callWorkspace callOptions {} {} after report built
  obtain ⟨extractions, extracted, reported⟩ := build_reportOf rfl built
  cases callWorkspace_extract.symm.trans extracted
  have files : report.discovery.files = ["a.py"] := by
    rw [reported]
    exact congrArg Discovery.files callWorkspace_discovery
  have graph : report.graph = (assemble .firstDeclared "a" 1 [callExtraction]).graph "a" :=
    congrArg BuildReport.graph reported
  have path : Path.join callOptions.project "a.py" = "./a.py" := by decide +kernel
  have read : callWorkspace.readFile "./a.py" = .ok (callText, some callOutline) :=
    Workspace.sole_readFile (by decide +kernel)
  have grown : Sources.tree? .standard callWorkspace callOptions.project "a.py" =
      some (.python, (callOutline.tree? (Sources.parsedText callText).toUTF8).getD Syntax.emptyTree) := by
    unfold Sources.tree?
    rw [path, read]
    rfl
  rw [files, graph] at within
  refine ⟨named, report, after, built, ?_, ?_⟩
  · rw [graph]
    decide +kernel
  · rw [graph]
    apply within
    rw [List.flatMap_singleton, Sources.calls, grown]
    decide +kernel

/-! ### Two methods of one name -/

def twinText : ByteArray := "class A:\n def f(): a()\nclass B:\n def f(): b()\n".toUTF8

/-- The rows of a class with one method that calls something, from an offset on. -/
def twinRows (start : Nat) : List Syntax.Row :=
  [⟨1, "class_definition", true, none, start, start + 22⟩, ⟨2, "identifier", true, some "name", start + 6, start + 7⟩,
    ⟨2, "block", true, some "body", start + 10, start + 22⟩,
    ⟨3, "function_definition", true, none, start + 10, start + 22⟩,
    ⟨4, "identifier", true, some "name", start + 14, start + 15⟩,
    ⟨4, "parameters", true, some "parameters", start + 15, start + 17⟩,
    ⟨4, "block", true, some "body", start + 19, start + 22⟩, ⟨5, "call", true, none, start + 19, start + 22⟩,
    ⟨6, "identifier", true, some "function", start + 19, start + 20⟩,
    ⟨6, "argument_list", true, some "arguments", start + 20, start + 22⟩]

def twinOutline : Syntax.Outline :=
  { hasError := false
    rows := ⟨0, "module", true, none, 0, 46⟩ :: (twinRows 0 ++ twinRows 23) }

def twinWorkspace : Workspace := .sole "a.py" twinText (some twinOutline)

theorem twinWorkspace_build (policy : Policy) :
    ∃ report after, ({ policy } : Builder).build twinWorkspace callOptions {} {} = (.ok report, after) ∧
      ¬ report.graph.CallsWithinSources := by
  have found : ({ policy } : Builder).discoveryOf twinWorkspace callOptions = { files := ["a.py"] } :=
    sole_discovery { policy } rfl twinText (some twinOutline) (by decide +kernel)
  have extracted : ({ policy } : Builder).extract twinWorkspace callOptions {} ["a.py"] = _ :=
    sole_extract { policy } rfl twinText (some twinOutline) (Int.le_refl 0)
  have outside : (({ policy } : Builder).build twinWorkspace callOptions {} {}).1.toOption.map
      (fun report => decide report.graph.CallsWithinSources) = some false := by
    unfold build buildBy
    dsimp only
    rw [found, extracted]
    cases policy <;> decide +kernel
  obtain ⟨report, after, built, falls⟩ := Outcome.exists_of_seen outside
  exact ⟨report, after, built, of_decide_eq_false falls⟩

/-- Whichever of two methods of one name the policy chooses, the call in the other one is taken to come from it. -/
theorem calls_outside_sources :
    (∃ report after, ({ policy := .firstDeclared } : Builder).build twinWorkspace callOptions {} {} =
        (.ok report, after) ∧ ¬ report.graph.CallsWithinSources) ∧
      ∃ report after, ({ policy := .lastWriter } : Builder).build twinWorkspace callOptions {} {} =
        (.ok report, after) ∧ ¬ report.graph.CallsWithinSources :=
  ⟨twinWorkspace_build .firstDeclared, twinWorkspace_build .lastWriter⟩

end Builder

end ChangeImpact
