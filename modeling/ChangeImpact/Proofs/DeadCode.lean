import ChangeImpact.Impact.Basic
import ChangeImpact.Proofs.Distance
import ChangeImpact.Proofs.EdgesKept
import ChangeImpact.Proofs.Rebuild

/-!
What is dead in the graph of a build. An edge goes to the node that its reference found or to a placeholder, and a
reference finds modules, functions and classes only. So the dead nodes are the variables, and those functions and
classes that no reference found, less what is exported.
-/

set_option autoImplicit false

namespace ChangeImpact

def Graph.declared (graph : Graph) : List Node := graph.nodes.filter fun node => !node.isExternal

namespace Resolution

def usingKinds : List EdgeKind := [.calls, .inherits, .implements]

/-- An import finds a module, and any other reference of a file a function or a class. -/
theorem target?_kind {policy : Policy} {nodes : List Node} {file : String} {reference : Reference} {node : Node}
    (known : reference.kind ∈ Extraction.referenceKinds)
    (found : target? (.ofNodes policy nodes) file reference = some node) :
    reference.kind = .imports ∧ node.kind = .moduleKind ∨
      reference.kind ∈ usingKinds ∧ (node.kind = .functionKind ∨ node.kind = .classKind) := by
  have permitted := (target?_some found).2
  simp only [Extraction.referenceKinds, List.mem_cons, List.not_mem_nil, or_false] at known
  rcases known with imports | calls | inherits | implements
  · rw [imports] at permitted
    exact Or.inl ⟨imports, List.mem_singleton.mp (List.contains_iff_mem.mp permitted)⟩
  · rw [calls] at permitted ⊢
    have listed : node.kind ∈ [NodeKind.functionKind, .classKind] := List.contains_iff_mem.mp permitted
    exact Or.inr ⟨by decide, by simpa using listed⟩
  · rw [inherits] at permitted ⊢
    exact Or.inr ⟨by decide, Or.inr (List.mem_singleton.mp (List.contains_iff_mem.mp permitted))⟩
  · rw [implements] at permitted ⊢
    exact Or.inr ⟨by decide, Or.inr (List.mem_singleton.mp (List.contains_iff_mem.mp permitted))⟩

end Resolution

namespace Builder

/-! ### Where the edges of an assembly point -/

namespace Assembly

variable {policy : Policy} {analysis : String} {first : Nat} {extractions : List Extraction}
  {assembly : Assembly} (made : assembly = assemble policy analysis first extractions)

include made

/-- Apart from their ids, the declared nodes are the declarations of the files, in order. -/
theorem declared_blank : assembly.declared.map (Node.withId "") = extractions.flatMap (nodesOf analysis) := by
  have blind : ∀ id (node : Node), (node.withId id).withId "" = node.withId "" := fun _ _ => rfl
  rw [declared_eq made, Store.map_identifiedFrom blind, List.map_flatMap]
  congr 1
  funext extraction
  exact List.map_map

theorem declared_known (sound : ∀ extraction ∈ extractions, extraction.IsSound) :
    ∀ node ∈ assembly.declared, node.kind ∈ NodeKind.known := by
  intro node member
  rw [declared_eq made] at member
  obtain ⟨id, original, among, rfl⟩ := Store.exists_of_mem_identifiedFrom member
  obtain ⟨extraction, own, listed⟩ := List.mem_flatMap.mp among
  obtain ⟨declaration, declared, rfl⟩ := List.mem_map.mp listed
  exact ((sound extraction own).plain declaration declared).known

theorem eq_of_id {left right : Node} (inFirst : left ∈ assembly.nodes) (inSecond : right ∈ assembly.nodes)
    (same : left.id = right.id) : left = right := by
  have ids : (assembly.nodes.map Node.id).Nodup := nodes_ids made ▸ Store.idsFrom_nodup _ _
  exact List.inj_on_of_nodup_map ids inFirst inSecond same

/-- An edge of an assembly goes to the node that its reference found, or to a placeholder. -/
theorem edge_target {edge : Edge} (member : edge ∈ assembly.edges) :
    (∃ item ∈ Resolution.referencesOf extractions, ∃ node,
      Resolution.target? (.ofNodes policy assembly.declared) item.1 item.2 = some node ∧ edge.target = node.id) ∨
    ∃ node ∈ assembly.placeholders, edge.target = node.id := by
  have stand := placeholders_stand made
  obtain ⟨id, pending, listed, rfl⟩ := exists_pending made member
  obtain ⟨item, inFile, resolved⟩ := Resolution.mem_pending.mp listed
  cases found : pending.target with
  | some target =>
      left
      obtain ⟨source, _, rfl⟩ := Option.map_eq_some_iff.mp resolved
      obtain ⟨node, isTarget, rfl⟩ := Option.map_eq_some_iff.mp found
      refine ⟨item, inFile, node, isTarget, ?_⟩
      unfold Resolution.edge Edge.withId
      rw [isTarget]
      rfl
  | none =>
      right
      have missing := Resolution.mem_missing.mpr ⟨pending, listed, found, rfl⟩
      rw [← stand.names] at missing
      obtain ⟨node, placed, called⟩ := List.mem_map.mp missing
      exact ⟨node, placed, Resolution.edge_target_of_none analysis stand.names_nodup placed found called.symm⟩

/-- A declared node has an edge to it if a reference found it, and only then. -/
theorem exists_edge_to_iff (sound : ∀ extraction ∈ extractions, extraction.IsSound) {node : Node}
    (declared : node ∈ assembly.declared) :
    (∃ edge ∈ assembly.edges, edge.target = node.id) ↔
      ∃ item ∈ Resolution.referencesOf extractions,
        Resolution.target? (.ofNodes policy assembly.declared) item.1 item.2 = some node := by
  constructor
  · rintro ⟨edge, member, ends⟩
    rcases edge_target made member with ⟨item, listed, other, found, points⟩ | ⟨other, placed, points⟩
    · have same : other = node := eq_of_id made (List.mem_append_left _ (Resolution.target?_some found).1)
        (List.mem_append_left _ declared) (points.symm.trans ends)
      exact ⟨item, listed, same ▸ found⟩
    · have same : other = node := eq_of_id made (List.mem_append_right _ placed)
        (List.mem_append_left _ declared) (points.symm.trans ends)
      have external := (placeholders_stand made).external other placed
      rw [same, declared_isExternal made sound node declared] at external
      cases external
  · rintro ⟨item, listed, found⟩
    obtain ⟨pending, resolved⟩ := Option.isSome_iff_exists.mp (pending?_isSome made sound item listed)
    obtain ⟨id, stored⟩ := exists_edge made (Resolution.mem_pending.mpr ⟨item, listed, resolved⟩)
    refine ⟨_, stored, ?_⟩
    obtain ⟨source, _, rfl⟩ := Option.map_eq_some_iff.mp resolved
    unfold Resolution.edge Edge.withId
    rw [found]
    rfl

end Assembly

/-! ### Dead nodes -/

/-- A reference of one of the files to a function or a class finds the node. -/
def IsUsed (policy : Policy) (extractions : List Extraction) (graph : Graph) (node : Node) : Prop :=
  ∃ extraction ∈ extractions, ∃ reference ∈ extraction.references, reference.kind ∈ Resolution.usingKinds ∧
    Resolution.target? (.ofNodes policy graph.declared) extraction.file reference = some node

structure AreDead (policy : Policy) (extractions : List Extraction) (graph : Graph) (dead : List Node) : Prop where
  ordered : dead.Sublist graph.declared
  single : (dead.map Node.id).Nodup
  mem_iff : ∀ node, node ∈ dead ↔
    node ∈ graph.nodes ∧ node.isExported = false ∧
      (node.kind = .variableKind ∨
        (node.kind = .functionKind ∨ node.kind = .classKind) ∧ ¬ IsUsed policy extractions graph node)
  lasting : ∀ node ∈ dead, node.kind ∉ [NodeKind.moduleKind, .importKind, .exportKind]
  recursive : ∀ node ∈ dead, ∀ edge ∈ graph.edges, edge.source = node.id → edge.target ≠ node.id

theorem mem_deadNodes {graph : Graph} {node : Node} :
    node ∈ Impact.deadNodes graph ↔
      node ∈ graph.nodes ∧ node.kind ∉ Impact.lastingKinds ∧ node.isExported = false ∧
        ¬ ∃ edge ∈ graph.edges, edge.target = node.id := by
  have alone : (graph.sourcesOf node.id).isEmpty = true ↔ ¬ ∃ edge ∈ graph.edges, edge.target = node.id := by
    rw [List.isEmpty_iff, List.eq_nil_iff_forall_not_mem]
    constructor
    · rintro none ⟨edge, member, ends⟩
      exact none edge.source (Graph.mem_sourcesOf.mpr ⟨edge, member, rfl, ends⟩)
    · intro none source member
      obtain ⟨edge, listed, _, ends⟩ := Graph.mem_sourcesOf.mp member
      exact none ⟨edge, listed, ends⟩
  unfold Impact.deadNodes
  rw [List.mem_filter, Bool.and_eq_true, Bool.and_eq_true, alone, Bool.not_eq_true', Bool.not_eq_true',
    and_assoc, ← Bool.not_eq_true, List.contains_iff_mem]

section

variable {policy : Policy} {analysis : String} {first : Nat} {extractions : List Extraction}
  {assembly : Assembly} (made : assembly = assemble policy analysis first extractions)
  (sound : ∀ extraction ∈ extractions, extraction.IsSound)

include made sound

theorem Assembly.graph_declared : (assembly.graph analysis).declared = assembly.declared :=
  Assembly.filter_not_isExternal made sound

/-- A function or class has an edge to it if it is used, and only then: imports do not find it. -/
theorem Assembly.exists_edge_to_iff_isUsed {node : Node} (declared : node ∈ assembly.declared)
    (kind : node.kind = .functionKind ∨ node.kind = .classKind) :
    (∃ edge ∈ assembly.edges, edge.target = node.id) ↔
      IsUsed policy extractions (assembly.graph analysis) node := by
  rw [Assembly.exists_edge_to_iff made sound declared]
  unfold IsUsed
  rw [Assembly.graph_declared made sound]
  constructor
  · rintro ⟨item, listed, found⟩
    obtain ⟨extraction, among, inFile⟩ := List.mem_flatMap.mp listed
    obtain ⟨reference, here, rfl⟩ := List.mem_map.mp inFile
    have known := (sound extraction among).anchored.known reference here
    rcases Resolution.target?_kind known found with ⟨_, isModule⟩ | ⟨uses, _⟩
    · rw [isModule] at kind
      exact absurd kind (by decide)
    · exact ⟨extraction, among, reference, here, uses, found⟩
  · rintro ⟨extraction, among, reference, here, _, found⟩
    exact ⟨(extraction.file, reference),
      List.mem_flatMap.mpr ⟨extraction, among, List.mem_map_of_mem here⟩, found⟩

/-- No edge goes to a variable, an import or an export. -/
theorem Assembly.target_kind {edge : Edge} (member : edge ∈ assembly.edges) {node : Node}
    (listed : node ∈ assembly.nodes) (ends : edge.target = node.id) :
    node.kind ∉ [NodeKind.variableKind, .importKind, .exportKind] := by
  have kinds : node.kind ∈ [NodeKind.moduleKind, .functionKind, .classKind] := by
    rcases List.mem_append.mp listed with declared | placed
    · obtain ⟨item, inFiles, found⟩ :=
        (Assembly.exists_edge_to_iff made sound declared).mp ⟨edge, member, ends⟩
      obtain ⟨extraction, among, inFile⟩ := List.mem_flatMap.mp inFiles
      obtain ⟨reference, here, rfl⟩ := List.mem_map.mp inFile
      have known := (sound extraction among).anchored.known reference here
      rcases Resolution.target?_kind known found with ⟨_, kind⟩ | ⟨_, kind | kind⟩ <;> rw [kind] <;> decide
    · rw [(Assembly.placeholders_stand made).kind node placed]
      decide
  simp only [List.mem_cons, List.not_mem_nil, or_false] at kinds
  rcases kinds with kind | kind | kind <;> rw [kind] <;> decide

omit sound in
/-- Placeholders are modules, so any other node is a declaration. -/
theorem Assembly.declared_of_kind {node : Node} (listed : node ∈ assembly.nodes) (kind : node.kind ≠ .moduleKind) :
    node ∈ assembly.declared := by
  rcases List.mem_append.mp listed with declared | placed
  · exact declared
  · exact absurd ((Assembly.placeholders_stand made).kind node placed) kind

theorem Assembly.mem_deadNodes_iff (node : Node) :
    node ∈ Impact.deadNodes (assembly.graph analysis) ↔
      node ∈ assembly.nodes ∧ node.isExported = false ∧
        (node.kind = .variableKind ∨
          (node.kind = .functionKind ∨ node.kind = .classKind) ∧
            ¬ IsUsed policy extractions (assembly.graph analysis) node) := by
  have used : ∀ {node}, node ∈ assembly.nodes → node.kind = .functionKind ∨ node.kind = .classKind →
      ((∃ edge ∈ assembly.edges, edge.target = node.id) ↔
        IsUsed policy extractions (assembly.graph analysis) node) := by
    intro node listed kind
    have noModule : node.kind ≠ .moduleKind := by
      rcases kind with kind | kind <;> rw [kind] <;> decide
    exact Assembly.exists_edge_to_iff_isUsed made sound (Assembly.declared_of_kind made listed noModule) kind
  rw [mem_deadNodes]
  constructor
  · rintro ⟨listed, lasting, unexported, alone⟩
    refine ⟨listed, unexported, ?_⟩
    simp only [Impact.lastingKinds, List.mem_cons, List.not_mem_nil, or_false, not_or] at lasting
    have known := Assembly.declared_known made sound node (Assembly.declared_of_kind made listed lasting.1)
    simp only [NodeKind.known, List.mem_cons, List.not_mem_nil, or_false] at known
    rcases known with kind | kind | kind | kind | kind | kind
    · exact absurd kind lasting.1
    · exact Or.inr ⟨Or.inr kind, fun isUsed => alone ((used listed (Or.inr kind)).mpr isUsed)⟩
    · exact Or.inr ⟨Or.inl kind, fun isUsed => alone ((used listed (Or.inl kind)).mpr isUsed)⟩
    · exact Or.inl kind
    · exact absurd kind lasting.2.1
    · exact absurd kind lasting.2.2
  · rintro ⟨listed, unexported, decided⟩
    refine ⟨listed, ?_, unexported, ?_⟩
    · rcases decided with kind | ⟨kind | kind, _⟩ <;> rw [kind] <;> decide
    · rintro ⟨edge, member, ends⟩
      rcases decided with kind | ⟨kind, unused⟩
      · have unpointed := Assembly.target_kind made sound member listed ends
        rw [kind] at unpointed
        exact unpointed (by decide)
      · exact unused ((used listed kind).mp ⟨edge, member, ends⟩)

theorem Assembly.deadNodes_areDead :
    AreDead policy extractions (assembly.graph analysis) (Impact.deadNodes (assembly.graph analysis)) := by
  have ids : ((assembly.graph analysis).nodes.map Node.id).Nodup :=
    Assembly.nodes_ids made ▸ Store.idsFrom_nodup _ _
  have sublist : (Impact.deadNodes (assembly.graph analysis)).Sublist (assembly.graph analysis).nodes :=
    List.filter_sublist
  -- Nothing is lost when the placeholders are left out first.
  have same : (Impact.deadNodes (assembly.graph analysis)).filter (fun node => !node.isExternal) =
      Impact.deadNodes (assembly.graph analysis) := by
    rw [List.filter_eq_self]
    intro node dead
    obtain ⟨listed, lasting, _⟩ := mem_deadNodes.mp dead
    have noModule : node.kind ≠ .moduleKind := fun kind => lasting (kind ▸ List.mem_cons_self)
    rw [Assembly.declared_isExternal made sound node (Assembly.declared_of_kind made listed noModule)]
    rfl
  exact {
    ordered := same ▸ sublist.filter _
    single := (sublist.map Node.id).nodup ids
    mem_iff := Assembly.mem_deadNodes_iff made sound
    lasting := fun node dead => (mem_deadNodes.mp dead).2.1
    recursive := fun node dead edge member _ ends => (mem_deadNodes.mp dead).2.2.2 ⟨edge, member, ends⟩ }

end

/-- The graph of a build is that of an assembly of what was read, and it can be loaded afterwards. -/
theorem build_graph {builder : Builder} {table : LanguageTable} (reads : builder.extractor = .ofTable table)
    {workspace : Workspace} {options : BuildOptions} {cancel : Cancellation} {store after : Store}
    {report : BuildReport} (done : builder.build workspace options cancel store = (.ok report, after)) :
    ∃ extractions assembly first,
      builder.extract workspace options cancel (builder.discoveryOf workspace options).files = .ok extractions ∧
      (∀ extraction ∈ extractions, extraction.IsSound) ∧
      assembly = assemble builder.policy options.analysis first extractions ∧
      report.graph = assembly.graph options.analysis ∧
      Store.fullGraph options.analysis after = (.ok report.graph, after) := by
  obtain ⟨extractions, readAll, reported⟩ := build_reportOf reads done
  obtain ⟨_, _, _, _, _, _, found⟩ := build_ok done
  obtain ⟨_, rfl, _⟩ := Store.fullGraph_ok found
  exact ⟨extractions, _, store.nextId, readAll, extract_isSound reads readAll, rfl,
    congrArg BuildReport.graph reported, found⟩

/-- Dead code of a build. The graph that a build leaves to be loaded has the declarations of the files among its nodes,
in order. Its dead nodes are those declarations that are not exported and are a variable, or a function or class that no
call, superclass or interface of a file was resolved to. No edge leads to a variable, to an import or to an export. -/
theorem dead_code_exact (table : LanguageTable) (policy : Policy) (workers : Int) (workspace : Workspace)
    (options : BuildOptions) (cancel : Cancellation) (store after : Store) (report : BuildReport) :
    let builder : Builder := { extractor := .ofTable table, policy, workers }
    builder.build workspace options cancel store = (.ok report, after) →
    ∃ extractions,
      builder.extract workspace options cancel (builder.discoveryOf workspace options).files = .ok extractions ∧
      Store.fullGraph options.analysis after = (.ok report.graph, after) ∧
      report.graph.declared.map (Node.withId "") = extractions.flatMap (nodesOf options.analysis) ∧
      AreDead policy extractions report.graph (Impact.deadNodes report.graph) ∧
      ∀ edge ∈ report.graph.edges, ∀ node ∈ report.graph.nodes, edge.target = node.id →
        node.kind ∉ [NodeKind.variableKind, .importKind, .exportKind] := by
  intro builder done
  obtain ⟨extractions, assembly, first, readAll, sound, made, graph, loads⟩ := build_graph rfl done
  refine ⟨extractions, readAll, loads, ?_⟩
  rw [graph, Assembly.graph_declared made sound]
  refine ⟨Assembly.declared_blank made, Assembly.deadNodes_areDead made sound, ?_⟩
  intro edge member node listed ends
  exact Assembly.target_kind made sound member listed ends

/-! ### A file with dead code -/

/-- A function that only calls itself, one that nothing calls, and a variable. -/
def idleText : ByteArray := "def f(): f()\ndef g(): h()\nx = 1".toUTF8

def idleOutline : Syntax.Outline :=
  { hasError := false
    rows :=
      [⟨0, "module", true, none, 0, 31⟩, ⟨1, "function_definition", true, none, 0, 12⟩,
        ⟨2, "identifier", true, some "name", 4, 5⟩, ⟨2, "parameters", true, some "parameters", 5, 7⟩,
        ⟨2, "block", true, some "body", 9, 12⟩, ⟨3, "call", true, none, 9, 12⟩,
        ⟨4, "identifier", true, some "function", 9, 10⟩,
        ⟨4, "argument_list", true, some "arguments", 10, 12⟩,
        ⟨1, "function_definition", true, none, 13, 25⟩,
        ⟨2, "identifier", true, some "name", 17, 18⟩, ⟨2, "parameters", true, some "parameters", 18, 20⟩,
        ⟨2, "block", true, some "body", 22, 25⟩, ⟨3, "call", true, none, 22, 25⟩,
        ⟨4, "identifier", true, some "function", 22, 23⟩,
        ⟨4, "argument_list", true, some "arguments", 23, 25⟩,
        ⟨1, "expression_statement", true, none, 26, 31⟩, ⟨2, "assignment", true, none, 26, 31⟩,
        ⟨3, "identifier", true, some "left", 26, 27⟩, ⟨3, "integer", true, some "right", 30, 31⟩] }

def idleWorkspace : Workspace := .sole "a.py" idleText (some idleOutline)

theorem idleWorkspace_build :
    ∃ report after, callBuilder.build idleWorkspace callOptions {} {} = (.ok report, after) ∧
      (Impact.deadNodes report.graph).map Node.name = ["g", "x"] := by
  have extracted : callBuilder.extract idleWorkspace callOptions {}
      (callBuilder.discoveryOf idleWorkspace callOptions).files =
        .ok [Extraction.ofFile .standard "a.py" (Sources.parsedText idleText).toUTF8 idleOutline] := by
    rw [idleWorkspace, sole_discovery callBuilder rfl idleText (some idleOutline) (by decide +kernel)]
    exact sole_extract callBuilder rfl idleText (some idleOutline) (Int.le_refl 0)
  have dead : (callBuilder.build idleWorkspace callOptions {} {}).1.toOption.map
      (fun report => (Impact.deadNodes report.graph).map Node.name) = some ["g", "x"] := by
    unfold build buildBy
    dsimp only
    rw [extracted]
    decide +kernel
  exact Outcome.exists_of_seen dead

theorem dead_code_exact_idleWorkspace :
    ∃ report after extractions,
      callBuilder.build idleWorkspace callOptions {} {} = (.ok report, after) ∧
      (Impact.deadNodes report.graph).map Node.name = ["g", "x"] ∧
      AreDead .firstDeclared extractions report.graph (Impact.deadNodes report.graph) := by
  obtain ⟨report, after, built, names⟩ := idleWorkspace_build
  obtain ⟨extractions, _, _, _, dead, _⟩ :=
    dead_code_exact .standard .firstDeclared 0 idleWorkspace callOptions {} {} after report built
  exact ⟨report, after, extractions, built, names, dead⟩

end Builder

end ChangeImpact
