import ChangeImpact.Proofs.DiscoveredFiles
import ChangeImpact.Proofs.FirstProposals
import ChangeImpact.Proofs.ModuleNodes
import ChangeImpact.Proofs.Rebuild

/-!
What identifies a node. Within a file kind, name and first line do, since of the proposals that share them one stays.
A project has no file twice, so with the file they identify a node of its graph, and a file has one module.
-/

set_option autoImplicit false

namespace ChangeImpact

open ChangeImpact.Syntax (Tree)

/-! ### Files -/

namespace Grammar

variable {grammar : Grammar} {file : String} {tree : Tree} {found : List Declaration}

/-- What a file declares: itself first and no other module, and of each key the first proposal. -/
structure ListsFirsts (grammar : Grammar) (file : String) (tree : Tree) (found : List Declaration) : Prop where
  headed : ∃ own others, found = own :: others ∧ own.kind = .moduleKind ∧ own.name = file ∧
    ∀ other ∈ others, other.kind ≠ .moduleKind
  distinct : (found.map Declaration.key).Nodup
  firsts : ∃ proposals kept, grammar.proposedFor file tree = .ok proposals ∧
    Declaration.KeepsFirsts proposals kept ∧ found = kept.map (grammar.marked tree)

theorem marked_moduleDeclaration (grammar : Grammar) (file : String) (tree : Tree) :
    (grammar.marked tree (grammar.moduleDeclaration file tree)).kind = .moduleKind ∧
      (grammar.marked tree (grammar.moduleDeclaration file tree)).name = file := by
  have same := marked_resembles grammar tree (grammar.moduleDeclaration file tree)
  have own : (grammar.moduleDeclaration file tree).key = (.moduleKind, file, .ofNat 1) := moduleDeclaration_key
  obtain ⟨kind, rest⟩ := Prod.mk.inj own
  exact ⟨same.kind.trans kind, same.name.trans (Prod.mk.inj rest).1⟩

theorem declarations_listsFirsts (done : grammar.declarations file tree = .ok found) :
    grammar.ListsFirsts file tree found := by
  obtain ⟨proposals, kept, made, keeps, rfl⟩ := declarations_keepFirsts done
  have distinct := keeps.distinct
  refine ⟨?_, (map_marked_key grammar tree kept).symm ▸ distinct, proposals, kept, made, keeps, rfl⟩
  obtain ⟨rows, _, rfl⟩ := proposedFor_done made
  obtain ⟨others, rfl⟩ := keeps.head
  obtain ⟨kind, name⟩ := marked_moduleDeclaration grammar file tree
  refine ⟨_, others.map (grammar.marked tree), rfl, kind, name, ?_⟩
  intro other listed
  obtain ⟨original, member, rfl⟩ := List.mem_map.mp listed
  rw [(marked_resembles grammar tree original).kind]
  -- Only the file itself is proposed as a module, and its key is taken by the front.
  rcases (mem_proposedFor made).mp (keeps.first original (List.mem_cons_of_mem _ member)).mem with rfl | other
  · exact absurd (List.mem_map_of_mem member) (List.nodup_cons.mp distinct).1
  · obtain ⟨visit, _, proposal, given, inRow⟩ := other
    exact (proposals_proposedAt given original inRow).kind

end Grammar

namespace Sources

variable {table : LanguageTable} {workspace : Workspace} {project : String}

def Parses (table : LanguageTable) (workspace : Workspace) (project file : String) : Prop :=
  ∃ grammar tree, tree? table workspace project file = some (grammar, tree) ∧
    (Extraction.ofTree grammar file tree).isOk = true

theorem isFilled_iff {file : String} {extraction : Extraction}
    (done : extractFile (.ofTable table) workspace project file = .ok extraction) :
    extraction.isFilled = true ↔ Parses table workspace project file := by
  constructor
  · intro filled
    rcases extractFile_cases done with ⟨nothing, _⟩ | ⟨grammar, tree, grown, read⟩
    · rw [Extraction.isFilled, nothing] at filled
      cases filled
    · refine ⟨grammar, tree, grown, ?_⟩
      rw [read]
      rfl
  · intro parses
    obtain ⟨grammar, tree, grown, readable⟩ := parses
    have read := extractFile_of_tree done grown readable
    obtain ⟨own, others, listed, _⟩ := (Grammar.declarations_listsFirsts (Extraction.ofTree_done read).1).headed
    rw [Extraction.isFilled, listed]
    rfl

theorem extractFile_distinct {file : String} {extraction : Extraction}
    (done : extractFile (.ofTable table) workspace project file = .ok extraction) :
    (extraction.declarations.map Declaration.key).Nodup := by
  rcases extractFile_cases done with ⟨nothing, _⟩ | ⟨grammar, tree, _, read⟩
  · rw [nothing]
    exact List.nodup_nil
  · exact (Grammar.declarations_listsFirsts (Extraction.ofTree_done read).1).distinct

theorem map_file {files : List String} {extractions : List Extraction}
    (read : List.Forall₂ (fun file extraction =>
      extractFile (.ofTable table) workspace project file = .ok extraction) files extractions) :
    extractions.map Extraction.file = files := by
  induction read with
  | nil => rfl
  | cons extracted _ ih => rw [List.map_cons, ih, (extractFile_content extracted).1]

end Sources

/-! ### Graphs -/

def Node.key (node : Node) : NodeKind × String × Option String × Json.Value :=
  (node.kind, node.name, node.file, node.lineStart)

namespace Builder

def keyIn (file : String) : NodeKind × String × Json.Value → NodeKind × String × Option String × Json.Value
  | (kind, name, line) => (kind, name, some file, line)

theorem keyIn_injective (file : String) : Function.Injective (keyIn file) := by
  rintro ⟨kind, name, line⟩ ⟨kind', name', line'⟩ same
  cases same
  rfl

theorem map_key_nodesOf (analysis : String) (extraction : Extraction) :
    (nodesOf analysis extraction).map Node.key =
      (extraction.declarations.map Declaration.key).map (keyIn extraction.file) := by
  unfold nodesOf
  rw [List.map_map, List.map_map]
  rfl

def modulesOf (graph : Graph) (file : String) : List Node :=
  graph.nodes.filter fun node => node.kind == .moduleKind && node.file == some file

namespace Assembly

variable {policy : Policy} {analysis : String} {first : Nat} {extractions : List Extraction}
  {assembly : Assembly} (made : assembly = assemble policy analysis first extractions)

include made

variable {table : LanguageTable} {workspace : Workspace} {project : String} {files : List String}
  (read : List.Forall₂ (fun file extraction =>
    Sources.extractFile (.ofTable table) workspace project file = .ok extraction) files extractions)

include read

theorem nodes_distinct (once : files.Nodup) :
    ((assembly.nodes.filter fun node => !node.isExternal).map Node.key).Nodup := by
  have sound : ∀ extraction ∈ extractions, extraction.IsSound := by
    intro extraction listed
    obtain ⟨_, _, extracted⟩ := Outcome.exists_item read listed
    exact Sources.extractFile_isSound extracted
  have blind : ∀ id (node : Node), (node.withId id).key = node.key := fun _ _ => rfl
  rw [filter_not_isExternal made sound, declared_eq made, Store.map_identifiedFrom blind, List.map_flatMap,
    List.nodup_flatMap]
  constructor
  · intro extraction listed
    obtain ⟨file, _, extracted⟩ := Outcome.exists_item read listed
    rw [map_key_nodesOf]
    exact (Sources.extractFile_distinct extracted).map (keyIn_injective _)
  · -- The keys of two files differ in the file.
    rw [← Sources.map_file read] at once
    refine (List.pairwise_map.mp once).imp ?_
    intro left right differ key inLeft inRight
    dsimp only at inLeft inRight
    rw [map_key_nodesOf] at inLeft inRight
    obtain ⟨_, _, rfl⟩ := List.mem_map.mp inLeft
    obtain ⟨_, _, same⟩ := List.mem_map.mp inRight
    exact differ (Option.some.inj (Prod.mk.inj (Prod.mk.inj (Prod.mk.inj same).2).2).1).symm

theorem name_of_mem_modulesOf {file : String} {node : Node} (member : node ∈ modulesOf (assembly.graph analysis) file) :
    node.name = file ∧ node.name ∈ (extractions.filter Extraction.isFilled).map Extraction.file := by
  obtain ⟨among, test⟩ := List.mem_filter.mp member
  rw [Bool.and_eq_true, beq_iff_eq, beq_iff_eq] at test
  rcases List.mem_append.mp among with declared | placeholder
  · have own := file_of_module made read declared test.1
    refine ⟨Option.some.inj (own.symm.trans test.2), ?_⟩
    rw [← declared_modules made read]
    exact List.mem_map_of_mem (List.mem_filter.mpr ⟨declared, beq_iff_eq.mpr test.1⟩)
  · obtain ⟨id, name, rfl⟩ := exists_placeholder made placeholder
    cases test.2

theorem exists_module {file : String} (once : files.Nodup) (listed : file ∈ files)
    (parses : Sources.Parses table workspace project file) :
    ∃ node, modulesOf (assembly.graph analysis) file = [node] ∧ node.name = file := by
  obtain ⟨extraction, among, extracted⟩ := Outcome.exists_result read listed
  have given : ∃ extraction ∈ extractions, extraction.file = file ∧ extraction.isFilled = true :=
    ⟨extraction, among, (Sources.extractFile_content extracted).1, (Sources.isFilled_iff extracted).mpr parses⟩
  have counted : (modulesOf (assembly.graph analysis) file).length = files.count file := count_modules made read given
  rw [List.count_eq_one_of_mem once listed] at counted
  obtain ⟨node, alone⟩ := List.length_eq_one_iff.mp counted
  have member : node ∈ modulesOf (assembly.graph analysis) file := alone ▸ List.mem_singleton_self node
  exact ⟨node, alone, (name_of_mem_modulesOf made read member).1⟩

theorem no_module {file : String} (fails : ¬ Sources.Parses table workspace project file) :
    modulesOf (assembly.graph analysis) file = [] := by
  rw [List.eq_nil_iff_forall_not_mem]
  intro node member
  obtain ⟨rfl, named⟩ := name_of_mem_modulesOf made read member
  obtain ⟨extraction, kept, same⟩ := List.mem_map.mp named
  obtain ⟨among, filled⟩ := List.mem_filter.mp kept
  obtain ⟨file, _, extracted⟩ := Outcome.exists_item read among
  rw [(Sources.extractFile_content extracted).1] at same
  exact fails (same ▸ (Sources.isFilled_iff extracted).mp filled)

end Assembly

/-- Kind, name and first line identify what a file declares, which is headed by its one module and has the first
proposal of each. With the file they identify a node of a built graph that is not external, and each file that parses
has one module there, the others none. -/
theorem keys_identify_nodes :
    (∀ (grammar : Grammar) (file : String) (tree : Tree) (found : List Declaration),
      grammar.declarations file tree = .ok found → grammar.ListsFirsts file tree found) ∧
    (∀ (table : LanguageTable) (policy : Policy) (workers : Int) (workspace : Workspace)
      (options : BuildOptions) (cancel : Cancellation) (store after : Store) (report : BuildReport),
      let builder : Builder := { extractor := .ofTable table, policy, workers }
      workspace.Proper →
      builder.build workspace options cancel store = (.ok report, after) →
      ((report.graph.nodes.filter fun node => !node.isExternal).map Node.key).Nodup ∧
      ∀ file ∈ report.discovery.files,
        (Sources.Parses table workspace options.project file →
          ∃ node, modulesOf report.graph file = [node] ∧ node.name = file) ∧
        (¬ Sources.Parses table workspace options.project file → modulesOf report.graph file = [])) := by
  constructor
  · intro grammar file tree found done
    exact Grammar.declarations_listsFirsts done
  · intro table policy workers workspace options cancel store after report builder proper done
    have reads : builder.extractor = .ofTable table := rfl
    obtain ⟨extractions, readAll, rfl⟩ := build_reportOf reads done
    have once : (builder.discoveryOf workspace options).files.Nodup :=
      Discovery.files_nodup _ _ proper options.project
    have read := extract_done readAll
    refine ⟨Assembly.nodes_distinct rfl read once, ?_⟩
    intro file listed
    exact ⟨Assembly.exists_module rfl read once listed, Assembly.no_module rfl read⟩

theorem keys_identify_nodes_callWorkspace :
    (∃ found, Grammar.python.declarations "a.py" callTree = .ok found ∧
      Grammar.python.ListsFirsts "a.py" callTree found) ∧
    ∃ report after, callBuilder.build callWorkspace callOptions {} {} = (.ok report, after) ∧
      ∃ node, modulesOf report.graph "a.py" = [node] ∧ node.name = "a.py" := by
  obtain ⟨declarations, references, read, _⟩ := callTree_read
  constructor
  · have declared := (Extraction.ofTree_done read).1
    exact ⟨declarations, declared, keys_identify_nodes.1 _ _ _ _ declared⟩
  · obtain ⟨report, after, built⟩ := callWorkspace_build
    have found := callWorkspace_files built
    have parses : Sources.Parses .standard callWorkspace callOptions.project "a.py" := by
      have each := extract_done callWorkspace_extract
      rw [callWorkspace_discovery] at each
      have extracted := (List.forall₂_cons.mp each).1
      exact (Sources.isFilled_iff extracted).mp (by decide +kernel)
    have keyed := keys_identify_nodes.2 .standard .firstDeclared 0 callWorkspace callOptions {} {} after report
      (Discovery.sole_proper _ _ (by decide +kernel : Path.IsName "a.py")) built
    exact ⟨report, after, built, (keyed.2 "a.py" (found ▸ List.mem_singleton_self _)).1 parses⟩

end Builder

end ChangeImpact
