import ChangeImpact.Proofs.ImportRules
import ChangeImpact.Proofs.ModuleNodes
import ChangeImpact.Proofs.Rebuild

/-!
Where imports land. The candidates of an import are tried in order, and a path finds a module only if it is the path of a
file or has a colon. The candidates of one import all have colons or have none, so where paths have no colons the first
file among the candidates that gave something is what the import points to, under every policy.
-/

set_option autoImplicit false

namespace ChangeImpact

/-! ### Colons in paths -/

namespace Path

theorem mem_of_mem_splitLast {mark : Char} {text before after : List Char}
    (found : Text.splitLast mark text = some (before, after)) : ∀ c ∈ before, c ∈ text := by
  unfold Text.splitLast at found
  rw [List.span_eq_takeWhile_dropWhile] at found
  intro c member
  cases rest : text.reverse.dropWhile fun c => decide (c ≠ mark) with
  | nil =>
      rw [rest] at found
      cases found
  | cons first others =>
      rw [rest] at found
      cases found
      have kept : c ∈ text.reverse.dropWhile fun c => decide (c ≠ mark) := by
        rw [rest]
        exact List.mem_cons_of_mem _ (List.mem_reverse.mp member)
      exact List.mem_reverse.mp ((List.dropWhile_suffix _).subset kept)

theorem parent_plain {path : String} (plain : ':' ∉ path.toList) : ':' ∉ (parent path).toList := by
  unfold parent
  split
  · decide
  · rename_i before after found
    have head : ':' ∉ before ++ ['/'] := by
      intro member
      rcases List.mem_append.mp member with inside | slash
      · exact plain (mem_of_mem_splitLast found _ inside)
      · exact absurd (List.mem_singleton.mp slash) (by decide)
    have kept : ':' ∉ Text.dropEndWhile (· = '/') (before ++ ['/']) := by
      intro member
      exact head (List.mem_reverse.mp ((List.dropWhile_suffix _).subset (List.mem_reverse.mp member)))
    dsimp only
    rw [String.toList_ofList]
    split
    · exact head
    · exact kept

theorem colon_join {root rest : String} (plain : ':' ∉ root.toList) :
    ':' ∈ (join root rest).toList ↔ ':' ∈ rest.toList := by
  have slash : ':' ∉ "/".toList := by decide
  unfold join
  split
  · rfl
  split
  · simp [String.toList_append, plain]
  · simp [String.toList_append, plain]

end Path

namespace ModulePath

theorem ancestor_plain (levels : Nat) {directory : String} (plain : ':' ∉ directory.toList) :
    ':' ∉ (ancestor levels directory).toList := by
  induction levels generalizing directory with
  | zero => exact plain
  | succ levels ih => exact ih (Path.parent_plain plain)

theorem startingPoints_plain (dots : Nat) {directory : String} (plain : ':' ∉ directory.toList) :
    ∀ root ∈ startingPoints dots directory, ':' ∉ root.toList := by
  have top : ':' ∉ "".toList := by decide
  cases dots with
  | zero =>
      intro root member
      unfold startingPoints at member
      dsimp only at member
      split at member
      · rwa [List.mem_singleton.mp member]
      · rcases List.mem_cons.mp member with rfl | own
        · exact top
        · rwa [List.mem_singleton.mp own]
  | succ levels => exact List.forall_mem_singleton.mpr (ancestor_plain levels plain)

theorem colon_moduleFiles {stem file : String} (member : file ∈ moduleFiles stem) :
    ':' ∈ file.toList ↔ ':' ∈ stem.toList := by
  have plainFile : ':' ∉ ".py".toList := by decide
  have plainPackage : ':' ∉ "/__init__.py".toList := by decide
  unfold moduleFiles at member
  split at member
  · rename_i empty
    rw [List.mem_singleton.mp member, empty]
    decide
  · rcases List.mem_cons.mp member with rfl | package
    · simp [String.toList_append]
    · rw [List.mem_singleton.mp package]
      simp [String.toList_append]

theorem colon_scriptTrials {base file : String} (member : file ∈ scriptTrials base) :
    ':' ∈ file.toList ↔ ':' ∈ base.toList := by
  have plain : ∀ ending ∈ scriptEndings, ':' ∉ ending.toList := by decide
  have index : ':' ∉ "/index".toList := by decide
  unfold scriptTrials at member
  rcases List.mem_append.mp member with direct | inFolder
  · rcases List.mem_append.mp direct with own | ended
    · split at own
      · rw [List.mem_singleton.mp own]
      · cases own
    · obtain ⟨ending, listed, rfl⟩ := List.mem_map.mp ended
      simp [String.toList_append, plain ending listed]
  · obtain ⟨ending, listed, rfl⟩ := List.mem_map.mp inFolder
    simp [String.toList_append, plain ending listed]

/-- All candidates of an import in a file without a colon have one, or none does. -/
theorem colon_candidates (specifier : String) {file : String} (plain : ':' ∉ file.toList) :
    ∃ text : String, ∀ path ∈ candidates specifier file, ':' ∈ path.toList ↔ ':' ∈ text.toList := by
  unfold candidates
  split
  · unfold dottedFiles
    dsimp only
    generalize (specifier.toList.takeWhile (· = '.')).length = dots
    generalize Text.exchange '.' '/' (String.ofList (specifier.toList.drop dots)) = rest
    refine ⟨rest, ?_⟩
    intro path member
    obtain ⟨root, starting, tried⟩ := List.mem_flatMap.mp member
    have rootPlain := startingPoints_plain dots (Path.parent_plain plain) root starting
    rw [colon_moduleFiles tried]
    split
    · rename_i empty
      rw [empty]
      exact iff_of_false rootPlain (by decide)
    · exact Path.colon_join rootPlain
  · unfold scriptFiles
    split
    · exact ⟨"", List.forall_mem_nil _⟩
    · rename_i given _
      refine ⟨Path.normalize given, ?_⟩
      dsimp only
      split
      · exact List.forall_mem_nil _
      · exact fun path member => colon_scriptTrials member

end ModulePath

/-! ### Modules by path -/

namespace NameIndex

variable {policy : Policy} {nodes : List Node}

theorem contains_keysOf {path : String} (plain : ':' ∉ path.toList) (node : Node) :
    (keysOf node).contains path = (node.name == path) := by
  have longer : ∀ file, qualified file node.name ≠ path := by
    rintro file rfl
    apply plain
    simp [qualified, String.toList_append]
  unfold keysOf
  split
  · rename_i file _
    rw [List.contains_cons, List.contains_cons, beq_false_of_ne (longer file).symm, List.contains_nil, Bool.or_false,
      Bool.or_false]
    exact BEq.comm
  · rw [List.contains_cons, List.contains_nil, Bool.or_false]
    exact BEq.comm

/-- A path without a colon finds the modules of that name. -/
theorem lookup_module {path : String} (plain : ':' ∉ path.toList) :
    (ofNodes policy nodes).lookup path (some [.moduleKind]) =
      policy.choose ((nodes.filter fun node => node.kind == .moduleKind).filter fun node => node.name == path) := by
  have chosen : (ofNodes policy nodes).policy = policy := rfl
  unfold lookup
  rw [chosen, candidates_eq, List.filter_filter, List.filter_filter]
  refine congrArg policy.choose (List.filter_congr ?_)
  intro node _
  have only : permits (some [.moduleKind]) node.kind = (node.kind == .moduleKind) := Bool.or_false _
  rw [contains_keysOf plain, only, Bool.and_comm]

theorem lookup_module_isSome {path : String} (plain : ':' ∉ path.toList) :
    ((ofNodes policy nodes).lookup path (some [.moduleKind])).isSome = true ↔
      path ∈ (nodes.filter fun node => node.kind == .moduleKind).map Node.name := by
  rw [lookup_module plain, List.mem_map]
  constructor
  · intro found
    obtain ⟨node, chosen⟩ := Option.isSome_iff_exists.mp found
    obtain ⟨member, named⟩ := List.mem_filter.mp (Policy.mem_of_choose chosen)
    exact ⟨node, member, beq_iff_eq.mp named⟩
  · rintro ⟨node, member, named⟩
    exact Policy.choose_isSome policy (List.mem_filter.mpr ⟨member, beq_iff_eq.mpr named⟩)

end NameIndex

/-! ### Imports -/

/-- The first file among the candidates of an import that gave something. -/
def Resolution.importedFile? (extractions : List Extraction) (item : String × Reference) : Option String :=
  (ModulePath.candidates item.2.target item.1).find? fun path =>
    extractions.any fun extraction => extraction.file == path && extraction.isFilled

/-- An import that points to the module of a file and is not marked as pointing nowhere. -/
structure Edge.LandsOn (edge : Edge) (path : String) (nodes : List Node) : Prop where
  kind : edge.kind = .imports
  unmarked : edge.metadata.lookup "unresolvedTarget" = none
  target : ∃ target ∈ nodes, target.id = edge.target ∧ target.kind = .moduleKind ∧ target.name = path ∧
    target.file = some path

namespace Builder.Assembly

/-- Where each item gives a row, the rows stand in the order of the items. -/
theorem forall₂_identifiedFrom {ι β γ : Type} {give : String → γ → γ} {find : ι → Option β} {make : β → γ}
    {items : List ι} (all : ∀ item ∈ items, (find item).isSome = true) (first : Nat) :
    List.Forall₂ (fun item row => ∃ found id, find item = some found ∧ row = give id (make found)) items
      (Store.identifiedFrom give first ((items.filterMap find).map make)) := by
  induction items generalizing first with
  | nil => exact List.Forall₂.nil
  | cons item rest ih =>
      obtain ⟨here, later⟩ := List.forall_mem_cons.mp all
      obtain ⟨found, given⟩ := Option.isSome_iff_exists.mp here
      rw [List.filterMap_cons_some given, List.map_cons, Store.identifiedFrom_cons]
      exact List.Forall₂.cons ⟨found, _, given, rfl⟩ (ih later _)

variable {policy : Policy} {analysis : String} {first : Nat} {extractions : List Extraction}
  {assembly : Assembly} (made : assembly = assemble policy analysis first extractions)

include made

theorem edges_forall₂ (sound : ∀ extraction ∈ extractions, extraction.IsSound) :
    List.Forall₂ (fun item edge => ∃ pending id,
        Resolution.pending? (.ofNodes policy assembly.declared) item = some pending ∧
        edge = (Resolution.edge analysis
          (assembly.placeholders.map fun node => (node.name, node.id)) pending).withId id)
      (Resolution.referencesOf extractions) assembly.edges := by
  rw [edges_eq made, Resolution.ofExtractions_pending]
  exact forall₂_identifiedFrom (pending?_isSome made sound) _

variable {table : LanguageTable} {workspace : Workspace} {project : String} {files : List String}
  (read : List.Forall₂ (fun file extraction =>
    Sources.extractFile (.ofTable table) workspace project file = .ok extraction) files extractions)
  (plain : ∀ extraction ∈ extractions, ':' ∉ extraction.file.toList)

include read

/-- A path without a colon finds a module if and only if a file of that path gave something. -/
theorem lookup_path_isSome {path : String} (noColon : ':' ∉ path.toList) :
    ((NameIndex.ofNodes policy assembly.declared).lookup path (some [.moduleKind])).isSome =
      extractions.any fun extraction => extraction.file == path && extraction.isFilled := by
  rw [Bool.eq_iff_iff, NameIndex.lookup_module_isSome noColon, declared_modules made read, List.any_eq_true]
  simp only [List.mem_map, List.mem_filter, Bool.and_eq_true, beq_iff_eq]
  constructor
  · rintro ⟨extraction, ⟨among, filled⟩, same⟩
    exact ⟨extraction, among, same, filled⟩
  · rintro ⟨extraction, among, same, filled⟩
    exact ⟨extraction, ⟨among, filled⟩, same⟩

include plain

theorem target?_import {item : String × Reference} (listed : item ∈ Resolution.referencesOf extractions)
    (isImport : item.2.kind = .imports) {path : String}
    (found : Resolution.importedFile? extractions item = some path) :
    ∃ target ∈ assembly.declared,
      Resolution.target? (.ofNodes policy assembly.declared) item.1 item.2 = some target ∧
      target.kind = .moduleKind ∧ target.name = path := by
  obtain ⟨given, before, after, split, earlier⟩ := List.find?_eq_some_iff_append.mp found
  have home : ':' ∉ item.1.toList := by
    obtain ⟨extraction, among, inFile⟩ := List.mem_flatMap.mp listed
    obtain ⟨reference, _, rfl⟩ := List.mem_map.mp inFile
    exact plain extraction among
  have noColon : ':' ∉ path.toList := by
    obtain ⟨extraction, among, here⟩ := List.any_eq_true.mp given
    rw [← beq_iff_eq.mp (Bool.and_eq_true_iff.mp here).1]
    exact plain extraction among
  obtain ⟨text, shared⟩ := ModulePath.colon_candidates item.2.target home
  -- As the path has no colon, neither has any candidate before it.
  have others : ∀ other ∈ before, ':' ∉ other.toList := by
    intro other member
    have among : other ∈ ModulePath.candidates item.2.target item.1 := by
      rw [split]
      exact List.mem_append_left _ member
    have own : path ∈ ModulePath.candidates item.2.target item.1 := by
      rw [split]
      exact List.mem_append_right _ List.mem_cons_self
    rw [shared other among, ← shared path own]
    exact noColon
  have present := (lookup_path_isSome made read noColon).trans given
  obtain ⟨target, looked⟩ := Option.isSome_iff_exists.mp present
  have allowed : Resolution.targetKinds item.2.kind = some [.moduleKind] := by
    rw [isImport]
    rfl
  refine ⟨target, (NameIndex.lookup_some looked).1, ?_, ?_⟩
  · unfold Resolution.target?
    dsimp only
    rw [if_pos isImport, allowed, split, List.findSome?_append]
    have none_before : before.findSome? (fun path =>
        (NameIndex.ofNodes policy assembly.declared).lookup path (some [.moduleKind])) = none := by
      rw [List.findSome?_eq_none_iff]
      intro other member
      rw [← Option.not_isSome_iff_eq_none, lookup_path_isSome made read (others other member)]
      simpa using earlier other member
    rw [none_before, Option.none_or, List.findSome?_cons, looked]
    rfl
  · rw [NameIndex.lookup_module noColon] at looked
    obtain ⟨member, named⟩ := List.mem_filter.mp (Policy.mem_of_choose looked)
    exact ⟨beq_iff_eq.mp (List.mem_filter.mp member).2, beq_iff_eq.mp named⟩

theorem edge_landsOn (sound : ∀ extraction ∈ extractions, extraction.IsSound) {item : String × Reference}
    (listed : item ∈ Resolution.referencesOf extractions) (isImport : item.2.kind = .imports) {path : String}
    (found : Resolution.importedFile? extractions item = some path) {pending : PendingEdge}
    (resolved : Resolution.pending? (.ofNodes policy assembly.declared) item = some pending)
    (placeholders : List (String × String)) (id : String) :
    ((Resolution.edge analysis placeholders pending).withId id).LandsOn path assembly.nodes := by
  obtain ⟨target, member, pointed, isModule, named⟩ := target?_import made read plain listed isImport found
  obtain ⟨source, _, rfl⟩ := Option.map_eq_some_iff.mp resolved
  have unmarked : item.2.metadata.lookup "unresolvedTarget" = none := by
    obtain ⟨extraction, among, inFile⟩ := List.mem_flatMap.mp listed
    obtain ⟨reference, here, rfl⟩ := List.mem_map.mp inFile
    exact Json.Fields.lookup_eq_none ((sound extraction among).anchored.unmarked reference here)
  have file := file_of_module made read member isModule
  rw [named] at file
  rw [pointed]
  exact ⟨isImport, unmarked, target, List.mem_append_left _ member, rfl, isModule, named, file⟩

end Builder.Assembly

namespace Builder

/-- The references of the files of a project become the edges of its graph, in order. An import one of whose candidates
is a file that gave something points to the module of the first such file, under every policy. Each file that
gave something has one module for each time it was read, and no two nodes share an id. -/
theorem imports_land_on_files (table : LanguageTable) (policy : Policy) (workers : Int) (workspace : Workspace)
    (options : BuildOptions) (cancel : Cancellation) (store after : Store) (report : BuildReport) :
    let builder : Builder := { extractor := .ofTable table, policy, workers }
    builder.build workspace options cancel store = (.ok report, after) →
    (∀ file ∈ report.discovery.files, ':' ∉ file.toList) →
    ∃ extractions,
      builder.extract workspace options cancel report.discovery.files = .ok extractions ∧
      List.Forall₂ (fun item edge => item.2.kind = .imports →
          ∀ path, Resolution.importedFile? extractions item = some path → edge.LandsOn path report.graph.nodes)
        (Resolution.referencesOf extractions) report.graph.edges ∧
      (∀ extraction ∈ extractions, extraction.isFilled = true →
        (report.graph.nodes.filter fun node =>
          node.kind == .moduleKind && node.file == some extraction.file).length =
            report.discovery.files.count extraction.file) ∧
      (report.graph.nodes.map Node.id).Nodup := by
  intro builder done noColons
  have reads : builder.extractor = .ofTable table := rfl
  obtain ⟨extractions, extracted, reported⟩ := build_reportOf reads done
  have sound := extract_isSound reads extracted
  have read := extract_done extracted
  generalize made : assemble builder.policy options.analysis store.nextId extractions = assembly at reported
  subst reported
  have plain : ∀ extraction ∈ extractions, ':' ∉ extraction.file.toList := by
    intro extraction among
    obtain ⟨file, listed, readFile⟩ := Outcome.exists_item read among
    rw [(Sources.extractFile_content readFile).1]
    exact noColons file listed
  refine ⟨extractions, extracted, ?_, ?_, (Assembly.wellTyped made.symm sound).ids⟩
  · have rows := (List.forall₂_and_left _ _).mpr
      ⟨fun item listed => listed, Assembly.edges_forall₂ made.symm sound⟩
    refine rows.imp ?_
    rintro item edge ⟨listed, pending, id, resolved, rfl⟩ isImport path found
    exact Assembly.edge_landsOn made.symm read plain sound listed isImport found resolved _ id
  · intro extraction among filled
    exact Assembly.count_modules made.symm read ⟨extraction, among, rfl, filled⟩

/-! ### An import that two files could be meant by -/

def choiceText : ByteArray := "import './m'".toUTF8

def choiceOutline : Syntax.Outline :=
  { hasError := false
    rows :=
      [⟨0, "program", true, none, 0, 12⟩, ⟨1, "import_statement", true, none, 0, 12⟩,
        ⟨2, "string", true, some "source", 7, 12⟩, ⟨3, "string_fragment", true, none, 8, 11⟩] }

def blankOutline : Syntax.Outline := { hasError := false, rows := [⟨0, "program", true, none, 0, 1⟩] }

/-- An import of `./m`, and two files that it could mean. -/
def choiceFiles : List (String × ByteArray × Option Syntax.Outline) :=
  [("a.ts", choiceText, some choiceOutline), ("m.js", ";".toUTF8, some blankOutline),
    ("m.ts", ";".toUTF8, some blankOutline)]

def choiceWorkspace : Workspace := .holding (filesOf choiceFiles)

def choiceExtractions : List Extraction := choiceFiles.map extractionOf

theorem choiceWorkspace_discovery (policy : Policy) :
    ({ policy } : Builder).discoveryOf choiceWorkspace callOptions = { files := ["a.ts", "m.js", "m.ts"] } :=
  filesOf_discovery { policy } rfl (by decide +kernel : ∀ file ∈ choiceFiles, Admitted file) (by decide) (by decide)

theorem choiceWorkspace_extract (policy : Policy) :
    ({ policy } : Builder).extract choiceWorkspace callOptions {} ["a.ts", "m.js", "m.ts"] =
      .ok choiceExtractions :=
  filesOf_extract { policy } rfl (Int.le_refl 0) choiceFiles (by decide) (by decide +kernel)

theorem choiceWorkspace_build (policy : Policy) :
    ∃ report after, ({ policy } : Builder).build choiceWorkspace callOptions {} {} = (.ok report, after) ∧
      report.discovery.files = ["a.ts", "m.js", "m.ts"] := by
  have found := choiceWorkspace_discovery policy
  have done : (({ policy } : Builder).build choiceWorkspace callOptions {} {}).1.toOption.map
      (fun report => report.discovery.files) = some ["a.ts", "m.js", "m.ts"] := by
    unfold build buildBy
    dsimp only
    rw [found, choiceWorkspace_extract]
    cases policy <;> decide +kernel
  exact Outcome.exists_of_seen done

/-- Both files are there, and each is a candidate that gave something. The one that is tried first is meant, although
the other is the last to be written. -/
theorem imports_land_on_files_choice :
    ∃ report after,
      ({ policy := .lastWriter } : Builder).build choiceWorkspace callOptions {} {} = (.ok report, after) ∧
      (∀ file ∈ report.discovery.files, ':' ∉ file.toList) ∧
      (∀ file ∈ ["m.js", "m.ts"],
        file ∈ ModulePath.candidates "./m" "a.ts" ∧
        (report.graph.nodes.filter fun node => node.kind == .moduleKind && node.file == some file).length = 1) ∧
      ∃ edge ∈ report.graph.edges, edge.LandsOn "m.js" report.graph.nodes := by
  obtain ⟨report, after, built, files⟩ := choiceWorkspace_build .lastWriter
  have noColons : ∀ file ∈ report.discovery.files, ':' ∉ file.toList := by
    rw [files]
    decide
  obtain ⟨extractions, extracted, rows, modules, _⟩ :=
    imports_land_on_files .standard .lastWriter 0 choiceWorkspace callOptions {} {} after report built noColons
  rw [files] at extracted modules
  cases (choiceWorkspace_extract .lastWriter).symm.trans extracted
  have imported : ∃ item ∈ Resolution.referencesOf choiceExtractions, item.2.kind = .imports ∧
      Resolution.importedFile? choiceExtractions item = some "m.js" := by
    decide +kernel
  obtain ⟨item, listed, isImport, found⟩ := imported
  obtain ⟨edge, stored, lands⟩ := Outcome.exists_result rows listed
  refine ⟨report, after, built, noColons, ?_, edge, stored, lands isImport _ found⟩
  have given : ∀ file ∈ ["m.js", "m.ts"], file ∈ ModulePath.candidates "./m" "a.ts" ∧
      (∃ extraction ∈ choiceExtractions, extraction.file = file ∧ extraction.isFilled = true) ∧
      ["a.ts", "m.js", "m.ts"].count file = 1 := by
    decide +kernel
  intro file meant
  obtain ⟨candidate, ⟨extraction, among, rfl, filled⟩, once⟩ := given file meant
  exact ⟨candidate, (modules extraction among filled).trans once⟩

end Builder

end ChangeImpact
