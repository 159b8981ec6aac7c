import ChangeImpact.Proofs.Building
import ChangeImpact.Proofs.HeldFiles

/-!
No reference is lost between a file and the store: declarations and references of a file agree on the names that
references start from, so every reference of a project becomes an edge.
-/

set_option autoImplicit false

namespace ChangeImpact.Builder

variable {policy : Policy} {analysis : String} {first : Nat} {extractions : List Extraction}

namespace Assembly

variable {assembly : Assembly} (made : assembly = assemble policy analysis first extractions)

include made

/-- A declaration of an extraction has its node. -/
theorem exists_declared {extraction : Extraction} {declaration : Declaration}
    (among : extraction ∈ extractions) (member : declaration ∈ extraction.declarations) :
    ∃ node ∈ assembly.declared,
      node.name = declaration.name ∧ node.kind = declaration.kind ∧ node.file = some extraction.file := by
  subst made
  have own : _ ∈ nodesOf analysis extraction := List.mem_map_of_mem member
  obtain ⟨id, found⟩ :=
    Store.exists_mem_identifiedFrom (List.mem_flatMap.mpr ⟨extraction, among, own⟩)
  exact ⟨_, found, rfl, rfl, rfl⟩

/-- Every reference starts from a node. -/
theorem pending?_isSome (sound : ∀ extraction ∈ extractions, extraction.IsSound) :
    ∀ item ∈ Resolution.referencesOf extractions,
      (Resolution.pending? (.ofNodes policy assembly.declared) item).isSome = true := by
  intro item listed
  obtain ⟨extraction, among, inFile⟩ := List.mem_flatMap.mp listed
  obtain ⟨reference, here, rfl⟩ := List.mem_map.mp inFile
  obtain ⟨declaration, declared, named, kind⟩ := (sound extraction among).anchored.source reference here
  obtain ⟨node, member, sameName, sameKind, _⟩ := exists_declared made among declared
  have permitted : NameIndex.permits (some Resolution.sourceKinds) node.kind = true := by
    rw [sameKind]
    exact List.contains_iff_mem.mpr kind
  unfold Resolution.pending?
  rw [Option.isSome_map, ← named, ← sameName]
  exact NameIndex.resolve_isSome member permitted

theorem dropped_eq_zero (sound : ∀ extraction ∈ extractions, extraction.IsSound) :
    assembly.dropped = 0 := by
  have none_lost : (Resolution.referencesOf extractions).filter (fun item =>
      (Resolution.pending? (.ofNodes policy assembly.declared) item).isNone) = [] := by
    rw [List.filter_eq_nil_iff]
    intro item listed lost
    have found := pending?_isSome made sound item listed
    rw [Option.isNone_iff_eq_none] at lost
    rw [lost] at found
    cases found
  subst made
  change (Resolution.ofExtractions (.ofNodes policy _) extractions).dropped = 0
  rw [Resolution.ofExtractions_dropped]
  exact List.length_eq_zero_iff.mpr none_lost

/-- There are as many edges as references. -/
theorem edges_length (sound : ∀ extraction ∈ extractions, extraction.IsSound) :
    assembly.edges.length = (extractions.flatMap Extraction.references).length := by
  have found := List.filterMap_length_eq_length.mpr (pending?_isSome made sound)
  subst made
  refine Store.identifiedFrom_length.trans ?_
  rw [List.length_map, Resolution.ofExtractions_pending]
  refine found.trans ?_
  rw [Resolution.referencesOf, List.length_flatMap, List.length_flatMap]
  simp only [List.length_map]

end Assembly

/-- Every reference of a tree starts from a module, class or function that the tree declares. So no build drops a
reference: it stores exactly one edge for each. -/
theorem every_reference_stored :
    (∀ (grammar : Grammar) (file : String) (tree : Syntax.Tree) (declarations : List Declaration)
      (references : List Reference),
      Extraction.ofTree grammar file tree = .ok (declarations, references) →
      ∀ reference ∈ references, ∃ declaration ∈ declarations,
        declaration.name = reference.source ∧
          declaration.kind ∈ [NodeKind.moduleKind, .classKind, .functionKind]) ∧
    (∀ (table : LanguageTable) (policy : Policy) (workers : Int) (workspace : Workspace)
      (options : BuildOptions) (cancel : Cancellation) (store after : Store) (report : BuildReport),
      let builder : Builder := { extractor := .ofTable table, policy, workers }
      builder.build workspace options cancel store = (.ok report, after) →
      ∃ extractions,
        builder.extract workspace options cancel (builder.discoveryOf workspace options).files =
          .ok extractions ∧
        report.dropped = 0 ∧
        report.graph.edges = after.visible.edgesOf options.analysis ∧
        (after.visible.edgesOf options.analysis).length =
          (extractions.flatMap Extraction.references).length) := by
  constructor
  · intro grammar file tree declarations references done
    exact (Extraction.ofTree_anchored done).source
  · intro table policy workers workspace options cancel store after report builder done
    obtain ⟨cleared, extractions, filled, deleted, readAll, persisted, found⟩ := build_ok done
    have reads : builder.extractor = .ofTable table := rfl
    have sound := extract_isSound reads readAll
    obtain ⟨visible, nextId, _⟩ := Store.deleteGraph_ok deleted
    obtain ⟨counts, filledVisible, _⟩ := persist_ok sound persisted
    obtain ⟨graph, rfl, _⟩ := Store.fullGraph_ok found
    generalize made : assemble builder.policy options.analysis cleared.nextId extractions = assembly
      at counts filledVisible
    have stored := Assembly.graphOf_addTo_self made.symm
      (Store.Image.graphOf_without_self options.analysis store.visible)
    rw [visible] at filledVisible
    refine ⟨extractions, readAll, ?_, ?_, ?_⟩
    · rw [(Prod.mk.inj counts).2]
      exact Assembly.dropped_eq_zero made.symm sound
    · rw [graph]
      rfl
    · rw [filledVisible]
      exact (congrArg (fun graph => graph.edges.length) stored).trans
        (Assembly.edges_length made.symm sound)

/-! ### Files side by side -/

def callOptions : BuildOptions := { analysis := "a", project := "." }

def callBuilder : Builder := {}

def filesOf (files : List (String × ByteArray × Option Syntax.Outline)) : List (String × Entry) :=
  files.map fun file => (file.1, .file file.2.1 file.2.2)

def extractionOf (file : String × ByteArray × Option Syntax.Outline) : Extraction :=
  Extraction.ofFile .standard file.1 (Sources.parsedText file.2.1).toUTF8
    (file.2.2.getD { hasError := false, rows := [] })

def Admitted (file : String × ByteArray × Option Syntax.Outline) : Prop :=
  callOptions.scope.excludes file.1 file.1 = false ∧
    (LanguageTable.standard.supports file.1 && callOptions.scope.includes file.1 file.1) = true ∧
    file.2.1.size ≤ 1024 * 1024

instance (file : String × ByteArray × Option Syntax.Outline) : Decidable (Admitted file) :=
  inferInstanceAs (Decidable (_ ∧ _ ∧ _))

theorem walk_filesOf {linkedSize : String → Option Nat} {files : List (String × ByteArray × Option Syntax.Outline)}
    (admitted : ∀ file ∈ files, Admitted file) {before : List String} (few : before.length + files.length ≤ 5000) :
    Discovery.walk .standard callOptions.scope linkedSize "" (filesOf files) { files := before } =
      { files := before ++ files.map Prod.fst } := by
  induction files generalizing before with
  | nil => rw [filesOf, List.map_nil, Discovery.walk, List.map_nil, List.append_nil]
  | cons file rest ih =>
      obtain ⟨⟨kept, wanted, small⟩, others⟩ := List.forall_mem_cons.mp admitted
      have path : Discovery.pathIn "" file.1 = file.1 := rfl
      have fits : ¬ callOptions.scope.maxFileSize < Int.ofNat file.2.1.size :=
        Int.not_lt.mpr (Int.ofNat_le.mpr small)
      rw [List.length_cons] at few
      have room : ¬ callOptions.scope.maxFiles ≤ Int.ofNat before.length :=
        Int.not_le.mpr (Int.ofNat_lt.mpr (show before.length < 5000 by omega))
      have next := @ih others (before ++ [file.1]) (by rw [List.length_append, List.length_singleton]; omega)
      rw [List.append_assoc] at next
      rw [filesOf, List.map_cons, Discovery.walk, if_neg Bool.false_ne_true]
      dsimp only
      rw [path, kept, if_neg Bool.false_ne_true]
      unfold Discovery.consider Discovery.takeIn
      rw [if_pos wanted, if_neg fits, if_neg room]
      exact next

section

variable (builder : Builder) (reads : builder.extractor = .ofTable .standard)

include reads

/-- Files that lie side by side are found in the order of their names. -/
theorem filesOf_discovery {files : List (String × ByteArray × Option Syntax.Outline)}
    (admitted : ∀ file ∈ files, Admitted file) (few : files.length ≤ 5000)
    (ordered : files.Pairwise fun left right => left.1 ≤ right.1) :
    builder.discoveryOf (.holding (filesOf files)) callOptions = { files := files.map Prod.fst } := by
  have folder : (Workspace.holding (filesOf files)).folder? callOptions.project = _ := Workspace.holding_folder
  have order : Entry.inOrder (filesOf files) = filesOf files :=
    List.mergeSort_of_pairwise (List.pairwise_map.mpr (ordered.imp decide_eq_true))
  unfold discoveryOf Discovery.ofProject
  rw [reads, folder]
  dsimp only [Extractor.ofTable]
  rw [order]
  exact walk_filesOf admitted (by rwa [List.length_nil, Nat.zero_add])

theorem holding_extractFile {entries : List (String × Entry)} {name : String} {octets : ByteArray}
    {outline : Option Syntax.Outline} (listed : entries.lookup name = some (.file octets outline))
    (names : Workspace.Names (Path.join callOptions.project name) name) :
    Sources.extractFile builder.extractor (.holding entries) callOptions.project name =
      .ok (extractionOf (name, octets, outline)) := by
  unfold Sources.extractFile
  dsimp only
  rw [Workspace.holding_readFile listed names, reads]
  dsimp only [Extractor.ofTable, extractionOf]

/-- Files that lie side by side are all read. -/
theorem filesOf_extract (working : 0 ≤ builder.workers) (files : List (String × ByteArray × Option Syntax.Outline))
    (distinct : (files.map Prod.fst).Nodup)
    (names : ∀ name ∈ files.map Prod.fst, Workspace.Names (Path.join callOptions.project name) name) :
    builder.extract (.holding (filesOf files)) callOptions {} (files.map Prod.fst) =
      .ok (files.map extractionOf) := by
  have keys : (filesOf files).map Prod.fst = files.map Prod.fst := List.map_map
  have each : List.Forall₂ (fun name extraction =>
      Sources.extractFile builder.extractor (.holding (filesOf files)) callOptions.project name = .ok extraction)
      (files.map Prod.fst) (files.map extractionOf) := by
    rw [List.forall₂_map_left_iff, List.forall₂_map_right_iff, List.forall₂_same]
    intro file listed
    refine holding_extractFile builder reads ?_ (names file.1 (List.mem_map_of_mem listed))
    exact Json.Fields.lookup_of_mem (keys ▸ distinct) (List.mem_map_of_mem listed)
  unfold extract
  rw [if_neg (Int.not_lt.mpr working), Sources.extractAll_never each]

variable (octets : ByteArray) (outline : Option Syntax.Outline)

theorem sole_admitted {name : String} (admitted : Admitted (name, octets, outline)) :
    builder.discoveryOf (.sole name octets outline) callOptions = { files := [name] } :=
  filesOf_discovery builder reads (List.forall_mem_singleton.mpr admitted) (by simp) (List.pairwise_singleton _ _)

theorem sole_discovery (small : octets.size ≤ 1024 * 1024) :
    builder.discoveryOf (.sole "a.py" octets outline) callOptions = { files := ["a.py"] } := by
  have kept : callOptions.scope.excludes "a.py" "a.py" = false := by decide +kernel
  have wanted : (LanguageTable.standard.supports "a.py" && callOptions.scope.includes "a.py" "a.py") = true := by
    decide +kernel
  exact sole_admitted builder reads octets outline ⟨kept, wanted, small⟩

theorem sole_extract (working : 0 ≤ builder.workers) :
    builder.extract (.sole "a.py" octets outline) callOptions {} ["a.py"] =
      .ok [Extraction.ofFile .standard "a.py" (Sources.parsedText octets).toUTF8
        (outline.getD { hasError := false, rows := [] })] :=
  filesOf_extract builder reads working [("a.py", octets, outline)] (List.nodup_singleton _)
    (by decide +kernel : ∀ name ∈ ["a.py"], Workspace.Names (Path.join callOptions.project name) name)

end

/-! ### A file with one call -/

/-- A function that calls what nothing declares. -/
def callText : ByteArray := "def f(): g()".toUTF8

def callOutline : Syntax.Outline :=
  { hasError := false
    rows :=
      [⟨0, "module", true, none, 0, 12⟩, ⟨1, "function_definition", true, none, 0, 12⟩,
        ⟨2, "identifier", true, some "name", 4, 5⟩, ⟨2, "parameters", true, some "parameters", 5, 7⟩,
        ⟨2, "block", true, some "body", 9, 12⟩, ⟨3, "call", true, none, 9, 12⟩,
        ⟨4, "identifier", true, some "function", 9, 10⟩,
        ⟨4, "argument_list", true, some "arguments", 10, 12⟩] }

def callWorkspace : Workspace :=
  { location := "w"
    tree := Entry.put Workspace.base (.directory [("a.py", .file callText (some callOutline))]) [] }

def callExtraction : Extraction :=
  Extraction.ofFile .standard "a.py" (Sources.parsedText callText).toUTF8 callOutline

theorem callWorkspace_discovery :
    callBuilder.discoveryOf callWorkspace callOptions = { files := ["a.py"] } :=
  sole_discovery callBuilder rfl callText (some callOutline) (by decide +kernel)

theorem callWorkspace_extract :
    callBuilder.extract callWorkspace callOptions {}
      (callBuilder.discoveryOf callWorkspace callOptions).files = .ok [callExtraction] := by
  rw [callWorkspace_discovery]
  exact sole_extract callBuilder rfl callText (some callOutline) (Int.le_refl 0)

theorem callWorkspace_build :
    ∃ report after, callBuilder.build callWorkspace callOptions {} {} = (.ok report, after) := by
  have done : (callBuilder.build callWorkspace callOptions {} {}).1.isOk = true := by
    have extracted := callWorkspace_extract
    unfold build buildBy
    dsimp only
    rw [extracted]
    decide +kernel
  obtain ⟨report, built⟩ := Outcome.exists_of_isOk done
  exact ⟨report, _, Prod.ext built rfl⟩

def callTree : Syntax.Tree := (callOutline.tree? callText).getD Syntax.emptyTree

theorem callTree_read :
    ∃ declarations references,
      Extraction.ofTree .python "a.py" callTree = .ok (declarations, references) ∧
        references.length = 1 := by
  have done : (Extraction.ofTree .python "a.py" callTree).toOption.map (fun read => read.2.length) =
      some 1 := by decide +kernel
  rcases read : Extraction.ofTree .python "a.py" callTree with fault | ⟨declarations, references⟩
  · rw [read] at done
    cases done
  · rw [read] at done
    exact ⟨declarations, references, rfl, Option.some.inj done⟩

theorem every_reference_stored_callWorkspace :
    (∃ declarations references,
      Extraction.ofTree .python "a.py" callTree = .ok (declarations, references) ∧
      references.length = 1 ∧
      ∀ reference ∈ references, ∃ declaration ∈ declarations,
        declaration.name = reference.source ∧
          declaration.kind ∈ [NodeKind.moduleKind, .classKind, .functionKind]) ∧
    ∃ report after, callBuilder.build callWorkspace callOptions {} {} = (.ok report, after) ∧
      report.dropped = 0 ∧ (after.visible.edgesOf "a").length = 1 := by
  constructor
  · obtain ⟨declarations, references, read, one⟩ := callTree_read
    exact ⟨declarations, references, read, one, every_reference_stored.1 _ _ _ _ _ read⟩
  · obtain ⟨report, after, built⟩ := callWorkspace_build
    obtain ⟨extractions, extracted, dropped, _, count⟩ :=
      every_reference_stored.2 .standard .firstDeclared 0 callWorkspace callOptions {} {} after report built
    cases callWorkspace_extract.symm.trans extracted
    refine ⟨report, after, built, dropped, count.trans ?_⟩
    decide +kernel

end ChangeImpact.Builder
