import ChangeImpact.Proofs.EdgesKept

/-!
The modules of a graph. A file that declares anything declares one module, by its own path. So the modules that are
declared in a project are its files, as often as they are read, without those that gave nothing.
-/

set_option autoImplicit false

namespace ChangeImpact

/-! ### Declarations -/

namespace Declaration

def modules (declarations : List Declaration) : List String :=
  (declarations.filter fun declaration => declaration.kind == .moduleKind).map name

theorem modules_append (one two : List Declaration) : modules (one ++ two) = modules one ++ modules two := by
  simp [modules]

theorem modules_eq_nil {declarations : List Declaration}
    (others : ∀ declaration ∈ declarations, declaration.kind ≠ .moduleKind) : modules declarations = [] := by
  simp only [modules, List.map_eq_nil_iff, List.filter_eq_nil_iff, beq_iff_eq]
  exact others

theorem modules_record {proposal : Declaration} (other : proposal.kind ≠ .moduleKind) (known : List Declaration) :
    modules (record known proposal) = modules known := by
  unfold record
  split
  · rfl
  · rw [modules_append, modules_eq_nil (List.forall_mem_singleton.mpr other), List.append_nil]

/-- Of proposals that follow the file's own, none of which is a module, only the first one is. -/
theorem modules_firsts {own : Declaration} (kind : own.kind = .moduleKind) {proposals : List Declaration}
    (others : ∀ proposal ∈ proposals, proposal.kind ≠ .moduleKind) :
    modules (firsts (own :: proposals)) = [own.name] := by
  have start : record [] own = [own] := rfl
  have later : ∀ known, modules (proposals.foldl record known) = modules known := by
    induction proposals with
    | nil => exact fun _ => rfl
    | cons proposal rest ih =>
        obtain ⟨here, remaining⟩ := List.forall_mem_cons.mp others
        intro known
        rw [List.foldl_cons, ih remaining, modules_record here]
  rw [firsts, List.foldl_cons, start, later]
  simp [modules, kind]

end Declaration

namespace Extraction

open Declaration (modules)
open ChangeImpact.Syntax (Tree Visit preorder)

/-- What nodes propose is no module. -/
theorem proposed_others {root : Tree} {proposals : Visit → Except Fault (List Declaration)}
    (proposedAt : ∀ visit proposal, proposals visit = .ok proposal →
      ∀ declaration ∈ proposal, ProposedAt visit.tree declaration)
    {proposed : List (List Declaration)} (done : (preorder root).mapM proposals = .ok proposed) :
    ∀ declaration ∈ proposed.flatten, declaration.kind ≠ .moduleKind := by
  intro declaration member
  obtain ⟨proposal, listed, inProposal⟩ := List.mem_flatten.mp member
  obtain ⟨visit, _, made⟩ := Outcome.exists_item (Outcome.mapM_ok done) listed
  exact (proposedAt visit proposal made declaration inProposal).kind

theorem Python.declarations_modules {file : String} {root : Tree} {found : List Declaration}
    (done : Python.declarations file root = .ok found) : modules found = [file] := by
  obtain ⟨proposed, made, rfl⟩ := Python.declarations_done done
  exact Declaration.modules_firsts rfl (proposed_others (Python.proposals_proposedAt _) made)

theorem Script.modules_markExported (names : List String) (declarations : List Declaration) :
    modules (declarations.map (Script.markExported names)) = modules declarations := by
  unfold modules
  rw [List.filter_map, List.map_map]
  have kinds : (fun declaration => declaration.kind == .moduleKind) ∘ Script.markExported names =
      fun declaration => declaration.kind == .moduleKind := by
    funext declaration
    exact congrArg (· == NodeKind.moduleKind) (Script.markExported_resembles names declaration).kind
  rw [kinds]
  apply List.map_congr_left
  intro declaration _
  exact (Script.markExported_resembles names declaration).name

theorem Script.declarations_modules {file : String} {root : Tree} {found : List Declaration}
    (done : Script.declarations file root = .ok found) : modules found = [file] := by
  obtain ⟨proposed, made, rfl⟩ := Script.declarations_done done
  rw [Script.modules_markExported]
  exact Declaration.modules_firsts rfl (proposed_others Script.proposals_proposedAt made)

theorem ofTree_modules {grammar : Grammar} {file : String} {root : Tree} {declarations : List Declaration}
    {references : List Reference} (done : ofTree grammar file root = .ok (declarations, references)) :
    modules declarations = [file] := by
  have declares := (ofTree_done done).1
  cases grammar with
  | python => exact Python.declarations_modules declares
  | javascript | typescript | typescriptMarkup => exact Script.declarations_modules declares

def isFilled (extraction : Extraction) : Bool := !extraction.declarations.isEmpty

end Extraction

namespace Sources

variable {table : LanguageTable} {workspace : Workspace} {project : String}

theorem extractFile_modules {file : String} {extraction : Extraction}
    (done : extractFile (.ofTable table) workspace project file = .ok extraction) :
    Declaration.modules extraction.declarations = if extraction.isFilled then [extraction.file] else [] := by
  rcases extractFile_cases done with ⟨nothing, _⟩ | ⟨grammar, root, _, read⟩
  · simp [Extraction.isFilled, nothing, Declaration.modules]
  · have modules := Extraction.ofTree_modules read
    have filled : extraction.isFilled = true := by
      by_contra empty
      have nothing : extraction.declarations = [] := by simpa [Extraction.isFilled] using empty
      rw [nothing] at modules
      cases modules
    rw [filled, modules, (extractFile_content done).1]
    rfl

/-- A file gives something each time it is read or never, so of a file that does every reading counts. -/
theorem count_filled {sample : Extraction}
    (sampled : extractFile (.ofTable table) workspace project sample.file = .ok sample)
    (filled : sample.isFilled = true) {files : List String} {extractions : List Extraction}
    (read : List.Forall₂ (fun file extraction =>
      extractFile (.ofTable table) workspace project file = .ok extraction) files extractions) :
    ((extractions.filter Extraction.isFilled).map Extraction.file).count sample.file = files.count sample.file := by
  induction read with
  | nil => rfl
  | @cons file extraction files extractions extracted _ ih =>
      by_cases same : file = sample.file
      · rw [same, sampled] at extracted
        cases extracted
        rw [List.filter_cons_of_pos filled, List.map_cons, same, List.count_cons_self, List.count_cons_self, ih]
      · have place := (extractFile_content extracted).1
        rw [List.count_cons_of_ne same, ← ih, List.filter_cons]
        split
        · rw [List.map_cons, place, List.count_cons_of_ne same]
        · rfl

end Sources

/-! ### Nodes -/

namespace Builder

theorem filter_identifiedFrom {α β : Type} {give : String → α → α} {view : α → β} {test : α → Bool}
    (blind : ∀ id item, view (give id item) = view item) (untouched : ∀ id item, test (give id item) = test item)
    (first : Nat) (items : List α) :
    ((Store.identifiedFrom give first items).filter test).map view = (items.filter test).map view := by
  induction items generalizing first with
  | nil => rfl
  | cons item rest ih =>
      rw [Store.identifiedFrom_cons, List.filter_cons, List.filter_cons, untouched]
      split
      · rw [List.map_cons, List.map_cons, blind, ih]
      · exact ih _

theorem modules_nodesOf (analysis : String) (extraction : Extraction) :
    ((nodesOf analysis extraction).filter fun node => node.kind == .moduleKind).map Node.name =
      Declaration.modules extraction.declarations := by
  unfold nodesOf Declaration.modules
  rw [List.filter_map, List.map_map]
  rfl

namespace Assembly

variable {policy : Policy} {analysis : String} {first : Nat} {extractions : List Extraction}
  {assembly : Assembly} (made : assembly = assemble policy analysis first extractions)
  {table : LanguageTable} {workspace : Workspace} {project : String} {files : List String}
  (read : List.Forall₂ (fun file extraction =>
    Sources.extractFile (.ofTable table) workspace project file = .ok extraction) files extractions)

include made read

theorem declared_modules :
    (assembly.declared.filter fun node => node.kind == .moduleKind).map Node.name =
      (extractions.filter Extraction.isFilled).map Extraction.file := by
  have names : ∀ id (node : Node), (node.withId id).name = node.name := fun _ _ => rfl
  have kinds : ∀ id (node : Node), ((node.withId id).kind == .moduleKind) = (node.kind == .moduleKind) :=
    fun _ _ => rfl
  rw [declared_eq made, filter_identifiedFrom names kinds]
  clear made
  induction read with
  | nil => rfl
  | @cons file extraction files extractions extracted _ ih =>
      rw [List.flatMap_cons, List.filter_append, List.map_append, ih, modules_nodesOf,
        Sources.extractFile_modules extracted, List.filter_cons]
      split <;> rfl

/-- The name of a declared module is the path of its file. -/
theorem file_of_module {node : Node} (member : node ∈ assembly.declared) (isModule : node.kind = .moduleKind) :
    node.file = some node.name := by
  subst made
  obtain ⟨id, original, among, rfl⟩ := Store.exists_of_mem_identifiedFrom member
  obtain ⟨extraction, listed, inFile⟩ := List.mem_flatMap.mp among
  obtain ⟨_, _, extracted⟩ := Outcome.exists_item read listed
  have own : original.name ∈ Declaration.modules extraction.declarations := by
    rw [← modules_nodesOf analysis]
    exact List.mem_map_of_mem (List.mem_filter.mpr ⟨inFile, beq_iff_eq.mpr isModule⟩)
  rw [Sources.extractFile_modules extracted] at own
  obtain ⟨declaration, _, rfl⟩ := List.mem_map.mp inFile
  split at own
  · exact congrArg some (List.mem_singleton.mp own).symm
  · cases own

/-- There are as many modules of a file as it is read, if it gives something. -/
theorem count_modules {path : String}
    (given : ∃ extraction ∈ extractions, extraction.file = path ∧ extraction.isFilled = true) :
    (assembly.nodes.filter fun node => node.kind == .moduleKind && node.file == some path).length =
      files.count path := by
  have outside : assembly.placeholders.filter (fun node => node.kind == .moduleKind && node.file == some path) = [] := by
    rw [List.filter_eq_nil_iff]
    intro node member
    obtain ⟨id, name, rfl⟩ := exists_placeholder made member
    exact Bool.false_ne_true
  have named : assembly.declared.filter (fun node => node.kind == .moduleKind && node.file == some path) =
      (assembly.declared.filter fun node => node.kind == .moduleKind).filter fun node => node.name == path := by
    rw [List.filter_filter]
    apply List.filter_congr
    intro node member
    by_cases isModule : node.kind = .moduleKind
    · simp [isModule, file_of_module made read member isModule]
    · simp [beq_false_of_ne isModule]
  obtain ⟨sample, among, rfl, filled⟩ := given
  obtain ⟨file, _, sampled⟩ := Outcome.exists_item read among
  rw [← (Sources.extractFile_content sampled).1] at sampled
  have counted := Sources.count_filled sampled filled read
  rw [← declared_modules made read, List.count_eq_countP, List.countP_map, List.countP_eq_length_filter] at counted
  rw [nodes, List.filter_append, outside, List.append_nil, named]
  exact counted

end Assembly

end Builder

end ChangeImpact
