import ChangeImpact.Project.Sources
import ChangeImpact.Proofs.References

/-!
What the files of a project give. Whether a file is read, cannot be read or has no grammar, its extraction fits
together.
-/

set_option autoImplicit false

namespace ChangeImpact

structure Extraction.IsSound (extraction : Extraction) : Prop where
  anchored : Extraction.Anchored extraction.declarations extraction.references
  plain : ∀ declaration ∈ extraction.declarations, Extraction.Plain declaration

namespace Extraction

/-- An extraction without declarations and references fits together. -/
theorem isSound_of_empty {extraction : Extraction} (declarations : extraction.declarations = [])
    (references : extraction.references = []) : extraction.IsSound := by
  refine ⟨⟨?_, ?_, ?_⟩, ?_⟩
  · rw [references]
    exact List.forall_mem_nil _
  · rw [references]
    exact List.forall_mem_nil _
  · rw [references]
    exact List.forall_mem_nil _
  · rw [declarations]
    exact List.forall_mem_nil _

theorem ofFile_isSound (table : LanguageTable) (file : String) (octets : ByteArray)
    (outline : Syntax.Outline) : (ofFile table file octets outline).IsSound := by
  unfold ofFile
  split
  · exact isSound_of_empty rfl rfl
  split
  · rename_i done
    exact ⟨ofTree_anchored done, ofTree_plain done⟩
  · exact isSound_of_empty rfl rfl

end Extraction

theorem Cancellation.checkEach_never {α : Type} (items : List α) (checks : Nat) :
    checkEach items { atCheck := none, checks } =
      some { atCheck := none, checks := checks + items.length } := by
  induction items generalizing checks with
  | nil => rfl
  | cons item rest ih =>
      have shifted : checks + 1 + rest.length = checks + (rest.length + 1) := by omega
      rw [List.length_cons, ← shifted]
      exact ih (checks + 1)

namespace Sources

theorem extractFile_isSound {table : LanguageTable} {workspace : Workspace} {project file : String}
    {extraction : Extraction}
    (done : extractFile (.ofTable table) workspace project file = .ok extraction) :
    extraction.IsSound := by
  unfold extractFile at done
  dsimp only at done
  split at done
  · cases done
    exact Extraction.ofFile_isSound _ _ _ _
  · cases done
  · cases done
    exact Extraction.isSound_of_empty rfl rfl

def tree? (table : LanguageTable) (workspace : Workspace) (project file : String) :
    Option (Grammar × Syntax.Tree) :=
  match table.find? file, workspace.readFile (Path.join project file) with
  | some entry, .ok (octets, outline) =>
      let found := outline.getD { hasError := false, rows := [] }
      some (entry.grammar, (found.tree? (parsedText octets).toUTF8).getD Syntax.emptyTree)
  | _, _ => none

/-- What a file declares and refers to: nothing, if it has no tree or its tree cannot be read. -/
def contentOf (table : LanguageTable) (workspace : Workspace) (project file : String) :
    List Declaration × List Reference :=
  match tree? table workspace project file with
  | none => ([], [])
  | some (grammar, root) => (Extraction.ofTree grammar file root).toOption.getD ([], [])

theorem tree?_of_unsupported {table : LanguageTable} {file : String} (unsupported : table.supports file = false)
    (workspace : Workspace) (project : String) : tree? table workspace project file = none := by
  have unknown : table.find? file = none := Option.isSome_eq_false_iff.mp unsupported |> Option.isNone_iff_eq_none.mp
  unfold tree?
  rw [unknown]

section

variable {table : LanguageTable} {workspace : Workspace} {project file : String} {extraction : Extraction}
  (done : extractFile (.ofTable table) workspace project file = .ok extraction)

include done

theorem extractFile_content :
    extraction.file = file ∧
      (extraction.declarations, extraction.references) = contentOf table workspace project file := by
  unfold extractFile at done
  unfold contentOf tree?
  dsimp only at done
  split at done
  · rename_i octets outline read
    cases done
    rw [read]
    unfold Extractor.ofTable Extraction.ofFile
    dsimp only
    cases table.find? file with
    | none => exact ⟨rfl, rfl⟩
    | some entry =>
        dsimp only
        rcases Extraction.ofTree entry.grammar file _ with fault | ⟨declarations, references⟩
        · exact ⟨rfl, rfl⟩
        · exact ⟨rfl, rfl⟩
  · cases done
  · rename_i unread
    cases done
    rw [unread]
    cases table.find? file <;> exact ⟨rfl, rfl⟩

/-- A tree that can be read gives all that its file declares and refers to. -/
theorem extractFile_of_tree {grammar : Grammar} {root : Syntax.Tree}
    (grown : tree? table workspace project file = some (grammar, root))
    (readable : (Extraction.ofTree grammar file root).isOk = true) :
    Extraction.ofTree grammar file root = .ok (extraction.declarations, extraction.references) := by
  have content := (extractFile_content done).2
  unfold contentOf at content
  rw [grown] at content
  dsimp only at content
  rcases read : Extraction.ofTree grammar file root with fault | both
  · rw [read] at readable
    cases readable
  · rw [read] at content
    exact congrArg Except.ok content.symm

theorem extractFile_cases :
    extraction.declarations = [] ∧ extraction.references = [] ∨
      ∃ grammar root, tree? table workspace project file = some (grammar, root) ∧
        Extraction.ofTree grammar file root = .ok (extraction.declarations, extraction.references) := by
  have content := (extractFile_content done).2
  unfold contentOf at content
  rcases grown : tree? table workspace project file with _ | ⟨grammar, root⟩
  · rw [grown] at content
    exact Or.inl (Prod.mk.inj content)
  · by_cases readable : (Extraction.ofTree grammar file root).isOk = true
    · exact Or.inr ⟨grammar, root, rfl, extractFile_of_tree done grown readable⟩
    · rw [grown] at content
      dsimp only at content
      rcases read : Extraction.ofTree grammar file root with fault | both
      · rw [read] at content
        exact Or.inl (Prod.mk.inj content)
      · rw [read] at readable
        exact absurd rfl readable

end

/-- Each file that was handed out has its extraction collected, in order. -/
theorem collect_done {cancel : Cancellation} {extract : String → Except Interruption Extraction}
    {files : List String} {extractions : List Extraction}
    (done : collect cancel extract files = .ok extractions) :
    List.Forall₂ (fun file extraction => extract file = .ok extraction) files extractions := by
  induction files generalizing cancel extractions with
  | nil =>
      cases done
      exact List.Forall₂.nil
  | cons file rest ih =>
      unfold collect at done
      obtain ⟨next, _, afterCheck⟩ := Outcome.bind_ok done
      obtain ⟨extraction, extracted, afterFile⟩ := Outcome.bind_ok afterCheck
      obtain ⟨others, collected, same⟩ := Outcome.bind_ok afterFile
      cases same
      exact List.Forall₂.cons extracted (ih collected)

theorem collect_cons {extract : String → Except Interruption Extraction} {files : List String}
    {cancel next : Cancellation} {file : String} (free : cancel.check = some next) :
    collect cancel extract (file :: files) = (do
      let extraction ← extract file
      let others ← collect next extract files
      .ok (extraction :: others)) := by
  rw [collect, free]
  rfl

/-- Where nobody asks to stop, everything that files give is collected. -/
theorem extractAll_never {extractor : Extractor} {workspace : Workspace} {project : String} {files : List String}
    {extractions : List Extraction}
    (each : List.Forall₂ (fun file extraction => extractFile extractor workspace project file = .ok extraction)
      files extractions) : extractAll extractor workspace project {} files = .ok extractions := by
  have collected : ∀ checks, collect { atCheck := none, checks } (extractFile extractor workspace project) files =
      .ok extractions := by
    induction each with
    | nil => exact fun _ => rfl
    | cons extracted _ ih =>
        intro checks
        have free : ({ atCheck := none, checks } : Cancellation).check =
            some { atCheck := none, checks := checks + 1 } := rfl
        rw [collect_cons free, extracted, ih (checks + 1)]
        rfl
  unfold extractAll
  rw [Cancellation.checkEach_never]
  exact collected _

end Sources

end ChangeImpact
