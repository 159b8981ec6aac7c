import ChangeImpact.Proofs.DiscoveredFiles
import ChangeImpact.Proofs.EdgesKept
import ChangeImpact.Proofs.Places
import ChangeImpact.Proofs.Rebuild
import Mathlib.Data.List.Induction

/-!
From the walk to the grammars. The walk admits a file by its name, and the file is read by its path. A path has the
extension of its last name wherever that name has one, so every file that is admitted has a grammar.
-/

set_option autoImplicit false

namespace ChangeImpact

/-! ### Extensions -/

namespace Path

theorem components_slash (front back : String) :
    components (front ++ "/" ++ back) = components front ++ components back := by
  unfold components
  rw [Text.split_slash, List.filter_append]

theorem fileName_slash (front : String) {back : String} (filled : components back ≠ []) :
    fileName (front ++ "/" ++ back) = fileName back := by
  unfold fileName
  rw [components_slash, List.getLastD_eq_getLast?, List.getLastD_eq_getLast?, List.getLast?_append_of_ne_nil _ filled]

/-- A name whose parts are all empty or single dots has no extension. -/
theorem fileExtension_of_components {name : String} (empty : components (Text.exchange '\\' '/' name) = []) :
    fileExtension name = "" := by
  unfold fileExtension suffix fileName
  rw [empty]
  decide +kernel

/-- A path has the extension of its last name, if that has one. -/
theorem fileExtension_join (outer : List String) {name : String} (has : fileExtension name ≠ "") :
    fileExtension (Text.join "/" (outer ++ [name])) = fileExtension name := by
  rw [join_concat]
  by_cases top : outer = []
  · rw [if_pos top]
  have slash : Text.exchange '\\' '/' "/" = "/" := by decide
  have filled : components (Text.exchange '\\' '/' name) ≠ [] := fun empty => has (fileExtension_of_components empty)
  unfold fileExtension suffix
  rw [if_neg top, Text.exchange_append, Text.exchange_append, slash, fileName_slash _ filled]

example : fileExtension (Text.join "/" ["v1.", "\\", "..a\\b.PY"]) = ".py" := by decide +kernel

end Path

/-! ### Tables -/

namespace LanguageTable

/-- Every extension that a table knows is one of a language of it. -/
theorem exists_language {languages : List Language} {extension : String} {entry : LanguageEntry}
    (found : (ofLanguages languages).entries.lookup extension = some entry) :
    ∃ language ∈ languages, entry.name = language.name ∧ extension ∈ language.extensions.map Text.lower := by
  -- Languages are added from the left, so the last one is taken off.
  induction languages using List.reverseRecOn with
  | nil => cases found
  | append_singleton languages language ih =>
      have earlier : (ofLanguages languages).entries.lookup extension = some entry →
          ∃ other ∈ languages ++ [language],
            entry.name = other.name ∧ extension ∈ other.extensions.map Text.lower := by
        intro before
        obtain ⟨other, listed, holds⟩ := ih before
        exact ⟨other, List.mem_append_left _ listed, holds⟩
      unfold ofLanguages at found earlier
      rw [List.foldl_concat, add] at found
      split at found
      · exact earlier found
      · rw [Json.Fields.lookup_merge, Option.or_eq_some_iff] at found
        rcases found with here | ⟨_, before⟩
        · obtain ⟨claimed, listed, same⟩ := List.mem_map.mp (List.mem_reverse.mp (Json.Fields.mem_of_lookup here))
          obtain ⟨rfl, rfl⟩ := Prod.mk.inj same
          exact ⟨language, List.mem_append_right _ List.mem_cons_self, rfl, List.mem_map_of_mem listed⟩
        · exact earlier before

structure IsPlain (table : LanguageTable) : Prop where
  bare : table.entries.lookup "" = none
  known : ∀ extension entry, table.entries.lookup extension = some entry → entry.name ≠ Extraction.unknownLanguage

theorem isPlain_of_standard (installed : Language → Bool) :
    (ofLanguages (Language.standard.filter installed)).IsPlain := by
  have plain : ∀ language ∈ Language.standard,
      "" ∉ language.extensions.map Text.lower ∧ language.name ≠ Extraction.unknownLanguage := by decide +kernel
  constructor
  · rw [Option.eq_none_iff_forall_ne_some]
    intro entry found
    obtain ⟨language, listed, _, bare⟩ := exists_language found
    exact (plain language (List.mem_filter.mp listed).1).1 bare
  · intro extension entry found
    obtain ⟨language, listed, same, _⟩ := exists_language found
    rw [same]
    exact (plain language (List.mem_filter.mp listed).1).2

variable {table : LanguageTable}

theorem IsPlain.fileExtension_ne (plain : table.IsPlain) {name : String} (supported : table.supports name = true) :
    Path.fileExtension name ≠ "" := by
  intro empty
  unfold supports find? at supported
  rw [empty, plain.bare] at supported
  cases supported

end LanguageTable

/-! ### Files -/

namespace Discovery

variable {table : LanguageTable} {scope : Scope} {linkedSize : String → Option Nat} {entries : List (String × Entry)}
  {candidate : Candidate}

theorem Eligible.place_eq (eligible : Eligible table scope linkedSize [] entries candidate) :
    ∃ outer, candidate.place = outer ++ [candidate.name] := by
  obtain ⟨name, tail, _, place, _⟩ := eligible.lookup
  have filled : candidate.place ≠ [] := place ▸ List.cons_ne_nil name tail
  obtain ⟨outer, last, split⟩ := (List.eq_nil_or_concat candidate.place).resolve_left filled
  refine ⟨outer, ?_⟩
  unfold Candidate.name
  rw [split, List.concat_eq_append, List.getLastD_concat]

/-- A file that can take part has the extension of its name, wherever it lies. -/
theorem Eligible.fileExtension_path (eligible : Eligible table scope linkedSize [] entries candidate)
    (plain : table.IsPlain) : Path.fileExtension (candidate.path []) = Path.fileExtension candidate.name := by
  obtain ⟨outer, place⟩ := eligible.place_eq
  unfold Candidate.path
  rw [List.nil_append, place]
  exact Path.fileExtension_join outer (plain.fileExtension_ne eligible.supported)

/-- So its language is known by its path as it is by its name. -/
theorem Eligible.languageOf?_path (eligible : Eligible table scope linkedSize [] entries candidate)
    (plain : table.IsPlain) :
    ∃ language, table.languageOf? candidate.name = some language ∧
      table.languageOf? (candidate.path []) = some language ∧ language ≠ Extraction.unknownLanguage := by
  obtain ⟨entry, found⟩ := Option.isSome_iff_exists.mp eligible.supported
  have same : table.find? (candidate.path []) = some entry := by
    unfold LanguageTable.find? at found ⊢
    rw [eligible.fileExtension_path plain, found]
  unfold LanguageTable.languageOf?
  rw [found, same]
  exact ⟨entry.name, rfl, rfl, plain.known _ _ found⟩

end Discovery

theorem Sources.extractFile_language {table : LanguageTable} {workspace : Workspace} {project file : String}
    {extraction : Extraction} (done : extractFile (.ofTable table) workspace project file = .ok extraction) :
    extraction.language = (table.languageOf? file).getD Extraction.unknownLanguage := by
  unfold extractFile at done
  dsimp only at done
  split at done
  · cases done
    unfold Extractor.ofTable Extraction.ofFile LanguageTable.languageOf?
    dsimp only
    split
    · rename_i unknown
      rw [unknown]
      rfl
    · rename_i entry known
      rw [known]
      split <;> rfl
  · cases done
  · cases done
    rfl

namespace Builder

/-- What is read of a file that the walk admits has the language of the file. -/
theorem language_of_extract {table : LanguageTable} (plain : table.IsPlain) {workspace : Workspace}
    (proper : workspace.Proper) {builder : Builder} (reads : builder.extractor = .ofTable table)
    {options : BuildOptions} {cancel : Cancellation} {extractions : List Extraction}
    (done : builder.extract workspace options cancel (builder.discoveryOf workspace options).files = .ok extractions) :
    ∀ extraction ∈ extractions, extraction.file ∈ (builder.discoveryOf workspace options).files ∧
      table.languageOf? extraction.file = some extraction.language ∧
      extraction.language ≠ Extraction.unknownLanguage := by
  intro extraction among
  obtain ⟨file, listed, extracted⟩ := Outcome.exists_item (extract_done done) among
  rw [reads] at extracted
  have language := Sources.extractFile_language extracted
  rw [(Sources.extractFile_content extracted).1]
  have found : file ∈ (Discovery.ofProject table options.scope workspace options.project).files := by
    unfold discoveryOf at listed
    rw [reads] at listed
    exact listed
  obtain ⟨candidate, eligible, rfl⟩ := Discovery.exists_eligible proper found
  obtain ⟨own, _, known, notUnknown⟩ := eligible.languageOf?_path plain
  rw [known] at language ⊢
  exact ⟨listed, congrArg some language.symm, language ▸ notUnknown⟩

/-- A file that is admitted by its name has, by its path, the same extension and so the same language. So no file that a
build reads is of an unknown language, and a build counts as many files as it discovers. -/
theorem admitted_files_dispatched (installed : Language → Bool) (workspace : Workspace) (proper : workspace.Proper) :
    let table := LanguageTable.ofLanguages (Language.standard.filter installed)
    (∀ (scope : Scope) (project : String), ∀ file ∈ (Discovery.ofProject table scope workspace project).files,
      ∃ candidate,
        Discovery.Eligible table scope (Discovery.fileSize? workspace project) []
          (Discovery.entriesOf workspace project) candidate ∧
        candidate.path [] = file ∧ Path.fileExtension file = Path.fileExtension candidate.name ∧
        ∃ language, table.languageOf? candidate.name = some language ∧ table.languageOf? file = some language) ∧
    ∀ (policy : Policy) (workers : Int) (options : BuildOptions) (cancel : Cancellation),
      let builder : Builder := { extractor := .ofTable table, policy, workers }
      (∀ extractions,
        builder.extract workspace options cancel (builder.discoveryOf workspace options).files = .ok extractions →
        ∀ extraction ∈ extractions, extraction.file ∈ (builder.discoveryOf workspace options).files ∧
          table.languageOf? extraction.file = some extraction.language ∧ extraction.language ≠ "unknown") ∧
      ∀ (store after : Store) (report : BuildReport),
        builder.build workspace options cancel store = (.ok report, after) →
        report.filesParsed = report.discovery.files.length := by
  intro table
  have plain := LanguageTable.isPlain_of_standard installed
  constructor
  · intro scope project file listed
    obtain ⟨candidate, eligible, rfl⟩ := Discovery.exists_eligible proper listed
    obtain ⟨language, byName, byPath, _⟩ := eligible.languageOf?_path plain
    exact ⟨candidate, eligible, rfl, eligible.fileExtension_path plain, language, byName, byPath⟩
  · intro policy workers options cancel builder
    have reads : builder.extractor = .ofTable table := rfl
    refine ⟨fun extractions done => language_of_extract plain proper reads done, ?_⟩
    intro store after report done
    obtain ⟨extractions, readAll, rfl⟩ := build_reportOf reads done
    have each := language_of_extract plain proper reads readAll
    have all : (extractions.filter fun extraction => !extraction.isSkipped) = extractions := by
      rw [List.filter_eq_self]
      intro extraction among
      simp [Extraction.isSkipped, (each extraction among).2.2]
    exact (congrArg List.length all).trans (extract_done readAll).length_eq.symm

/-- A name with dots in front, a backslash and an extension in capitals. -/
def oddName : String := "..a\\b.PY"

theorem admitted_files_dispatched_oddName :
    (∃ candidate : Discovery.Candidate, candidate.path [] = oddName ∧
      ∃ language, LanguageTable.standard.languageOf? candidate.name = some language ∧
        LanguageTable.standard.languageOf? oddName = some language) ∧
    ∃ report after, callBuilder.build callWorkspace callOptions {} {} = (.ok report, after) ∧
      report.filesParsed = 1 := by
  constructor
  · have proper : (Workspace.sole oddName ByteArray.empty none).Proper :=
      Discovery.sole_proper _ _ (by decide +kernel : Path.IsName oddName)
    have alone : callBuilder.discoveryOf (.sole oddName ByteArray.empty none) callOptions = { files := [oddName] } :=
      sole_admitted callBuilder rfl ByteArray.empty none (by decide +kernel)
    have listed : oddName ∈ (callBuilder.discoveryOf (.sole oddName ByteArray.empty none) callOptions).files :=
      alone ▸ List.mem_singleton_self oddName
    obtain ⟨candidate, _, path, _, known⟩ :=
      (admitted_files_dispatched (fun _ => true) _ proper).1 callOptions.scope callOptions.project oddName listed
    exact ⟨candidate, path, known⟩
  · obtain ⟨report, after, built⟩ := callWorkspace_build
    have proper : callWorkspace.Proper :=
      Discovery.sole_proper _ _ (by decide +kernel : Path.IsName "a.py")
    have counted := ((admitted_files_dispatched (fun _ => true) callWorkspace proper).2 .firstDeclared 0 callOptions
      {}).2 {} after report built
    exact ⟨report, after, built, counted.trans (congrArg List.length (callWorkspace_files built))⟩

end Builder

end ChangeImpact
