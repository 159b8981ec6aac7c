import ChangeImpact.Proofs.InsidePaths
import ChangeImpact.Proofs.NameLookup

/-!
Imports that lead out of the project. A path specifier that leads above the top has no candidates, unless it leads to
the directory directly above and no further: then it has candidates that lie outside. A dotted name with more dots than
there are levels stays at the top, and means what lies there.
-/

set_option autoImplicit false

namespace ChangeImpact

/-! ### Candidates of climbing imports -/

namespace ModulePath

/-- Places above the top mean no files, except for the one directly above. -/
theorem filesOf_above {place : Place} (above : 0 < place.above) :
    (place = .overTop → filesOf place = scriptTrials "..") ∧ (place ≠ .overTop → filesOf place = []) := by
  constructor
  · rintro rfl
    rfl
  · intro other
    exact if_pos (Or.inr ⟨above, mt Place.parts_eq_up_iff.mp other⟩)

/-- An import that leads above the top of the project: the parts of its path do, or it has more dots in front than the
directory of the file has levels. -/
def Climbs (directory : List String) (file specifier : String) : Prop :=
  if usesDottedNames file = true then directory.length + 1 < leadingDots specifier
  else ∃ parts, partsOf? directory specifier = some parts ∧ Place.LeadsAbove parts

section

variable {directory : List String} {name file specifier : String}

theorem climbs_script (script : usesDottedNames file = false) :
    Climbs directory file specifier ↔ ∃ parts, partsOf? directory specifier = some parts ∧ Place.LeadsAbove parts := by
  unfold Climbs
  rw [if_neg (by simp [script])]

theorem climbs_dotted (dotted : usesDottedNames file = true) :
    Climbs directory file specifier ↔ directory.length + 1 < leadingDots specifier := by
  unfold Climbs
  rw [if_pos dotted]

variable (inside : ∀ part ∈ directory, Path.IsOrdinary part) (plain : '/' ∉ name.toList)

include inside plain

theorem candidates_climbing_script (script : usesDottedNames (Text.join "/" (directory ++ [name])) = false)
    (climbs : Climbs directory (Text.join "/" (directory ++ [name])) specifier) :
    (placeOf? directory specifier = some .overTop →
        candidates specifier (Text.join "/" (directory ++ [name])) = scriptTrials "..") ∧
      (placeOf? directory specifier ≠ some .overTop →
        candidates specifier (Text.join "/" (directory ++ [name])) = []) := by
  obtain ⟨parts, taken, leads⟩ := (climbs_script script).mp climbs
  have place : placeOf? directory specifier = some (.ofParts parts) := by
    unfold placeOf?
    rw [taken, Option.map_some]
  obtain ⟨direct, other⟩ := filesOf_above (Place.leadsAbove_iff.mp leads)
  rw [candidates_script (Path.isPart_of_ordinary inside) plain script, place, Option.map_some, Option.getD_some]
  exact ⟨fun same => direct (Option.some.inj same), fun different => other fun same => different (same ▸ rfl)⟩

theorem candidates_climbing_dotted (dotted : usesDottedNames (Text.join "/" (directory ++ [name])) = true)
    (climbs : Climbs directory (Text.join "/" (directory ++ [name])) specifier) :
    candidates specifier (Text.join "/" (directory ++ [name])) = moduleFiles (behindDots specifier) := by
  have isPart := Path.isPart_of_ordinary inside
  have more := (climbs_dotted dotted).mp climbs
  obtain ⟨levels, counted⟩ : ∃ levels, leadingDots specifier = levels + 1 :=
    Nat.exists_eq_add_one.mpr (by omega)
  -- All levels are used up, so the names start from the top.
  have none : directory.length - levels = 0 := by omega
  have joined : Path.join "" (behindDots specifier) = behindDots specifier := by
    unfold Path.join
    split
    · rfl
    · rw [if_pos (by rfl), String.empty_append]
  have top : Text.join "/" (directory.take 0) = "" := rfl
  rw [candidates_dotted isPart plain dotted, counted]
  unfold startingPoints
  dsimp only
  rw [ancestor_join isPart, none, top, List.flatMap_singleton, joined]
  split
  · rename_i empty
    rw [empty]
  · rfl

end

end ModulePath

/-! ### What climbing imports point to -/

/-- The module of a file of the project: it is called by the path of its file, which consists of ordinary names and has
no colon. -/
structure Node.IsProjectModule (node : Node) : Prop where
  file : node.file = some node.name
  path : ∃ parts, (∀ part ∈ parts, Path.IsOrdinary part) ∧ node.name = Text.join "/" parts
  free : ':' ∉ node.name.toList

namespace Node.IsProjectModule

variable {node : Node} (isModule : node.IsProjectModule)

include isModule

theorem staysInside : Path.StaysInside node.name := by
  obtain ⟨parts, ordinary, named⟩ := isModule.path
  rw [named]
  exact Path.staysInside_join ordinary

theorem mem_keysOf {key : String} (listed : key ∈ NameIndex.keysOf node) :
    key = node.name ∨ node.name ≠ "" ∧ key = NameIndex.qualified node.name node.name := by
  unfold NameIndex.keysOf at listed
  cases lies : node.file? with
  | none =>
      rw [lies] at listed
      exact Or.inl (List.mem_singleton.mp listed)
  | some own =>
      rw [lies] at listed
      obtain ⟨given, filled⟩ := Option.filter_eq_some_iff.mp lies
      obtain rfl : node.name = own := Option.some.inj (isModule.file.symm.trans given)
      rcases List.mem_cons.mp listed with bare | rest
      · exact Or.inl bare
      · exact Or.inr ⟨of_decide_eq_true filled, List.mem_singleton.mp rest⟩

theorem staysInside_key {key : String} (listed : key ∈ NameIndex.keysOf node) : Path.StaysInside key := by
  have stays := isModule.staysInside
  rcases isModule.mem_keysOf listed with rfl | ⟨filled, rfl⟩
  · exact stays
  · have colon : ":".toList = [':'] := rfl
    unfold NameIndex.qualified
    constructor
    · rw [String.append_assoc]
      exact (Path.isRooted_append filled _).trans stays.1
    · intro up
      -- The part with the colon is not two dots, and the others are parts of the path itself.
      have outside := mt Text.mem_split_iff.mpr stays.2
      rw [Text.mem_split_iff, String.append_assoc, String.toList_append, String.toList_append, colon,
        List.singleton_append] at up
      rcases Text.mem_cut_mark (by decide) up with early | marked | late
      · exact outside early
      · exact absurd marked (by decide)
      · exact outside late

theorem name_of_qualified {file specifier : String}
    (listed : NameIndex.qualified file specifier ∈ NameIndex.keysOf node) : node.name = specifier := by
  have colon : ":".toList = [':'] := rfl
  rcases isModule.mem_keysOf listed with bare | ⟨_, both⟩
  · refine absurd ?_ isModule.free
    rw [← bare]
    simp [NameIndex.qualified, String.toList_append]
  · -- The key of the module has one colon, so the file has none.
    have plain : ':' ∉ file.toList := by
      have counts := congrArg (fun key : String => key.toList.count ':') both
      simp only [NameIndex.qualified, String.toList_append, List.count_append, colon,
        List.count_eq_zero.mpr isModule.free, List.count_singleton_self] at counts
      exact List.count_eq_zero.mp (by omega)
    exact (NameIndex.qualified_inj plain isModule.free both).2.symm

end Node.IsProjectModule

namespace NameIndex

variable {policy : Policy} {nodes : List Node}

theorem lookup_isSome_iff {key : String} {allowed : Option (List NodeKind)} :
    ((ofNodes policy nodes).lookup key allowed).isSome = true ↔
      ∃ node ∈ nodes, key ∈ keysOf node ∧ permits allowed node.kind = true := by
  rw [← Option.ne_none_iff_isSome, Ne, (lookup_iff policy fun _ _ => Iff.rfl).2, not_not]

/-- An import is resolved if a module has one of the keys that are tried: the candidates, the specifier in its file, and
the specifier. -/
theorem target?_isSome_iff {file : String} {reference : Reference} (isImport : reference.kind = .imports) :
    (Resolution.target? (ofNodes policy nodes) file reference).isSome = true ↔
      ∃ node ∈ nodes, node.kind = .moduleKind ∧
        ∃ key ∈ keysOf node,
          key ∈ ModulePath.candidates reference.target file ++ [qualified file reference.target, reference.target] := by
  have allowed : Resolution.targetKinds reference.kind = some [.moduleKind] := by
    rw [isImport]
    rfl
  have only : ∀ kind, permits (some [.moduleKind]) kind = true ↔ kind = .moduleKind := by
    intro kind
    simp [permits]
  unfold Resolution.target?
  dsimp only
  rw [if_pos isImport, allowed, Option.isSome_or, Bool.or_eq_true, List.isSome_findSome?]
  unfold resolve
  rw [Option.isSome_or, Bool.or_eq_true, List.any_eq_true]
  simp only [lookup_isSome_iff, only, List.mem_append, List.mem_cons, List.not_mem_nil, or_false]
  constructor
  · rintro (⟨path, tried, node, member, listed, isModule⟩ | ⟨node, member, listed, isModule⟩ |
      ⟨node, member, listed, isModule⟩)
    · exact ⟨node, member, isModule, path, listed, Or.inl tried⟩
    · exact ⟨node, member, isModule, _, listed, Or.inr (Or.inl rfl)⟩
    · exact ⟨node, member, isModule, _, listed, Or.inr (Or.inr rfl)⟩
  · rintro ⟨node, member, isModule, key, listed, tried | rfl | rfl⟩
    · exact Or.inl ⟨key, tried, node, member, listed, isModule⟩
    · exact Or.inr (Or.inl ⟨node, member, listed, isModule⟩)
    · exact Or.inr (Or.inr ⟨node, member, listed, isModule⟩)

end NameIndex

namespace ModulePath

section

variable {directory : List String} {name specifier : String} (inside : ∀ part ∈ directory, Path.IsOrdinary part)
  (plain : '/' ∉ name.toList)

include inside

theorem not_staysInside_of_climbs {file : String} (script : usesDottedNames file = false)
    (climbs : Climbs directory file specifier) : ¬ Path.StaysInside specifier := by
  rintro ⟨relative, level⟩
  obtain ⟨parts, taken, leads⟩ := (climbs_script script).mp climbs
  unfold partsOf? at taken
  rw [if_neg (by simp [relative])] at taken
  split at taken
  · cases taken
    have stays : ".." ∉ directory ++ Text.split '/' specifier := by
      rw [List.mem_append]
      exact not_or.mpr ⟨fun up => (inside _ up).notUp rfl, level⟩
    have above := Place.leadsAbove_iff.mp leads
    unfold Place.ofParts at above
    rw [Place.above_foldl_of_not_up stays] at above
    exact absurd above (by decide)
  · cases taken

include plain

/-- In a script, an import that climbs is resolved only from directly above, and only to a file whose name is two dots
and an ending. -/
theorem target?_climbing_script (script : usesDottedNames (Text.join "/" (directory ++ [name])) = false)
    (climbs : Climbs directory (Text.join "/" (directory ++ [name])) specifier) {node : Node}
    (isModule : node.IsProjectModule) :
    (∃ key ∈ NameIndex.keysOf node, key ∈ candidates specifier (Text.join "/" (directory ++ [name])) ++
        [NameIndex.qualified (Text.join "/" (directory ++ [name])) specifier, specifier]) ↔
      placeOf? directory specifier = some .overTop ∧ ∃ ending ∈ scriptEndings, node.name = ".." ++ ending := by
  have outside := not_staysInside_of_climbs inside script climbs
  have staying : ∀ path ∈ scriptTrials "..", Path.StaysInside path →
      ∃ ending ∈ scriptEndings, path = ".." ++ ending := by
    decide
  have colonFree : ∀ path ∈ scriptTrials "..", ':' ∉ path.toList := by decide
  obtain ⟨direct, other⟩ := candidates_climbing_script inside plain script climbs
  constructor
  · rintro ⟨key, listed, tried⟩
    have stays := isModule.staysInside_key listed
    rcases List.mem_append.mp tried with candidate | byName
    · by_cases reaches : placeOf? directory specifier = some .overTop
      · rw [direct reaches] at candidate
        refine ⟨reaches, ?_⟩
        rcases isModule.mem_keysOf listed with rfl | ⟨_, both⟩
        · exact staying _ candidate stays
        · refine absurd ?_ (colonFree key candidate)
          rw [both]
          simp [NameIndex.qualified, String.toList_append]
      · rw [other reaches] at candidate
        cases candidate
    · -- The specifier itself goes up and is no path of a file of the project.
      rcases List.mem_cons.mp byName with rfl | bare
      · have named := isModule.name_of_qualified listed
        exact absurd (named ▸ isModule.staysInside) outside
      · rw [List.mem_singleton.mp bare] at stays
        exact absurd stays outside
  · rintro ⟨reaches, ending, ended, named⟩
    refine ⟨node.name, NameIndex.name_mem_keysOf node, List.mem_append_left _ ?_⟩
    rw [direct reaches, named]
    exact List.mem_append_left _ (List.mem_append_right _ (List.mem_map.mpr ⟨ending, ended, rfl⟩))

end

/-- An import that climbs has candidates exactly where dotted names are used, and then those at the top of the project,
or where it leads to the directory directly above. Candidates lie inside of the project, whatever the import is, except
for those of that directory and for dotted names that go on with a slash. So in a script an import that climbs is
resolved exactly if it leads directly above and there is a file whose name is two dots and an ending; by a dotted name
it is resolved to what lies at the top. The modules are those of files whose paths consist of ordinary names and have no
colon; one with a colon could be taken for a file and a name in it. -/
theorem climbing_imports_iff (directory : List String) (name specifier : String)
    (inside : ∀ part ∈ directory, Path.IsOrdinary part) (plain : '/' ∉ name.toList) :
    let file := Text.join "/" (directory ++ [name])
    (Climbs directory file specifier →
      (candidates specifier file = [] ↔
        usesDottedNames file = false ∧ placeOf? directory specifier ≠ some .overTop) ∧
      (usesDottedNames file = true → candidates specifier file = moduleFiles (behindDots specifier))) ∧
    ((∀ path ∈ candidates specifier file, Path.StaysInside path) ↔
      if usesDottedNames file = true then Path.isRooted (behindDots specifier) = false
      else placeOf? directory specifier ≠ some .overTop) ∧
    ∀ (policy : Policy) (nodes : List Node) (reference : Reference),
      (∀ node ∈ nodes, node.kind = .moduleKind → node.IsProjectModule) →
      reference.kind = .imports → reference.target = specifier → Climbs directory file specifier →
      ((Resolution.target? (.ofNodes policy nodes) file reference).isSome = true ↔
        ∃ node ∈ nodes, node.kind = .moduleKind ∧
          if usesDottedNames file = true then
            ∃ key ∈ NameIndex.keysOf node,
              key ∈ moduleFiles (behindDots specifier) ++ [NameIndex.qualified file specifier, specifier]
          else
            placeOf? directory specifier = some .overTop ∧ ∃ ending ∈ scriptEndings, node.name = ".." ++ ending) := by
  intro file
  refine ⟨?_, ?_, ?_⟩
  · intro climbs
    by_cases dotted : usesDottedNames file = true
    · have found := candidates_climbing_dotted inside plain dotted climbs
      refine ⟨iff_of_false (found ▸ moduleFiles_ne_nil _) ?_, fun _ => found⟩
      rw [dotted]
      exact fun both => Bool.noConfusion both.1
    · have script := Bool.eq_false_iff.mpr dotted
      obtain ⟨direct, other⟩ := candidates_climbing_script inside plain script climbs
      refine ⟨?_, fun uses => absurd uses dotted⟩
      constructor
      · intro none
        refine ⟨script, fun reaches => ?_⟩
        exact absurd ((direct reaches).symm.trans none) (by decide)
      · exact fun both => other both.2
  · by_cases dotted : usesDottedNames file = true
    · rw [if_pos dotted, dotted_staysInside_iff inside plain dotted]
    · have script := Bool.eq_false_iff.mpr dotted
      rw [if_neg dotted, candidates_script (Path.isPart_of_ordinary inside) plain script]
      cases placed : placeOf? directory specifier with
      | none => exact iff_of_true (List.forall_mem_nil _) (Option.some_ne_none _).symm
      | some place =>
          rw [Option.map_some, Option.getD_some, filesOf_staysInside_iff, Ne, Ne, Option.some_inj]
  · rintro policy nodes reference modules isImport rfl climbs
    rw [NameIndex.target?_isSome_iff isImport]
    refine exists_congr fun node => and_congr_right fun member => and_congr_right fun isModule => ?_
    by_cases dotted : usesDottedNames file = true
    · rw [if_pos dotted, candidates_climbing_dotted inside plain dotted climbs]
    · rw [if_neg dotted]
      exact target?_climbing_script inside plain (Bool.eq_false_iff.mpr dotted) climbs (modules node member isModule)

/-- From the top of the project, two dots lead to files outside of it in a script, and in front of a name to what lies
at the top. -/
theorem climbing_imports_found :
    Climbs [] "a.js" ".." ∧ "../index.js" ∈ candidates ".." "a.js" ∧
      Climbs [] "a.py" "..x" ∧ candidates "..x" "a.py" = ["x.py", "x/__init__.py"] := by
  refine ⟨?_, by decide, ?_, by decide⟩
  · exact (climbs_script (by decide)).mpr ⟨[".."], by decide, Place.leadsAbove_iff.mpr (by decide)⟩
  · exact (climbs_dotted (by decide)).mpr (by decide)

def topModule : Node := { id := "1", analysis := "x", kind := .moduleKind, name := "x.py", file := some "x.py" }

theorem climbing_imports_iff_topModule :
    (Climbs ["src"] "src/a.ts" "../../x" ∧ candidates "../../x" "src/a.ts" = []) ∧
      Climbs ["src"] "src/a.py" "...x" ∧
      (Resolution.target? (.ofNodes .firstDeclared [topModule]) "src/a.py"
        { source := "src/a.py", target := "...x", kind := .imports, metadata := [] }).isSome = true := by
  have outside : Climbs ["src"] "src/a.ts" "../../x" :=
    (climbs_script (by decide)).mpr ⟨["src", "..", "..", "x"], by decide, Place.leadsAbove_iff.mpr (by decide)⟩
  have beyond : Climbs ["src"] "src/a.py" "...x" := (climbs_dotted (by decide)).mpr (by decide)
  obtain ⟨empty, _⟩ := climbing_imports_iff ["src"] "a.ts" "../../x" (by decide) (by decide)
  obtain ⟨_, _, resolved⟩ := climbing_imports_iff ["src"] "a.py" "...x" (by decide) (by decide)
  have further : placeOf? ["src"] "../../x" ≠ some .overTop := fun reaches =>
    absurd (congrArg (Option.map Place.below) reaches) (by decide)
  have modules : ∀ node ∈ [topModule], node.kind = .moduleKind → node.IsProjectModule := by
    intro node member _
    rw [List.mem_singleton.mp member]
    exact ⟨rfl, ⟨["x.py"], by decide, rfl⟩, by decide⟩
  refine ⟨⟨outside, (empty outside).1.mpr ⟨by decide, further⟩⟩, beyond, ?_⟩
  refine (resolved .firstDeclared [topModule] _ modules rfl rfl beyond).mpr
    ⟨topModule, List.mem_singleton_self _, rfl, ?_⟩
  rw [if_pos (by decide)]
  exact ⟨"x.py", by decide, by decide⟩

end ModulePath

end ChangeImpact
