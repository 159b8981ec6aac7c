import ChangeImpact.Proofs.Places

/-!
What dotted names mean. Dots in front of a name count levels up from the directory of the file, and the names behind
them lead down; without dots in front the names lead down from the top of the project and from the directory of the
file. So a module and a package are found by their absolute names from everywhere, and by their relative names from
every file below the package that these start from.
-/

set_option autoImplicit false

namespace ChangeImpact

/-! ### Rows of names -/

namespace Text

theorem exchange_of_not_mem {old : Char} (new : Char) {text : String} (absent : old ∉ text.toList) :
    exchange old new text = text := by
  have same : ∀ c ∈ text.toList, (if c = old then new else c) = c := by
    intro c member
    apply if_neg
    rintro rfl
    exact absent member
  unfold exchange
  rw [List.map_congr_left same, List.map_id', String.ofList_toList]

theorem exchange_join {names : List String} (plain : ∀ name ∈ names, '.' ∉ name.toList) :
    exchange '.' '/' (join "." names) = join "/" names := by
  have dot : exchange '.' '/' "." = "/" := by decide
  induction names using List.reverseRecOn with
  | nil => decide
  | append_singleton outer name ih =>
      obtain ⟨outerPlain, namePlain⟩ := List.forall_mem_append.mp plain
      have last := exchange_of_not_mem '/' (namePlain name (List.mem_singleton_self name))
      rw [Path.join_concat, Path.join_concat]
      by_cases empty : outer = []
      · rw [if_pos empty, if_pos empty, last]
      · rw [if_neg empty, if_neg empty, exchange_append, exchange_append, ih outerPlain, dot, last]

end Text

namespace Path

variable {directory names : List String}

theorem exists_tail (between first : String) (rest : List String) :
    ∃ tail, Text.join between (first :: rest) = first ++ tail := by
  induction rest using List.reverseRecOn with
  | nil => exact ⟨"", String.append_empty.symm⟩
  | append_singleton inner name ih =>
      obtain ⟨tail, joined⟩ := ih
      refine ⟨tail ++ between ++ name, ?_⟩
      rw [← List.cons_append, join_concat, if_neg (List.cons_ne_nil _ _), joined]
      simp only [String.append_assoc]

theorem join_append (outer : List String) (filled : names ≠ []) :
    Text.join "/" (outer ++ names) =
      if outer = [] then Text.join "/" names else Text.join "/" outer ++ "/" ++ Text.join "/" names := by
  by_cases empty : outer = []
  · rw [if_pos empty, empty, List.nil_append]
  · rw [if_neg empty]
    induction names using List.reverseRecOn with
    | nil => exact absurd rfl filled
    | append_singleton inner name ih =>
        rw [← List.append_assoc, join_concat, join_concat, if_neg (by simp [empty])]
        by_cases sole : inner = []
        · rw [if_pos sole, sole, List.append_nil]
        · rw [if_neg sole, ih sole]
          simp only [String.append_assoc]

theorem join_rows (outerPart : ∀ part ∈ directory, IsPart part) (innerPart : ∀ part ∈ names, IsPart part)
    (filled : names ≠ []) :
    join (Text.join "/" directory) (Text.join "/" names) = Text.join "/" (directory ++ names) := by
  rw [join_of_parts outerPart (isRooted_join innerPart), join_append directory filled]

end Path

namespace ModulePath

/-! ### Levels up -/

variable {directory names : List String} {name : String}

theorem ancestor_join (isPart : ∀ part ∈ directory, Path.IsPart part) (levels : Nat) :
    ancestor levels (Text.join "/" directory) = Text.join "/" (directory.take (directory.length - levels)) := by
  induction levels generalizing directory with
  | zero => rw [ancestor, Nat.sub_zero, List.take_length]
  | succ levels ih =>
      rw [ancestor]
      rcases List.eq_nil_or_concat directory with rfl | ⟨outer, last, rfl⟩
      · -- The top is its own parent, so further levels stay there.
        have top : Path.parent (Text.join "/" []) = Text.join "/" [] := rfl
        rw [top, ih (List.forall_mem_nil _), List.take_nil, List.take_nil]
      · rw [List.concat_eq_append] at isPart ⊢
        obtain ⟨outerPart, lastPart⟩ := List.forall_mem_append.mp isPart
        rw [Path.parent_join outerPart (lastPart last (List.mem_singleton_self last)).2, ih outerPart,
          List.length_append, List.length_singleton, Nat.add_sub_add_right,
          List.take_append_of_le_length (Nat.sub_le _ _)]

def leadingDots (specifier : String) : Nat := (specifier.toList.takeWhile (· = '.')).length

def behindDots (specifier : String) : String :=
  Text.exchange '.' '/' (String.ofList (specifier.toList.drop (leadingDots specifier)))

theorem dottedFiles_eq (specifier file : String) :
    dottedFiles specifier file = (startingPoints (leadingDots specifier) (Path.parent file)).flatMap fun root =>
      moduleFiles (if behindDots specifier = "" then root else Path.join root (behindDots specifier)) := rfl

/-! ### Dotted names -/

structure IsWord (name : String) : Prop where
  filled : name ≠ ""
  noDot : '.' ∉ name.toList
  noSlash : '/' ∉ name.toList

instance (name : String) : Decidable (IsWord name) :=
  decidable_of_iff (name ≠ "" ∧ '.' ∉ name.toList ∧ '/' ∉ name.toList)
    ⟨fun holds => ⟨holds.1, holds.2.1, holds.2.2⟩, fun isWord => ⟨isWord.filled, isWord.noDot, isWord.noSlash⟩⟩

theorem IsWord.isPart {name : String} (isWord : IsWord name) : Path.IsPart name := ⟨isWord.filled, isWord.noSlash⟩

/-- Names with a dot between each two, behind so many dots. -/
def dottedName (dots : Nat) (names : List String) : String :=
  String.ofList (List.replicate dots '.') ++ Text.join "." names

example : dottedName 0 ["shop", "models"] = "shop.models" ∧ dottedName 2 ["core"] = "..core" := by decide

theorem toList_dottedName (dots : Nat) (names : List String) :
    (dottedName dots names).toList = List.replicate dots '.' ++ (Text.join "." names).toList := by
  unfold dottedName
  rw [String.toList_append, String.toList_ofList]

theorem head?_join_words (words : ∀ name ∈ names, IsWord name) : (Text.join "." names).toList.head? ≠ some '.' := by
  cases names with
  | nil => decide
  | cons first rest =>
      obtain ⟨tail, joined⟩ := Path.exists_tail "." first rest
      have isWord := words first List.mem_cons_self
      have chars : first.toList ≠ [] := fun empty => isWord.filled (String.toList_eq_nil_iff.mp empty)
      intro dot
      rw [joined, String.toList_append, List.head?_append_of_ne_nil _ chars] at dot
      exact isWord.noDot (List.mem_of_mem_head? dot)

theorem takeWhile_dottedName (words : ∀ name ∈ names, IsWord name) (dots : Nat) :
    (dottedName dots names).toList.takeWhile (· = '.') = List.replicate dots '.' := by
  have inFront : ∀ c ∈ List.replicate dots '.', decide (c = '.') = true := fun c member =>
    decide_eq_true (List.eq_of_mem_replicate member)
  have behind : (Text.join "." names).toList.takeWhile (· = '.') = [] := by
    have other := head?_join_words words
    cases chars : (Text.join "." names).toList with
    | nil => rfl
    | cons c rest =>
        rw [chars] at other
        have different : c ≠ '.' := fun same => other (congrArg some same)
        rw [List.takeWhile_cons_of_neg (by simpa using different)]
  rw [toList_dottedName, List.takeWhile_append_of_pos inFront, behind, List.append_nil]

theorem leadingDots_dottedName (words : ∀ name ∈ names, IsWord name) (dots : Nat) :
    leadingDots (dottedName dots names) = dots := by
  unfold leadingDots
  rw [takeWhile_dottedName words, List.length_replicate]

theorem behindDots_dottedName (words : ∀ name ∈ names, IsWord name) (dots : Nat) :
    behindDots (dottedName dots names) = Text.join "/" names := by
  unfold behindDots
  rw [leadingDots_dottedName words, toList_dottedName, List.drop_left' List.length_replicate, String.ofList_toList,
    Text.exchange_join fun name member => (words name member).noDot]

def moduleAt (parts : List String) : List String :=
  if parts = [] then ["__init__.py"] else [Text.join "/" parts ++ ".py", Text.join "/" parts ++ "/__init__.py"]

theorem moduleFiles_join {parts : List String} (isPart : ∀ part ∈ parts, Path.IsPart part) :
    moduleFiles (Text.join "/" parts) = moduleAt parts := by
  unfold moduleFiles moduleAt
  by_cases empty : parts = []
  · rw [if_pos empty, if_pos (by rw [empty]; rfl)]
  · rw [if_neg empty, if_neg (Path.join_ne_empty_of_parts empty isPart)]

theorem mem_moduleAt (parts : List String) :
    (parts ≠ [] → Text.join "/" parts ++ ".py" ∈ moduleAt parts) ∧
      Text.join "/" (parts ++ ["__init__.py"]) ∈ moduleAt parts := by
  unfold moduleAt
  rw [Path.join_concat]
  by_cases empty : parts = []
  · rw [if_pos empty, if_pos empty]
    exact ⟨fun filled => absurd empty filled, List.mem_singleton_self _⟩
  · rw [if_neg empty, if_neg empty, String.append_assoc]
    exact ⟨fun _ => List.mem_cons_self, List.mem_cons_of_mem _ (List.mem_singleton_self _)⟩

theorem moduleFiles_below {root : List String} (rootPart : ∀ part ∈ root, Path.IsPart part)
    (words : ∀ name ∈ names, IsWord name) :
    moduleFiles (if Text.join "/" names = "" then Text.join "/" root
      else Path.join (Text.join "/" root) (Text.join "/" names)) = moduleAt (root ++ names) := by
  have wordParts : ∀ name ∈ names, Path.IsPart name := fun name member => (words name member).isPart
  have allParts := List.forall_mem_append.mpr ⟨rootPart, wordParts⟩
  rw [← moduleFiles_join allParts]
  by_cases empty : names = []
  · rw [if_pos (by rw [empty]; rfl), empty, List.append_nil]
  · rw [if_neg (Path.join_ne_empty_of_parts empty wordParts), Path.join_rows rootPart wordParts empty]

section

variable (isPart : ∀ part ∈ directory, Path.IsPart part) (plain : '/' ∉ name.toList)
  (dotted : usesDottedNames (Text.join "/" (directory ++ [name])) = true) (words : ∀ name ∈ names, IsWord name)

include isPart plain dotted

theorem candidates_dotted (specifier : String) :
    candidates specifier (Text.join "/" (directory ++ [name])) =
      (startingPoints (leadingDots specifier) (Text.join "/" directory)).flatMap fun root =>
        moduleFiles (if behindDots specifier = "" then root else Path.join root (behindDots specifier)) := by
  unfold candidates
  rw [if_pos dotted, dottedFiles_eq, Path.parent_join isPart plain]

include words

theorem candidates_relative (levels : Nat) :
    candidates (dottedName (levels + 1) names) (Text.join "/" (directory ++ [name])) =
      moduleAt (directory.take (directory.length - levels) ++ names) := by
  rw [candidates_dotted isPart plain dotted, leadingDots_dottedName words, behindDots_dottedName words]
  unfold startingPoints
  dsimp only
  rw [ancestor_join isPart, List.flatMap_singleton,
    moduleFiles_below (fun part member => isPart part (List.mem_of_mem_take member)) words]

theorem candidates_absolute :
    candidates (dottedName 0 names) (Text.join "/" (directory ++ [name])) =
      moduleAt names ++ if directory = [] then [] else moduleAt (directory ++ names) := by
  have top := moduleFiles_below (List.forall_mem_nil _) words
  have own := moduleFiles_below isPart words
  rw [candidates_dotted isPart plain dotted, leadingDots_dottedName words, behindDots_dottedName words]
  unfold startingPoints
  dsimp only
  by_cases empty : directory = []
  · rw [if_pos (by rw [empty]; rfl), if_pos empty, List.flatMap_singleton, List.append_nil]
    exact top
  · rw [if_neg (Path.join_ne_empty_of_parts empty isPart), if_neg empty, List.flatMap_cons, List.flatMap_singleton,
      own]
    exact congrArg (· ++ _) top

end

/-- A dotted name with dots in front means the module that its names lead to from a directory, that of the file for one
dot and a level up for each further dot; without dots in front it means the module that its names lead to from the top
of the project and then, unless the file lies there, that from the directory of the file. So a module and a package are
found by their absolute names in every file, and by their relative names in every file below the package that these
start from. -/
theorem dotted_names_denote_files (directory : List String) (name : String)
    (isPart : ∀ part ∈ directory, Path.IsPart part) (plain : '/' ∉ name.toList)
    (dotted : usesDottedNames (Text.join "/" (directory ++ [name])) = true) :
    let file := Text.join "/" (directory ++ [name])
    (∀ (dots : Nat) (names : List String), (∀ word ∈ names, IsWord word) → 1 ≤ dots → dots ≤ directory.length + 1 →
      let parts := directory.take (directory.length - (dots - 1)) ++ names
      candidates (dottedName dots names) file =
        if parts = [] then ["__init__.py"]
        else [Text.join "/" parts ++ ".py", Text.join "/" parts ++ "/__init__.py"]) ∧
    (∀ names : List String, names ≠ [] → (∀ word ∈ names, IsWord word) →
      candidates (dottedName 0 names) file =
        [Text.join "/" names ++ ".py", Text.join "/" names ++ "/__init__.py"] ++
          if directory = [] then []
          else [Text.join "/" (directory ++ names) ++ ".py", Text.join "/" (directory ++ names) ++ "/__init__.py"]) ∧
    (∀ names : List String, names ≠ [] → (∀ word ∈ names, IsWord word) →
      Text.join "/" names ++ ".py" ∈ candidates (dottedName 0 names) file ∧
        Text.join "/" (names ++ ["__init__.py"]) ∈ candidates (dottedName 0 names) file) ∧
    ∀ package below names : List String, directory = package ++ below → (∀ word ∈ names, IsWord word) →
      (package ++ names ≠ [] →
        Text.join "/" (package ++ names) ++ ".py" ∈ candidates (dottedName (below.length + 1) names) file) ∧
      Text.join "/" (package ++ names ++ ["__init__.py"]) ∈ candidates (dottedName (below.length + 1) names) file := by
  intro file
  refine ⟨?_, ?_, ?_, ?_⟩
  · intro dots names words atLeast _ parts
    obtain ⟨levels, rfl⟩ := Nat.exists_eq_add_of_le' atLeast
    exact candidates_relative isPart plain dotted words levels
  · intro names filled words
    have both : directory ++ names ≠ [] := by simp [filled]
    rw [candidates_absolute isPart plain dotted words]
    unfold moduleAt
    rw [if_neg filled, if_neg both]
  · intro names filled words
    obtain ⟨own, package⟩ := mem_moduleAt names
    rw [candidates_absolute isPart plain dotted words]
    exact ⟨List.mem_append_left _ (own filled), List.mem_append_left _ package⟩
  · rintro package below names rfl words
    rw [candidates_relative isPart plain dotted words, List.length_append, Nat.add_sub_cancel, List.take_left]
    exact mem_moduleAt (package ++ names)

theorem dotted_names_denote_files_shop :
    usesDottedNames "shop/api/views.py" = true ∧
      candidates "..core" "shop/api/views.py" = ["shop/core.py", "shop/core/__init__.py"] ∧
      candidates "..." "shop/api/views.py" = ["__init__.py"] ∧
      "shop/__init__.py" ∈ candidates "shop" "shop/api/views.py" ∧
      "shop/__init__.py" ∈ candidates ".." "shop/api/views.py" := by
  have dotted : usesDottedNames "shop/api/views.py" = true := by decide
  obtain ⟨relative, _, absolute, below⟩ :=
    dotted_names_denote_files ["shop", "api"] "views.py" (by decide) (by decide) dotted
  have core := relative 2 ["core"] (by decide) (by decide) (by decide)
  have top := relative 3 [] (by decide) (by decide) (by decide)
  have package := (absolute ["shop"] (by decide) (by decide)).2
  have own := (below ["shop"] ["api"] [] rfl (by decide)).2
  exact ⟨dotted, core, top, package, own⟩

end ModulePath

end ChangeImpact
