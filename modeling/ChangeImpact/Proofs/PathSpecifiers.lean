import ChangeImpact.Proofs.Places

/-!
What path specifiers mean. A specifier leads from the directory of its file, or from the top of the project, to a place,
and the candidates are the files of that place. So a specifier that leads up by levels and down by names means the files
that these names have from there, and a file is found by each of its relative paths, with or without its ending.
-/

set_option autoImplicit false

namespace ChangeImpact

theorem Path.exists_front (outer : List String) :
    ∃ front, ∀ name, Text.join "/" (outer ++ [name]) = front ++ name := by
  by_cases empty : outer = []
  · refine ⟨"", fun name => ?_⟩
    rw [join_concat, if_pos empty, String.empty_append]
  · refine ⟨Text.join "/" outer ++ "/", fun name => ?_⟩
    rw [join_concat, if_neg empty]

/-- The ending of a path stands behind the last dot of a name that does not consist of dots. -/
theorem Path.ending_of_stem {path : String} {front stem letters : List Char}
    (whole : path.toList = front ++ stem ++ '.' :: letters) (plainStem : '/' ∉ stem)
    (spoken : ∃ c ∈ stem, c ≠ '.') (plain : '/' ∉ letters ∧ '.' ∉ letters) :
    ending path = String.ofList ('.' :: letters) := by
  have noSlash : ∀ c ∈ stem.reverse, decide (c ≠ '/') = true := by
    intro c member
    exact decide_eq_true fun same => plainStem (same ▸ List.mem_reverse.mp member)
  have notDots : ¬ ((front ++ stem).reverse.takeWhile (· ≠ '/')).all (· = '.') = true := by
    intro dots
    obtain ⟨c, member, different⟩ := spoken
    rw [List.reverse_append, List.takeWhile_append_of_pos noSlash] at dots
    have dot := List.all_eq_true.mp dots c (List.mem_append_left _ (List.mem_reverse.mpr member))
    exact different (of_decide_eq_true dot)
  unfold ending
  rw [whole, Text.splitLast_append '.' _ plain.2]
  dsimp only
  rw [if_neg (by simpa using plain.1), if_neg notDots]

namespace ModulePath

/-! ### The files of a place -/

def isRelative (specifier : String) : Bool :=
  Text.startsWith specifier "./" || Text.startsWith specifier "../" || specifier = "." || specifier = ".."

/-- The parts that a path specifier in a file of a directory takes from the top of the project. The name of a package
takes none. -/
def partsOf? (directory : List String) (specifier : String) : Option (List String) :=
  if Path.isRooted specifier then some (Text.split '/' specifier)
  else if isRelative specifier then some (directory ++ Text.split '/' specifier)
  else none

def placeOf? (directory : List String) (specifier : String) : Option Place :=
  (partsOf? directory specifier).map Place.ofParts

/-- The files that a place may mean. The top of the project means none, and neither do places above it, except for the
one directly above. -/
def filesOf (place : Place) : List String :=
  if place.parts = [] ∨ (0 < place.above ∧ place.parts ≠ [".."]) then [] else scriptTrials (Text.join "/" place.parts)

section

variable {place : Place}

theorem parts_of_below (top : place.above = 0) : place.parts = place.below.reverse := by
  unfold Place.parts
  rw [top, List.replicate_zero, List.nil_append]

theorem head_of_above (above : 0 < place.above) : ∃ rest, place.parts = ".." :: rest := by
  unfold Place.parts
  obtain ⟨levels, counted⟩ := Nat.exists_eq_add_of_lt above
  rw [counted, Nat.zero_add, List.replicate_succ]
  exact ⟨_, rfl⟩

theorem here_not_mem_parts : "." ∉ place.parts := by
  intro member
  rcases List.mem_append.mp member with up | down
  · exact absurd (List.eq_of_mem_replicate up) (by decide)
  · exact (place.ordinary _ (List.mem_reverse.mp down)).notHere rfl

theorem join_parts_ne_here : Text.join "/" place.parts ≠ "." := by
  intro here
  by_cases none : place.parts = []
  · rw [none] at here
    exact absurd here (by decide)
  · have plain : ∀ part ∈ place.parts, '/' ∉ part.toList := fun part member =>
      (Place.isPart_of_mem_parts part member).2
    have parted := Path.split_join none plain
    rw [here, Text.split_of_not_mem (by decide)] at parted
    exact here_not_mem_parts (parted ▸ List.mem_singleton_self _)

theorem startsWith_up_iff :
    Text.startsWith (Text.join "/" place.parts) "../" = true ↔ 0 < place.above ∧ place.parts ≠ [".."] := by
  have dots : "../".toList = "..".toList ++ ['/'] := rfl
  unfold Text.startsWith
  rw [List.isPrefixOf_iff_prefix, dots]
  rcases Nat.eq_zero_or_pos place.above with top | above
  · -- From the top every part is an ordinary name, and none of these is two dots.
    refine iff_of_false ?_ (fun both => absurd top (Nat.ne_of_gt both.1))
    rintro ⟨tail, whole⟩
    cases parted : place.parts with
    | nil =>
        rw [parted] at whole
        exact absurd (congrArg List.length whole) (by simp [Text.join])
    | cons first rest =>
        have isOrdinary : Path.IsOrdinary first := by
          apply place.ordinary
          rw [parts_of_below top] at parted
          exact List.mem_reverse.mp (parted ▸ List.mem_cons_self)
        rw [parted, Path.toList_join_cons, List.append_assoc] at whole
        have dotsPlain : '/' ∉ "..".toList := by decide
        obtain ⟨same, _⟩ :=
          Path.append_inj_of_mark dotsPlain isOrdinary.plain (by simp) (Path.head?_afterFirst rest) whole
        exact isOrdinary.notUp (String.toList_inj.mp same.symm)
  · obtain ⟨rest, parted⟩ := head_of_above above
    rw [parted, Path.toList_join_cons, List.prefix_append_right_inj]
    cases rest with
    | nil => simp [Path.afterFirst]
    | cons second others => simp [Path.afterFirst, above]

theorem trials_of_path :
    (if place.path = "." || place.path = "" || Text.startsWith place.path "../" then []
      else scriptTrials place.path) = filesOf place := by
  unfold filesOf Place.path
  by_cases none : place.parts = []
  · rw [if_pos none, if_pos (by decide), if_pos (Or.inl none)]
  · have filled := Path.join_ne_empty_of_parts none Place.isPart_of_mem_parts
    have guard : (decide (Text.join "/" place.parts = ".") || decide (Text.join "/" place.parts = "") ||
        Text.startsWith (Text.join "/" place.parts) "../") = Text.startsWith (Text.join "/" place.parts) "../" := by
      simp [join_parts_ne_here, filled]
    rw [if_neg none, guard]
    by_cases outside : 0 < place.above ∧ place.parts ≠ [".."]
    · rw [if_pos (startsWith_up_iff.mpr outside), if_pos (Or.inr outside)]
    · rw [if_neg (mt startsWith_up_iff.mp outside), if_neg (not_or.mpr ⟨none, outside⟩)]

end

/-! ### From specifiers to places -/

theorem ofParts_dropWhile (chars : List Char) :
    Place.ofParts (Text.split '/' (String.ofList (chars.dropWhile (· = '/')))) =
      Place.ofParts (Text.split '/' (String.ofList chars)) := by
  induction chars with
  | nil => rfl
  | cons c rest ih =>
      by_cases slash : c = '/'
      · subst slash
        -- The slash leaves an empty part in front, which leads nowhere.
        rw [List.dropWhile_cons_of_pos (by decide), ih]
        unfold Text.split
        rw [String.toList_ofList, String.toList_ofList, Text.cut_separator, List.map_cons]
        exact (congrArg (List.foldl Place.step · _) Place.step_empty).symm
      · rw [List.dropWhile_cons_of_neg (by simpa using slash)]

theorem isRooted_dropWhile (chars : List Char) :
    Path.isRooted (String.ofList (chars.dropWhile (· = '/'))) = false := by
  rw [← Bool.not_eq_true, Path.isRooted_iff, String.toList_ofList]
  intro slash
  have kept := List.head?_dropWhile_not (· = '/') chars
  rw [slash] at kept
  exact absurd kept (by decide)

variable {directory : List String} {name : String}

/-- The candidates of a path specifier are the files of the place that it leads to. -/
theorem scriptFiles_eq (inside : ∀ part ∈ directory, Path.IsPart part) (plain : '/' ∉ name.toList)
    (specifier : String) :
    scriptFiles specifier (Text.join "/" (directory ++ [name])) =
      ((placeOf? directory specifier).map filesOf).getD [] := by
  unfold scriptFiles specifierPath? placeOf? partsOf?
  rw [Path.parent_join inside plain]
  by_cases rooted : Path.isRooted specifier = true
  · have front : Text.startsWith specifier "/" = true := rooted
    rw [if_pos front, if_pos rooted]
    dsimp only
    rw [Path.normalize_eq_path (isRooted_dropWhile _), trials_of_path, ofParts_dropWhile, String.ofList_toList]
    rfl
  · have front : ¬ Text.startsWith specifier "/" = true := rooted
    have relative := Bool.eq_false_iff.mpr rooted
    rw [if_neg front, if_neg rooted]
    by_cases taken : isRelative specifier = true
    · have written := taken
      unfold isRelative at written
      rw [if_pos written, if_pos taken]
      dsimp only
      rw [Path.normalize_eq_path (Path.isRooted_join_path inside relative), trials_of_path,
        Path.split_join_path inside relative]
      rfl
    · have written := taken
      unfold isRelative at written
      rw [if_neg written, if_neg taken]
      rfl

theorem candidates_script (inside : ∀ part ∈ directory, Path.IsPart part) (plain : '/' ∉ name.toList)
    (script : usesDottedNames (Text.join "/" (directory ++ [name])) = false) (specifier : String) :
    candidates specifier (Text.join "/" (directory ++ [name])) =
      ((placeOf? directory specifier).map filesOf).getD [] := by
  unfold candidates
  rw [if_neg (by simp [script]), scriptFiles_eq inside plain]

/-! ### Levels up, names down -/

/-- The path specifier that leads so many levels up and then down by names. -/
def upward (levels : Nat) (names : List String) : String :=
  Text.join "/" ((if levels = 0 then ["."] else List.replicate levels "..") ++ names)

example : upward 0 ["api"] = "./api" ∧ upward 2 ["lib", "ui.js"] = "../../lib/ui.js" := by decide

variable {names : List String}

theorem isPart_of_mem_upward (ordinary : ∀ part ∈ names, Path.IsOrdinary part) (levels : Nat) :
    ∀ part ∈ (if levels = 0 then ["."] else List.replicate levels "..") ++ names, Path.IsPart part := by
  intro part member
  rcases List.mem_append.mp member with dots | down
  · split at dots
    · rw [List.mem_singleton.mp dots]
      decide
    · rw [List.eq_of_mem_replicate dots]
      decide
  · exact (ordinary part down).isPart

theorem isRelative_upward (filled : names ≠ []) (levels : Nat) : isRelative (upward levels names) = true := by
  obtain ⟨first, rest, rfl⟩ := List.exists_cons_of_ne_nil filled
  have slash : ∀ others : List String, others ≠ [] → ∃ tail, Path.afterFirst others = '/' :: tail := by
    intro others some
    obtain ⟨second, later, rfl⟩ := List.exists_cons_of_ne_nil some
    exact ⟨_, rfl⟩
  unfold isRelative upward Text.startsWith
  cases levels with
  | zero =>
      rw [if_pos rfl, List.singleton_append, Path.toList_join_cons]
      obtain ⟨tail, behind⟩ := slash (first :: rest) filled
      rw [behind]
      simp
  | succ levels =>
      rw [if_neg (Nat.succ_ne_zero _), List.replicate_succ, List.cons_append, Path.toList_join_cons]
      obtain ⟨tail, behind⟩ := slash (List.replicate levels ".." ++ first :: rest) (by simp)
      rw [behind]
      simp

theorem placeOf?_upward (ordinary : ∀ part ∈ names, Path.IsOrdinary part) (filled : names ≠ []) (levels : Nat) :
    placeOf? directory (upward levels names) =
      some (.ofParts (directory ++ (List.replicate levels ".." ++ names))) := by
  have isPart := isPart_of_mem_upward ordinary levels
  have relative : ¬ Path.isRooted (upward levels names) = true := Bool.eq_false_iff.mp (Path.isRooted_join isPart)
  unfold placeOf? partsOf?
  rw [if_neg relative, if_pos (isRelative_upward filled levels)]
  unfold upward
  rw [Path.split_join (by simp [filled]) fun part member => (isPart part member).2, Option.map_some]
  cases levels with
  | zero =>
      -- The dot in front of the names changes no place.
      unfold Place.ofParts
      rw [if_pos rfl, List.foldl_append, List.singleton_append, List.foldl_cons, Place.step_here, List.foldl_append]
      rfl
  | succ levels => rw [if_neg (Nat.succ_ne_zero _)]

theorem filesOf_upward (inside : ∀ part ∈ directory, Path.IsOrdinary part)
    (ordinary : ∀ part ∈ names, Path.IsOrdinary part) (filled : names ≠ []) (levels : Nat) :
    filesOf (.ofParts (directory ++ (List.replicate levels ".." ++ names))) =
      if levels ≤ directory.length then
        scriptTrials (Text.join "/" (directory.take (directory.length - levels) ++ names))
      else [] := by
  obtain ⟨above, below⟩ := Place.ofParts_upward inside ordinary levels
  generalize Place.ofParts (directory ++ (List.replicate levels ".." ++ names)) = place at above below ⊢
  unfold filesOf
  by_cases within : levels ≤ directory.length
  · have top : place.above = 0 := above.trans (Nat.sub_eq_zero_of_le within)
    rw [if_pos within, parts_of_below top, below, if_neg]
    simp [top, filled]
  · have outside : 0 < place.above := above ▸ Nat.sub_pos_of_lt (Nat.not_le.mp within)
    -- There are names below, so the place is not the one directly above.
    have further : place.parts ≠ [".."] := by
      intro direct
      have counted := congrArg List.length direct
      have some := List.length_pos_iff.mpr filled
      unfold Place.parts at counted
      rw [below, List.length_append, List.length_replicate, List.length_append, List.length_singleton] at counted
      omega
    rw [if_neg within, if_pos (Or.inr ⟨outside, further⟩)]

/-! ### Endings -/

theorem scriptEndings_shape {ending : String} (listed : ending ∈ scriptEndings) :
    ∃ letters, ending.toList = '.' :: letters ∧ '/' ∉ letters ∧ '.' ∉ letters := by
  have shapes : ∀ ending ∈ scriptEndings, ending.toList.head? = some '.' ∧ '/' ∉ ending.toList.tail ∧
      '.' ∉ ending.toList.tail := by
    decide
  obtain ⟨dot, plain⟩ := shapes ending listed
  exact ⟨ending.toList.tail, (List.cons_head?_tail dot).symm, plain⟩

theorem usesDottedNames_of_script {file : String} (script : Path.fileExtension file ∈ scriptEndings) :
    usesDottedNames file = false := by
  have apart : ∀ ending ∈ scriptEndings, ending ∉ dottedEndings := by decide
  have known : ∀ ending ∈ scriptEndings, (LanguageTable.standard.entries.lookup ending).isSome = true := by
    decide +kernel
  have supported : LanguageTable.standard.supports file = true := known _ script
  rw [← Bool.not_eq_true, usesDottedNames_iff supported, LanguageTable.languageOf?_python]
  exact fun dotted => apart _ script dotted.1

theorem candidates_upward (inside : ∀ part ∈ directory, Path.IsOrdinary part) (plain : '/' ∉ name.toList)
    (script : usesDottedNames (Text.join "/" (directory ++ [name])) = false)
    (ordinary : ∀ part ∈ names, Path.IsOrdinary part) (filled : names ≠ []) (levels : Nat) :
    candidates (upward levels names) (Text.join "/" (directory ++ [name])) =
      if levels ≤ directory.length then
        scriptTrials (Text.join "/" (directory.take (directory.length - levels) ++ names))
      else [] := by
  rw [candidates_script (Path.isPart_of_ordinary inside) plain script, placeOf?_upward ordinary filled,
    Option.map_some, Option.getD_some, filesOf_upward inside ordinary filled]

theorem isOrdinary_of_spoken {stem : String} (plain : '/' ∉ stem.toList) (spoken : ∃ c ∈ stem.toList, c ≠ '.') :
    Path.IsOrdinary stem := by
  obtain ⟨c, member, different⟩ := spoken
  have dots : ∀ text ∈ ["", ".", ".."], text.toList.all (· = '.') = true := by decide
  have named : stem ∉ ["", ".", ".."] := fun listed =>
    different (of_decide_eq_true (List.all_eq_true.mp (dots stem listed) c member))
  simp only [List.mem_cons, List.not_mem_nil, or_false, not_or] at named
  exact ⟨plain, named.1, named.2.1, named.2.2⟩

/-- A file with the ending of a script is tried under its own path and under its path without the ending. -/
theorem mem_scriptTrials {front stem ending : String} (plainStem : '/' ∉ stem.toList)
    (spoken : ∃ c ∈ stem.toList, c ≠ '.') (listed : ending ∈ scriptEndings) :
    front ++ stem ++ ending ∈ scriptTrials (front ++ stem ++ ending) ∧
      front ++ stem ++ ending ∈ scriptTrials (front ++ stem) := by
  unfold scriptTrials
  constructor
  · obtain ⟨letters, chars, plain⟩ := scriptEndings_shape listed
    have found : Path.ending (front ++ stem ++ ending) = ending := by
      rw [Path.ending_of_stem (by rw [String.toList_append, String.toList_append, chars]) plainStem spoken plain,
        ← chars, String.ofList_toList]
    rw [found, if_pos (List.contains_iff_mem.mpr listed)]
    exact List.mem_append_left _ (List.mem_append_left _ (List.mem_singleton_self _))
  · exact List.mem_append_left _ (List.mem_append_right _ (List.mem_map.mpr ⟨ending, listed, rfl⟩))

/-- In a script, a path specifier that leads up by levels and down by names means the path that the names have from
there: that path itself if it has the ending of a script, then the path with each such ending, then the index files of
the directory; and nothing if the levels lead out of the project. So a file whose name has such an ending, behind more
than dots, is found by every path that leads to it through a directory that it shares with the importing file, with and
without the ending. -/
theorem path_specifiers_denote_files (directory : List String) (name : String)
    (inside : ∀ part ∈ directory, Path.IsOrdinary part) (plain : '/' ∉ name.toList)
    (script : Path.fileExtension (Text.join "/" (directory ++ [name])) ∈ scriptEndings) :
    let file := Text.join "/" (directory ++ [name])
    (∀ (levels : Nat) (names : List String), names ≠ [] → (∀ part ∈ names, Path.IsOrdinary part) →
      let base := Text.join "/" (directory.take (directory.length - levels) ++ names)
      candidates (upward levels names) file =
        if levels ≤ directory.length then
          (if Path.ending base ∈ scriptEndings then [base] else []) ++
            scriptEndings.map (fun ending => base ++ ending) ++
            scriptEndings.map (fun ending => base ++ "/index" ++ ending)
        else []) ∧
    ∀ (shared up down : List String) (stem ending : String), directory = shared ++ up →
      (∀ part ∈ down, Path.IsOrdinary part) → '/' ∉ stem.toList → (∃ c ∈ stem.toList, c ≠ '.') →
      ending ∈ scriptEndings →
      let target := Text.join "/" (shared ++ down ++ [stem ++ ending])
      target ∈ candidates (upward up.length (down ++ [stem ++ ending])) file ∧
        target ∈ candidates (upward up.length (down ++ [stem])) file := by
  intro file
  have noDots := usesDottedNames_of_script script
  constructor
  · intro levels names filled ordinary base
    rw [candidates_upward inside plain noDots ordinary filled]
    unfold scriptTrials
    simp only [List.contains_iff_mem]
    rfl
  · rintro shared up down stem ending rfl downOrdinary plainStem spoken listed target
    have found : ∀ last : String, Path.IsOrdinary last →
        candidates (upward up.length (down ++ [last])) file =
          scriptTrials (Text.join "/" (shared ++ down ++ [last])) := by
      intro last isOrdinary
      have names : ∀ part ∈ down ++ [last], Path.IsOrdinary part :=
        List.forall_mem_append.mpr ⟨downOrdinary, List.forall_mem_singleton.mpr isOrdinary⟩
      rw [candidates_upward inside plain noDots names (by simp), if_pos (by simp), List.length_append,
        Nat.add_sub_cancel, List.take_left, List.append_assoc]
    obtain ⟨front, joined⟩ := Path.exists_front (shared ++ down)
    have stemOrdinary := isOrdinary_of_spoken plainStem spoken
    have wholeOrdinary : Path.IsOrdinary (stem ++ ending) := by
      have plainEnding : ∀ ending ∈ scriptEndings, '/' ∉ ending.toList := by decide
      obtain ⟨c, member, different⟩ := spoken
      apply isOrdinary_of_spoken
      · rw [String.toList_append, List.mem_append]
        exact not_or.mpr ⟨plainStem, plainEnding ending listed⟩
      · rw [String.toList_append]
        exact ⟨c, List.mem_append_left _ member, different⟩
    have own : target = front ++ stem ++ ending := (joined _).trans (String.append_assoc).symm
    rw [found _ wholeOrdinary, found _ stemOrdinary, joined, joined, ← String.append_assoc, own]
    exact mem_scriptTrials plainStem spoken listed

theorem path_specifiers_denote_files_sibling :
    Path.fileExtension "src/ui/app.ts" ∈ scriptEndings ∧
      "src/lib/math.mjs" ∈ candidates "../lib/math.mjs" "src/ui/app.ts" ∧
      "src/lib/math.mjs" ∈ candidates "../lib/math" "src/ui/app.ts" ∧
      candidates "../../../lib" "src/ui/app.ts" = [] := by
  have script : Path.fileExtension "src/ui/app.ts" ∈ scriptEndings := by decide +kernel
  obtain ⟨denoted, found⟩ := path_specifiers_denote_files ["src", "ui"] "app.ts" (by decide) (by decide) script
  have outside := denoted 3 ["lib"] (by decide) (by decide)
  obtain ⟨withEnding, without⟩ := found ["src"] ["ui"] ["lib"] "math" ".mjs" rfl (by decide) (by decide)
    ⟨'m', by decide, by decide⟩ (by decide)
  exact ⟨script, withEnding, without, outside⟩

end ModulePath

end ChangeImpact
