import ChangeImpact.Proofs.EligibleFiles
import ChangeImpact.Proofs.HeldFiles
import Mathlib.Data.List.Sort

/-!
The files that a walk through a project finds. It offers those that can take part one after another: one that is too
large is noted, and the first for which there is no room ends the walk.
-/

set_option autoImplicit false

namespace ChangeImpact.Discovery

/-! ### The walk -/

def offer (scope : Scope) (outer : List String) (found : Discovery) (candidate : Candidate) : Discovery :=
  if found.capReached then found else takeIn scope (candidate.path outer) candidate.size found

variable {table : LanguageTable} {scope : Scope} {linkedSize : String → Option Nat}

theorem foldl_offer_of_capReached (outer : List String) {found : Discovery} (ended : found.capReached = true)
    (files : List Candidate) : files.foldl (offer scope outer) found = found := by
  induction files with
  | nil => rfl
  | cons file rest ih => rw [List.foldl_cons, offer, if_pos ended, ih]

theorem foldl_offer_under (outer : List String) (name : String) (files : List Candidate) (found : Discovery) :
    (files.map (Candidate.under name)).foldl (offer scope outer) found =
      files.foldl (offer scope (outer ++ [name])) found := by
  rw [List.foldl_map]
  congr 1
  funext found file
  unfold offer
  rw [Candidate.path_under]
  rfl

theorem foldl_offer_own {outer : List String} {name : String} {entry : Entry} {size : Nat} {found : Discovery}
    (sized : sizeAt linkedSize (Text.join "/" (outer ++ [name])) entry = some size)
    (running : found.capReached = false) :
    (own table scope linkedSize outer name entry).foldl (offer scope outer) found =
      consider table scope name (Text.join "/" (outer ++ [name])) size found := by
  unfold own consider
  dsimp only
  rw [sized]
  dsimp only
  split
  · rw [List.foldl_cons, offer, running]
    rfl
  · rfl

theorem pathIn_join {outer : List String} (named : ∀ name ∈ outer, Path.IsName name) (name : String) :
    pathIn (Text.join "/" outer) name = Text.join "/" (outer ++ [name]) := by
  unfold pathIn
  rw [Path.join_concat]
  by_cases empty : outer = []
  · rw [if_pos empty, empty]
    rfl
  · rw [if_neg empty, if_neg (Path.join_ne_empty empty named)]

section

variable {folder : String} {entries rest : List (String × Entry)} {name : String} {entry : Entry} {found : Discovery}

theorem walk_of_capReached (ended : found.capReached = true) :
    walk table scope linkedSize folder entries found = found := by
  cases entries with
  | nil => rw [walk]
  | cons field rest => rw [walk, if_pos ended]

theorem walk_excluded (excluded : scope.excludes name (pathIn folder name) = true) :
    walk table scope linkedSize folder ((name, entry) :: rest) found =
      walk table scope linkedSize folder rest found := by
  by_cases ended : found.capReached = true
  · rw [walk_of_capReached ended, walk_of_capReached ended]
  · rw [walk, if_neg ended, if_pos excluded]

theorem walk_directory {inner : List (String × Entry)} (kept : ¬ scope.excludes name (pathIn folder name) = true) :
    walk table scope linkedSize folder ((name, .directory inner) :: rest) found =
      walk table scope linkedSize folder rest
        (walk table scope linkedSize (pathIn folder name) (Entry.inOrder inner) found) := by
  by_cases ended : found.capReached = true
  · simp only [walk_of_capReached ended]
  · rw [walk, if_neg ended, if_neg kept]

theorem walk_leaf {outer : List String} (leaf : ∀ inner, entry ≠ .directory inner)
    (path : pathIn folder name = Text.join "/" (outer ++ [name]))
    (kept : ¬ scope.excludes name (pathIn folder name) = true) :
    walk table scope linkedSize folder ((name, entry) :: rest) found =
      walk table scope linkedSize folder rest
        ((own table scope linkedSize outer name entry).foldl (offer scope outer) found) := by
  by_cases ended : found.capReached = true
  · rw [foldl_offer_of_capReached outer ended, walk_of_capReached ended, walk_of_capReached ended]
  · have running := eq_false_of_ne_true ended
    rw [walk, if_neg ended, if_neg kept]
    cases entry with
    | directory inner => exact absurd rfl (leaf inner)
    | file octets outline =>
        rw [@foldl_offer_own table scope linkedSize outer name (.file octets outline) octets.size found rfl running, path]
    | link target outline =>
        dsimp only
        cases linked : linkedSize (pathIn folder name) with
        | none =>
            have none : own table scope linkedSize outer name (.link target outline) = [] := by
              unfold own sizeAt
              dsimp only
              rw [← path, linked]
            rw [none]
            rfl
        | some size =>
            have sized : sizeAt linkedSize (Text.join "/" (outer ++ [name])) (.link target outline) = some size := by
              rw [← path]
              exact linked
            rw [foldl_offer_own sized running, path]

end

/-- The walk offers the files one after another. -/
theorem walk_eq {outer : List String} {entries : List (String × Entry)}
    (named : ∀ name ∈ outer, Path.IsName name) (proper : (Entry.directory entries).Proper) (found : Discovery) :
    walk table scope linkedSize (Text.join "/" outer) entries found =
      (candidates table scope linkedSize outer entries).foldl (offer scope outer) found := by
  fun_induction candidates table scope linkedSize outer entries generalizing found with
  | case1 => rw [walk, List.foldl_nil]
  | case2 outer name inner rest excluded ih =>
      rw [← pathIn_join named] at excluded
      rw [walk_excluded excluded, ih named proper.cons.2.2.2]
  | case3 outer name inner rest kept ihInner ihRest =>
      obtain ⟨_, isName, inside, later⟩ := proper.cons
      have deeper : ∀ part ∈ outer ++ [name], Path.IsName part :=
        List.forall_mem_append.mpr ⟨named, List.forall_mem_singleton.mpr isName⟩
      rw [← pathIn_join named] at kept
      rw [walk_directory kept, pathIn_join named, ihInner deeper inside.inOrder, ihRest named later, List.foldl_append,
        foldl_offer_under]
  | case4 outer name entry rest leaf excluded ih =>
      rw [← pathIn_join named] at excluded
      rw [walk_excluded excluded, ih named proper.cons.2.2.2]
  | case5 outer name entry rest leaf kept ih =>
      rw [← pathIn_join named] at kept
      rw [walk_leaf leaf (pathIn_join named name) kept, ih named proper.cons.2.2.2, List.foldl_append]

/-! ### Where the walk ends -/

/-- How a row of files is split where it ends, or at the first file that is refused as there is no room for it. -/
inductive Stops (scope : Scope) (room : Nat) (before : List Candidate) : List Candidate → Bool → Prop
  | all (within : (before.filter (·.fits scope)).length ≤ room) : Stops scope room before [] false
  | refused {file : Candidate} (later : List Candidate) (fits : file.fits scope = true)
      (full : (before.filter (·.fits scope)).length = room) : Stops scope room before (file :: later) true

namespace Stops

variable {allowed : Nat} {before rest : List Candidate} {capped : Bool} {file : Candidate}

theorem cons_large (large : file.fits scope = false) (stops : Stops scope allowed before rest capped) :
    Stops scope allowed (file :: before) rest capped := by
  have same : (file :: before).filter (·.fits scope) = before.filter (·.fits scope) :=
    List.filter_cons_of_neg (by simp [large])
  cases stops with
  | all within => exact .all (same ▸ within)
  | refused later fits full => exact .refused later fits (same ▸ full)

theorem cons_fitting (fitting : file.fits scope = true) (stops : Stops scope allowed before rest capped) :
    Stops scope (allowed + 1) (file :: before) rest capped := by
  have more : ((file :: before).filter (·.fits scope)).length = (before.filter (·.fits scope)).length + 1 := by
    rw [List.filter_cons_of_pos fitting, List.length_cons]
  cases stops with
  | all within => exact .all (by omega)
  | refused later fits full => exact .refused later fits (by omega)

theorem take_filter (stops : Stops scope allowed before rest capped) :
    ((before ++ rest).filter (·.fits scope)).take allowed = before.filter (·.fits scope) := by
  cases stops with
  | all within => rw [List.append_nil, List.take_of_length_le within]
  | refused later fits full => rw [List.filter_append, List.take_left' full]

theorem capped_iff (stops : Stops scope allowed before rest capped) :
    capped = true ↔ allowed < ((before ++ rest).filter (·.fits scope)).length := by
  cases stops with
  | all within =>
      rw [List.append_nil]
      exact iff_of_false Bool.false_ne_true (Nat.not_lt.mpr within)
  | refused later fits full =>
      refine iff_of_true rfl ?_
      rw [List.filter_append, List.filter_cons_of_pos fits, List.length_append, List.length_cons]
      omega

end Stops

def room (scope : Scope) (found : Discovery) : Nat := (scope.maxFiles - Int.ofNat found.files.length).toNat

theorem offer_large {outer : List String} {found : Discovery} {file : Candidate} (running : found.capReached = false)
    (large : file.fits scope = false) :
    offer scope outer found file = { found with skippedLarge := found.skippedLarge ++ [file.path outer] } := by
  have larger : scope.maxFileSize < Int.ofNat file.size := by
    simpa [Candidate.fits] using large
  unfold offer takeIn
  rw [running, if_neg Bool.false_ne_true, if_pos larger]

theorem offer_fitting {outer : List String} {found : Discovery} {file : Candidate} (running : found.capReached = false)
    (fits : file.fits scope = true) :
    offer scope outer found file =
      if room scope found = 0 then { found with capReached := true }
      else { found with files := found.files ++ [file.path outer] } := by
  have within : Int.ofNat file.size ≤ scope.maxFileSize := of_decide_eq_true fits
  have full : room scope found = 0 ↔ scope.maxFiles ≤ Int.ofNat found.files.length := by
    unfold room
    omega
  unfold offer takeIn
  rw [running, if_neg Bool.false_ne_true, if_neg (by omega)]
  by_cases none : room scope found = 0
  · rw [if_pos none, if_pos (full.mp none)]
  · rw [if_neg none, if_neg (fun more => none (full.mpr more))]

/-- What a walk that has not ended makes of the files to come. -/
theorem foldl_offer {outer : List String} {found : Discovery} (running : found.capReached = false)
    (files : List Candidate) :
    ∃ before rest, files = before ++ rest ∧
      (files.foldl (offer scope outer) found).files =
        found.files ++ (before.filter (·.fits scope)).map (Candidate.path outer) ∧
      (files.foldl (offer scope outer) found).skippedLarge =
        found.skippedLarge ++ (before.filter fun file => !file.fits scope).map (Candidate.path outer) ∧
      Stops scope (room scope found) before rest (files.foldl (offer scope outer) found).capReached := by
  induction files generalizing found with
  | nil =>
      refine ⟨[], [], rfl, (List.append_nil _).symm, (List.append_nil _).symm, ?_⟩
      rw [List.foldl_nil, running]
      exact .all (Nat.zero_le _)
  | cons file rest ih =>
      rw [List.foldl_cons]
      cases fits : file.fits scope with
      | false =>
          rw [offer_large running fits]
          obtain ⟨before, after, split, files, large, stops⟩ :=
            @ih { found with skippedLarge := found.skippedLarge ++ [file.path outer] } running
          refine ⟨file :: before, after, congrArg _ split, ?_, ?_, stops.cons_large fits⟩
          · rw [files, List.filter_cons_of_neg (by simp [fits])]
          · rw [large, List.filter_cons_of_pos (by simp [fits]), List.append_assoc]
            rfl
      | true =>
          rw [offer_fitting running fits]
          by_cases none : room scope found = 0
          · rw [if_pos none, foldl_offer_of_capReached outer rfl]
            refine ⟨[], file :: rest, rfl, (List.append_nil _).symm, (List.append_nil _).symm, ?_⟩
            exact .refused rest fits none.symm
          · rw [if_neg none]
            obtain ⟨before, after, split, files, large, stops⟩ :=
              @ih { found with files := found.files ++ [file.path outer] } running
            have less : room scope found = room scope { found with files := found.files ++ [file.path outer] } + 1 := by
              unfold room at none ⊢
              simp only [Int.ofNat_eq_natCast, List.length_append, List.length_singleton] at none ⊢
              omega
            refine ⟨file :: before, after, congrArg _ split, ?_, ?_, less ▸ stops.cons_fitting fits⟩
            · rw [files, List.filter_cons_of_pos fits, List.append_assoc]
              rfl
            · rw [large, List.filter_cons_of_neg (by simp [fits])]

/-! ### Projects -/

def entriesOf (workspace : Workspace) (project : String) : List (String × Entry) :=
  (workspace.folder? project).getD []

theorem ofProject_eq (table : LanguageTable) (scope : Scope) (workspace : Workspace) (project : String) :
    ofProject table scope workspace project =
      walk table scope (fileSize? workspace project) "" (Entry.inOrder (entriesOf workspace project)) {} := by
  unfold ofProject entriesOf
  cases workspace.folder? project with
  | none => rw [Option.getD_none, Entry.inOrder, List.mergeSort_nil, walk]
  | some entries => rfl

theorem proper_entriesOf {workspace : Workspace} (proper : workspace.Proper) (project : String) :
    (Entry.directory (entriesOf workspace project)).Proper := by
  unfold entriesOf
  cases found : workspace.folder? project with
  | none => exact Entry.proper_nil
  | some entries => exact proper.folder? found

section

variable {entries : List (String × Entry)}

theorem path_injective (proper : (Entry.directory entries).Proper) {left right : Candidate}
    (first : Eligible table scope linkedSize [] entries left)
    (second : Eligible table scope linkedSize [] entries right) (same : left.path [] = right.path []) :
    left.place = right.place := by
  obtain ⟨_, found, _⟩ := first.isFile
  obtain ⟨_, other, _⟩ := second.isFile
  exact Path.join_injective (proper.at? found).1 (proper.at? other).1 same

/-- No two of the files have the same path. -/
theorem paths_nodup (proper : (Entry.directory entries).Proper) :
    ((candidates table scope linkedSize [] (Entry.inOrder entries)).map (Candidate.path [])).Nodup := by
  have ascending : (candidates table scope linkedSize [] (Entry.inOrder entries)).Pairwise _ :=
    candidates_ascending proper.inOrder (Entry.inOrder_ascending proper.distinct)
  refine List.pairwise_map.mpr (ascending.imp_of_mem ?_)
  intro left right member other smaller same
  rw [mem_candidates proper.inOrder] at member other
  rw [path_injective proper.inOrder member other same] at smaller
  exact List.lt_irrefl _ smaller

end

def eligible (table : LanguageTable) (scope : Scope) (workspace : Workspace) (project : String) : List Candidate :=
  candidates table scope (fileSize? workspace project) [] (Entry.inOrder (entriesOf workspace project))

theorem ofProject_stops (table : LanguageTable) (scope : Scope) {workspace : Workspace} (proper : workspace.Proper)
    (project : String) :
    ∃ before rest, eligible table scope workspace project = before ++ rest ∧
      (ofProject table scope workspace project).files =
        (before.filter (·.fits scope)).map (Candidate.path []) ∧
      (ofProject table scope workspace project).skippedLarge =
        (before.filter fun file => !file.fits scope).map (Candidate.path []) ∧
      Stops scope scope.maxFiles.toNat before rest (ofProject table scope workspace project).capReached := by
  have inner := (proper_entriesOf proper project).inOrder
  have walked : ofProject table scope workspace project =
      (eligible table scope workspace project).foldl (offer scope []) {} :=
    (ofProject_eq table scope workspace project).trans (walk_eq (List.forall_mem_nil _) inner {})
  have empty : room scope {} = scope.maxFiles.toNat := congrArg Int.toNat (Int.sub_zero _)
  rw [walked, ← empty]
  exact foldl_offer rfl _

theorem exists_eligible {table : LanguageTable} {scope : Scope} {workspace : Workspace} (proper : workspace.Proper)
    {project file : String} (listed : file ∈ (ofProject table scope workspace project).files) :
    ∃ candidate, Eligible table scope (fileSize? workspace project) [] (entriesOf workspace project) candidate ∧
      candidate.path [] = file := by
  have inner := proper_entriesOf proper project
  obtain ⟨before, rest, split, files, _⟩ := ofProject_stops table scope proper project
  rw [files] at listed
  obtain ⟨candidate, kept, named⟩ := List.mem_map.mp listed
  have among : candidate ∈ eligible table scope workspace project := by
    rw [split]
    exact List.mem_append_left _ (List.mem_filter.mp kept).1
  exact ⟨candidate, (eligible_inOrder inner.distinct).mp ((mem_candidates inner.inOrder).mp among), named⟩

theorem holding_proper {entries : List (String × Entry)} (proper : (Entry.directory entries).Proper) :
    (Workspace.holding entries).Proper :=
  Entry.proper_nil.put Workspace.isName_of_mem_base proper

theorem sole_proper {name : String} (octets : ByteArray) (outline : Option Syntax.Outline)
    (isName : Path.IsName name) : (Workspace.sole name octets outline).Proper :=
  holding_proper (.directory (by simp) (List.forall_mem_singleton.mpr isName)
    (List.forall_mem_singleton.mpr (.file octets outline)))

theorem files_nodup (table : LanguageTable) (scope : Scope) {workspace : Workspace} (proper : workspace.Proper)
    (project : String) : (ofProject table scope workspace project).files.Nodup := by
  obtain ⟨before, rest, split, files, _⟩ := ofProject_stops table scope proper project
  have distinct : ((eligible table scope workspace project).map (Candidate.path [])).Nodup :=
    paths_nodup (proper_entriesOf proper project)
  rw [split] at distinct
  rw [files]
  exact ((List.filter_sublist.trans (List.sublist_append_left before rest)).map _).nodup distinct

/-- The files of a project are the first of those that can take part and are not too large, as many as are allowed, in
the order of their places. When there are more, a warning says so; those too large are told up to the first refused. -/
theorem discovers_exactly (table : LanguageTable) (scope : Scope) (workspace : Workspace) (proper : workspace.Proper)
    (project : String) :
    let found := ofProject table scope workspace project
    ∃ eligible : List Candidate,
      (∀ candidate, candidate ∈ eligible ↔
        Eligible table scope (fileSize? workspace project) [] (entriesOf workspace project) candidate) ∧
      (eligible.Pairwise fun left right => left.place < right.place) ∧
      found.files = ((eligible.filter (·.fits scope)).take scope.maxFiles.toNat).map (Candidate.path []) ∧
      found.files.Nodup ∧
      (found.capReached = true ↔ scope.maxFiles.toNat < (eligible.filter (·.fits scope)).length) ∧
      (warnings scope found).length = (if found.capReached then 1 else 0) ∧
      ∃ before rest, eligible = before ++ rest ∧
        found.skippedLarge = (before.filter fun file => !file.fits scope).map (Candidate.path []) ∧
        Stops scope scope.maxFiles.toNat before rest found.capReached := by
  intro found
  have inner := proper_entriesOf proper project
  obtain ⟨before, rest, split, files, large, stops⟩ := ofProject_stops table scope proper project
  have first : found.files =
      (((eligible table scope workspace project).filter (·.fits scope)).take scope.maxFiles.toNat).map
        (Candidate.path []) := by
    rw [split, stops.take_filter]
    exact files
  refine ⟨eligible table scope workspace project, ?_, ?_, first, ?_, ?_, ?_, before, rest, split, large, stops⟩
  · intro candidate
    exact (mem_candidates inner.inOrder).trans (eligible_inOrder inner.distinct)
  · exact candidates_ascending inner.inOrder (Entry.inOrder_ascending inner.distinct)
  · rw [first]
    exact (((List.take_sublist _ _).trans List.filter_sublist).map _).nodup (paths_nodup inner)
  · rw [split]
    exact stops.capped_iff
  · unfold warnings
    split <;> rfl

/-! ### A project with a nested directory -/

def innerEntries : List (String × Entry) :=
  [("big.py", .file ⟨#[1, 2, 3]⟩ none), ("one.py", .file ⟨#[1]⟩ none)]

/-- A directory with a large and a small file, and beside it small files, a directory that no build enters, and a
large file behind the last small one. -/
def nestedEntries : List (String × Entry) :=
  [("a", .directory innerEntries), ("b.py", .file ⟨#[1]⟩ none), ("build", .directory [("c.py", .file ⟨#[1]⟩ none)]),
    ("d.py", .file ⟨#[1]⟩ none), ("e.py", .file ⟨#[1, 2, 3]⟩ none)]

def nestedScope : Scope := { maxFileSize := 2, maxFiles := 2 }

def nestedFiles : List Candidate :=
  [{ place := ["a", "big.py"], size := 3 }, { place := ["a", "one.py"], size := 1 }, { place := ["b.py"], size := 1 },
    { place := ["d.py"], size := 1 }, { place := ["e.py"], size := 3 }]

theorem nestedEntries_proper : (Entry.directory nestedEntries).Proper := by
  have file : ∀ octets, (Entry.file octets none).Proper := fun octets => .file octets none
  have inner : (Entry.directory innerEntries).Proper :=
    .directory (by decide) (by decide +kernel) (by simp [innerEntries, file])
  have build : (Entry.directory [("c.py", .file ⟨#[1]⟩ none)]).Proper :=
    .directory (by decide) (by decide +kernel) (by simp [file])
  exact .directory (by decide) (by decide +kernel) (by simp [nestedEntries, file, inner, build])

theorem candidates_file {outer : List String} {name : String} (octets : ByteArray) (outline : Option Syntax.Outline)
    (rest : List (String × Entry)) (kept : ¬ scope.excludes name (Text.join "/" (outer ++ [name])) = true)
    (source : (table.supports name && scope.includes name (Text.join "/" (outer ++ [name]))) = true) :
    candidates table scope linkedSize outer ((name, .file octets outline) :: rest) =
      { place := [name], size := octets.size } :: candidates table scope linkedSize outer rest := by
  rw [candidates, if_neg kept]
  · unfold own sizeAt
    dsimp only
    rw [if_pos source]
    rfl
  · intro inner same
    cases same

theorem candidates_nestedEntries (linkedSize : String → Option Nat) :
    candidates .standard nestedScope linkedSize [] nestedEntries = nestedFiles := by
  have sorted : Entry.inOrder innerEntries = innerEntries := List.mergeSort_of_pairwise (by decide)
  have inner : candidates .standard nestedScope linkedSize ([] ++ ["a"]) innerEntries =
      [{ place := ["big.py"], size := 3 }, { place := ["one.py"], size := 1 }] := by
    rw [innerEntries, candidates_file _ _ _ (by decide +kernel) (by decide +kernel),
      candidates_file _ _ _ (by decide +kernel) (by decide +kernel), candidates]
    rfl
  unfold nestedEntries
  rw [candidates, if_neg (by decide +kernel), sorted, inner,
    candidates_file _ _ _ (by decide +kernel) (by decide +kernel), candidates, if_pos (by decide +kernel),
    candidates_file _ _ _ (by decide +kernel) (by decide +kernel),
    candidates_file _ _ _ (by decide +kernel) (by decide +kernel), candidates]
  rfl

/-- The first two small files are taken and the third is refused. The large file before it is told, the one behind it is
not, and the directory that no build enters gives nothing. -/
theorem discovers_exactly_nested :
    (Workspace.holding nestedEntries).Proper ∧
      ofProject .standard nestedScope (.holding nestedEntries) "." =
        { files := ["a/one.py", "b.py"], skippedLarge := ["a/big.py"], capReached := true } := by
  have proper := holding_proper nestedEntries_proper
  have top : entriesOf (.holding nestedEntries) "." = nestedEntries := by
    unfold entriesOf
    rw [Workspace.holding_folder]
    rfl
  obtain ⟨files, listed, ascending, taken, _, capped, _, before, rest, split, large, stops⟩ :=
    discovers_exactly .standard nestedScope (.holding nestedEntries) proper "."
  have same : files = nestedFiles := by
    refine ascending.eq_of_mem_iff (by decide) fun candidate => ?_
    rw [listed, top, ← mem_candidates nestedEntries_proper, candidates_nestedEntries]
  rw [same] at taken capped split
  have stopped := capped.mpr (by decide)
  -- Behind two small files and before a third: no other end fits.
  have only : ∀ length < 6, ((nestedFiles.take length).filter (·.fits nestedScope)).length = 2 →
      (nestedFiles.drop length).head?.any (·.fits nestedScope) = true →
      ((nestedFiles.take length).filter fun file => !file.fits nestedScope).map (Candidate.path []) =
        ["a/big.py"] := by
    decide +kernel
  have first : (ofProject .standard nestedScope (.holding nestedEntries) ".").files = ["a/one.py", "b.py"] :=
    taken.trans (by decide +kernel)
  have skipped : (ofProject .standard nestedScope (.holding nestedEntries) ".").skippedLarge = ["a/big.py"] := by
    rw [stopped] at stops
    cases stops with
    | @refused file later fits full =>
        have front : nestedFiles.take before.length = before := by rw [split, List.take_left]
        have back : nestedFiles.drop before.length = file :: later := by rw [split, List.drop_left]
        have short : before.length < 6 := by
          have := congrArg List.length split
          rw [List.length_append] at this
          change 5 = _ at this
          omega
        rw [large, ← front]
        exact only before.length short (front.symm ▸ full) (by rw [back]; exact fits)
  rcases walked : ofProject .standard nestedScope (.holding nestedEntries) "." with ⟨files, large, ended⟩
  rw [walked] at first skipped stopped
  cases first
  cases skipped
  cases stopped
  exact ⟨proper, rfl⟩

end ChangeImpact.Discovery
