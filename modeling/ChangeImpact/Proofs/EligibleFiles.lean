import ChangeImpact.Project.Discovery
import ChangeImpact.Proofs.Directories

/-!
The files of a directory tree that can take part in a build: they are listed depth first, which is in the order of
their places, and the list has them all.
-/

set_option autoImplicit false

namespace ChangeImpact.Discovery

structure Candidate where
  place : List String
  size : Nat
  deriving DecidableEq, Repr

namespace Candidate

def path (outer : List String) (candidate : Candidate) : String := Text.join "/" (outer ++ candidate.place)

def name (candidate : Candidate) : String := candidate.place.getLastD ""

def fits (scope : Scope) (candidate : Candidate) : Bool := decide (Int.ofNat candidate.size ≤ scope.maxFileSize)

def under (name : String) (candidate : Candidate) : Candidate := { candidate with place := name :: candidate.place }

end Candidate

def sizeAt (linkedSize : String → Option Nat) (path : String) : Entry → Option Nat
  | .file octets _ => some octets.size
  | .link _ _ => linkedSize path
  | .directory _ => none

variable (table : LanguageTable) (scope : Scope) (linkedSize : String → Option Nat)

/-- A file that can take part lies in the directory or below. Its language is known, it is asked for, and neither it nor
a directory on the way to it is left out. -/
structure Eligible (outer : List String) (entries : List (String × Entry)) (candidate : Candidate) : Prop where
  isFile : ∃ entry, Entry.at? candidate.place entries = some entry ∧
    sizeAt linkedSize (candidate.path outer) entry = some candidate.size
  supported : table.supports candidate.name = true
  included : scope.includes candidate.name (candidate.path outer) = true
  kept : ∀ above name, above ++ [name] <+: candidate.place →
    scope.excludes name (Text.join "/" (outer ++ (above ++ [name]))) = false

def own (outer : List String) (name : String) (entry : Entry) : List Candidate :=
  let path := Text.join "/" (outer ++ [name])
  match sizeAt linkedSize path entry with
  | some size => if table.supports name && scope.includes name path then [{ place := [name], size }] else []
  | none => []

def candidates (outer : List String) : List (String × Entry) → List Candidate
  | [] => []
  | (name, .directory inner) :: rest =>
      if scope.excludes name (Text.join "/" (outer ++ [name])) then candidates outer rest
      else (candidates (outer ++ [name]) (Entry.inOrder inner)).map (Candidate.under name) ++ candidates outer rest
  | (name, entry) :: rest =>
      if scope.excludes name (Text.join "/" (outer ++ [name])) then candidates outer rest
      else own table scope linkedSize outer name entry ++ candidates outer rest
termination_by entries => Entry.weights entries
decreasing_by
  all_goals simp only [Entry.weights, Entry.weight, Entry.weights_inOrder]
  all_goals have := Entry.weight_pos
  all_goals grind

variable {table scope linkedSize} {outer : List String} {entries : List (String × Entry)} {candidate : Candidate}

theorem Candidate.path_under (outer : List String) (name : String) (candidate : Candidate) :
    (candidate.under name).path outer = candidate.path (outer ++ [name]) := by
  unfold path under
  rw [List.append_assoc, List.singleton_append]

/-- Such a file lies under a name of its directory. -/
theorem Eligible.lookup (eligible : Eligible table scope linkedSize outer entries candidate) :
    ∃ name tail entry, candidate.place = name :: tail ∧ entries.lookup name = some entry := by
  obtain ⟨entry, found, sized⟩ := eligible.isFile
  cases place : candidate.place with
  | nil =>
      rw [place] at found
      cases found
      cases sized
  | cons name tail =>
      cases there : entries.lookup name with
      | none =>
          rw [place, Entry.at?_of_none there] at found
          cases found
      | some entry => exact ⟨name, tail, entry, rfl, there⟩

theorem Eligible.of_lookup {left right : List (String × Entry)}
    (eligible : Eligible table scope linkedSize outer left candidate)
    (same : ∀ name tail, candidate.place = name :: tail → right.lookup name = left.lookup name) :
    Eligible table scope linkedSize outer right candidate := by
  obtain ⟨name, tail, _, place, _⟩ := eligible.lookup
  obtain ⟨entry, found, sized⟩ := eligible.isFile
  refine ⟨⟨entry, ?_, sized⟩, eligible.supported, eligible.included, eligible.kept⟩
  rw [place] at found ⊢
  rw [Entry.at?_congr (same name tail place), found]

theorem eligible_congr {left right : List (String × Entry)}
    (same : ∀ name tail, candidate.place = name :: tail → left.lookup name = right.lookup name) :
    Eligible table scope linkedSize outer left candidate ↔ Eligible table scope linkedSize outer right candidate :=
  ⟨fun eligible => eligible.of_lookup fun name tail place => (same name tail place).symm,
    fun eligible => eligible.of_lookup same⟩

theorem not_eligible_nil : ¬ Eligible table scope linkedSize outer [] candidate := by
  intro eligible
  obtain ⟨_, _, _, _, found⟩ := eligible.lookup
  cases found

theorem eligible_cons {name : String} {entry : Entry} {rest : List (String × Entry)}
    (fresh : name ∉ rest.map Prod.fst) :
    Eligible table scope linkedSize outer ((name, entry) :: rest) candidate ↔
      Eligible table scope linkedSize outer [(name, entry)] candidate ∨
        Eligible table scope linkedSize outer rest candidate := by
  by_cases first : candidate.place.head? = some name
  · have here : Eligible table scope linkedSize outer ((name, entry) :: rest) candidate ↔
        Eligible table scope linkedSize outer [(name, entry)] candidate := by
      apply eligible_congr
      intro other tail place
      rw [place] at first
      cases first
      rw [List.lookup_cons_self, List.lookup_cons_self]
    have notLater : ¬ Eligible table scope linkedSize outer rest candidate := by
      intro eligible
      obtain ⟨other, tail, found, place, there⟩ := eligible.lookup
      rw [place] at first
      cases first
      rw [Json.Fields.lookup_eq_none fresh] at there
      cases there
    rw [here, or_iff_left notLater]
  · have later : Eligible table scope linkedSize outer ((name, entry) :: rest) candidate ↔
        Eligible table scope linkedSize outer rest candidate := by
      apply eligible_congr
      intro other tail place
      have different : other ≠ name := by
        rintro rfl
        exact first (by rw [place]; rfl)
      rw [List.lookup_cons, beq_false_of_ne different]
    have notHere : ¬ Eligible table scope linkedSize outer [(name, entry)] candidate := by
      intro eligible
      obtain ⟨other, tail, found, place, there⟩ := eligible.lookup
      have same := Json.Fields.mem_of_lookup there
      rw [List.mem_singleton] at same
      cases same
      exact first (by rw [place]; rfl)
    rw [later, or_iff_right notHere]

theorem eligible_inOrder (distinct : (entries.map Prod.fst).Nodup) :
    Eligible table scope linkedSize outer (Entry.inOrder entries) candidate ↔
      Eligible table scope linkedSize outer entries candidate :=
  eligible_congr fun name _ _ => Entry.lookup_inOrder distinct name

/-- What is left out on the way to a file of a directory, seen from the directory around it. -/
theorem kept_under {name : String} {place : List String} :
    (∀ above other, above ++ [other] <+: name :: place →
        scope.excludes other (Text.join "/" (outer ++ (above ++ [other]))) = false) ↔
      scope.excludes name (Text.join "/" (outer ++ [name])) = false ∧
        ∀ above other, above ++ [other] <+: place →
          scope.excludes other (Text.join "/" (outer ++ [name] ++ (above ++ [other]))) = false := by
  constructor
  · intro kept
    refine ⟨kept [] name (List.prefix_append [name] place), ?_⟩
    intro above other before
    have within : name :: above ++ [other] <+: name :: place := List.cons_prefix_cons.mpr ⟨rfl, before⟩
    simpa using kept (name :: above) other within
  · rintro ⟨here, later⟩ above other before
    cases above with
    | nil =>
        obtain ⟨rfl, _⟩ := List.cons_prefix_cons.mp before
        exact here
    | cons first above =>
        obtain ⟨rfl, within⟩ := List.cons_prefix_cons.mp before
        simpa using later above other within

theorem eligible_under {name : String} {inner : List (String × Entry)} :
    Eligible table scope linkedSize outer [(name, .directory inner)] (candidate.under name) ↔
      scope.excludes name (Text.join "/" (outer ++ [name])) = false ∧
        Eligible table scope linkedSize (outer ++ [name]) inner candidate := by
  have reached : Entry.at? (candidate.under name).place [(name, .directory inner)] =
      Entry.at? candidate.place inner := Entry.at?_directory List.lookup_cons_self _
  have named (filled : candidate.place ≠ []) : (candidate.under name).name = candidate.name := by
    unfold Candidate.name Candidate.under
    cases place : candidate.place with
    | nil => exact absurd place filled
    | cons first tail => rfl
  have path := Candidate.path_under outer name candidate
  constructor
  · rintro ⟨⟨entry, found, sized⟩, supported, included, kept⟩
    rw [reached] at found
    have filled : candidate.place ≠ [] := by
      intro empty
      rw [empty] at found
      cases found
      cases sized
    rw [named filled] at supported included
    rw [path] at sized included
    obtain ⟨here, later⟩ := kept_under.mp kept
    exact ⟨here, ⟨entry, found, sized⟩, supported, included, later⟩
  · rintro ⟨here, eligible⟩
    obtain ⟨first, tail, _, place, _⟩ := eligible.lookup
    have filled : candidate.place ≠ [] := by simp [place]
    obtain ⟨⟨entry, found, sized⟩, supported, included, later⟩ := eligible
    rw [← named filled] at supported included
    rw [← path] at sized included
    exact ⟨⟨entry, reached.trans found, sized⟩, supported, included, kept_under.mpr ⟨here, later⟩⟩

theorem Eligible.place_singleton {name : String} {entry : Entry}
    (eligible : Eligible table scope linkedSize outer [(name, entry)] candidate) :
    ∃ tail, candidate.place = name :: tail := by
  obtain ⟨other, tail, found, place, there⟩ := eligible.lookup
  cases List.mem_singleton.mp (Json.Fields.mem_of_lookup there)
  exact ⟨tail, place⟩

theorem mem_own {name : String} {entry : Entry} :
    candidate ∈ own table scope linkedSize outer name entry ↔
      candidate.place = [name] ∧ sizeAt linkedSize (Text.join "/" (outer ++ [name])) entry = some candidate.size ∧
        table.supports name = true ∧ scope.includes name (Text.join "/" (outer ++ [name])) = true := by
  unfold own
  dsimp only
  cases sizeAt linkedSize (Text.join "/" (outer ++ [name])) entry with
  | none => simp
  | some size =>
      dsimp only
      rw [← Bool.and_eq_true]
      cases table.supports name && scope.includes name (Text.join "/" (outer ++ [name])) with
      | false => simp
      | true =>
          rw [if_pos rfl, List.mem_singleton]
          constructor
          · rintro rfl
            exact ⟨rfl, rfl, rfl⟩
          · intro ⟨place, same, _⟩
            cases candidate
            cases place
            cases same
            rfl

theorem eligible_leaf {name : String} {entry : Entry} (leaf : ∀ inner, entry ≠ .directory inner) :
    Eligible table scope linkedSize outer [(name, entry)] candidate ↔
      scope.excludes name (Text.join "/" (outer ++ [name])) = false ∧
        candidate ∈ own table scope linkedSize outer name entry := by
  have listed : [(name, entry)].lookup name = some entry := List.lookup_cons_self
  have reached := Entry.at?_leaf listed leaf
  rw [mem_own]
  cases candidate with
  | mk place size =>
    constructor
    · intro eligible
      obtain ⟨tail, rfl⟩ := eligible.place_singleton
      obtain ⟨⟨found, there, sized⟩, supported, included, kept⟩ := eligible
      rw [reached] at there
      cases tail with
      | cons first tail => cases there
      | nil =>
          cases there
          exact ⟨(kept_under.mp kept).1, rfl, sized, supported, included⟩
    · intro ⟨here, only, sized, supported, included⟩
      cases only
      refine ⟨⟨entry, reached [], sized⟩, supported, included, kept_under.mpr ⟨here, ?_⟩⟩
      intro above other before
      exact absurd (List.prefix_nil.mp before) (by simp)

theorem eligible_cons_of_excluded {name : String} {entry : Entry} {rest : List (String × Entry)}
    (fresh : name ∉ rest.map Prod.fst) (excluded : scope.excludes name (Text.join "/" (outer ++ [name])) = true) :
    Eligible table scope linkedSize outer ((name, entry) :: rest) candidate ↔
      Eligible table scope linkedSize outer rest candidate := by
  rw [eligible_cons fresh]
  apply or_iff_right
  intro eligible
  obtain ⟨tail, place⟩ := eligible.place_singleton
  have kept := eligible.kept
  rw [place] at kept
  rw [(kept_under.mp kept).1] at excluded
  cases excluded

/-- In the order of the walk stand exactly the files that can take part. -/
theorem mem_candidates (proper : (Entry.directory entries).Proper) :
    candidate ∈ candidates table scope linkedSize outer entries ↔
      Eligible table scope linkedSize outer entries candidate := by
  fun_induction candidates table scope linkedSize outer entries generalizing candidate with
  | case1 outer => exact iff_of_false List.not_mem_nil not_eligible_nil
  | case2 outer name inner rest excluded ih =>
      obtain ⟨fresh, _, _, later⟩ := proper.cons
      rw [eligible_cons_of_excluded fresh excluded, ih later]
  | case3 outer name inner rest kept ihInner ihRest =>
      obtain ⟨fresh, _, inside, later⟩ := proper.cons
      rw [List.mem_append, eligible_cons fresh, ihRest later, List.mem_map]
      refine or_congr_left ?_
      constructor
      · rintro ⟨below, member, rfl⟩
        rw [ihInner inside.inOrder, eligible_inOrder inside.distinct] at member
        exact eligible_under.mpr ⟨eq_false_of_ne_true kept, member⟩
      · intro eligible
        obtain ⟨tail, place⟩ := eligible.place_singleton
        have same : Candidate.under name { place := tail, size := candidate.size } = candidate := by
          unfold Candidate.under
          rw [← place]
        rw [← same] at eligible
        refine ⟨_, ?_, same⟩
        rw [ihInner inside.inOrder, eligible_inOrder inside.distinct]
        exact (eligible_under.mp eligible).2
  | case4 outer name entry rest leaf excluded ih =>
      obtain ⟨fresh, _, _, later⟩ := proper.cons
      rw [eligible_cons_of_excluded fresh excluded, ih later]
  | case5 outer name entry rest leaf kept ih =>
      obtain ⟨fresh, _, _, later⟩ := proper.cons
      rw [List.mem_append, eligible_cons fresh, ih later, eligible_leaf leaf,
        and_iff_right (eq_false_of_ne_true kept)]

/-- Files under a name come before those under the names behind it. -/
theorem place_lt {name : String} {rest : List (String × Entry)} (later : (Entry.directory rest).Proper)
    (least : ∀ field ∈ rest, name < field.1) {tail : List String} {other : Candidate}
    (member : other ∈ candidates table scope linkedSize outer rest) : name :: tail < other.place := by
  obtain ⟨second, others, _, place, there⟩ := ((mem_candidates later).mp member).lookup
  rw [place, List.cons_lt_cons_iff]
  exact Or.inl (least _ (Json.Fields.mem_of_lookup there))

/-- The places rise from each file to the next. -/
theorem candidates_ascending (proper : (Entry.directory entries).Proper)
    (sorted : entries.Pairwise fun left right => left.1 < right.1) :
    (candidates table scope linkedSize outer entries).Pairwise fun left right => left.place < right.place := by
  fun_induction candidates table scope linkedSize outer entries with
  | case1 => exact List.Pairwise.nil
  | case2 outer name inner rest excluded ih => exact ih proper.cons.2.2.2 sorted.of_cons
  | case3 outer name inner rest kept ihInner ihRest =>
      obtain ⟨_, _, inside, later⟩ := proper.cons
      have below := ihInner inside.inOrder (Entry.inOrder_ascending inside.distinct)
      refine List.pairwise_append.mpr ⟨?_, ihRest later sorted.of_cons, ?_⟩
      · refine List.pairwise_map.mpr (below.imp ?_)
        intro left right smaller
        exact List.cons_lt_cons_iff.mpr (Or.inr ⟨rfl, smaller⟩)
      · intro first member second memberLater
        obtain ⟨below, _, rfl⟩ := List.mem_map.mp member
        exact place_lt later (List.pairwise_cons.mp sorted).1 memberLater
  | case4 outer name entry rest leaf excluded ih => exact ih proper.cons.2.2.2 sorted.of_cons
  | case5 outer name entry rest leaf kept ih =>
      obtain ⟨_, _, _, later⟩ := proper.cons
      refine List.pairwise_append.mpr ⟨?_, ih later sorted.of_cons, ?_⟩
      · unfold own
        dsimp only
        split
        · split
          · exact List.pairwise_singleton _ _
          · exact List.Pairwise.nil
        · exact List.Pairwise.nil
      · intro first member second memberLater
        rw [(mem_own.mp member).1]
        exact place_lt later (List.pairwise_cons.mp sorted).1 memberLater

end ChangeImpact.Discovery
