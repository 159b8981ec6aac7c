import ChangeImpact.Proofs.DottedNames
import ChangeImpact.Proofs.PathSpecifiers

/-!
Candidates and the project. A path stays inside of the directory that it starts from if it has no slash in front and no
part of it goes up. The candidates of path specifiers do, except for those that lead to the directory directly above the
top; the candidates of dotted names do, except for names that go on with a slash behind the dots.
-/

set_option autoImplicit false

namespace ChangeImpact

/-! ### Pieces of composed texts -/

namespace Text

variable {separator : Char}

/-- Where two texts meet, the last piece of one and the first piece of the other become one piece. -/
theorem cut_concat {front back last first : List Char} {pieces others : List (List Char)}
    (before : cut separator front = pieces ++ [last]) (behind : cut separator back = first :: others) :
    cut separator (front ++ back) = pieces ++ (last ++ first) :: others := by
  induction front generalizing pieces last with
  | nil =>
      obtain ⟨rfl, same⟩ := List.append_eq_singleton_iff.mp before.symm |>.resolve_right (by simp)
      cases same
      exact behind
  | cons c rest ih =>
      obtain ⟨piece, tail, here⟩ := exists_cut separator rest
      rw [List.cons_append]
      -- The pieces before the last one may be none: then the front is its own last piece.
      by_cases mark : c = separator
      · subst mark
        rw [cut_separator] at before ⊢
        cases pieces with
        | nil => exact absurd (List.cons.inj before).2 (cut_ne_nil rest)
        | cons next later =>
            obtain ⟨rfl, shorter⟩ := List.cons.inj before
            rw [ih shorter, List.cons_append]
      · rw [cut_plain mark here] at before
        cases pieces with
        | nil =>
            obtain ⟨rfl, rfl⟩ := List.cons.inj before
            have shorter : cut separator rest = [] ++ [piece] := here
            exact cut_plain mark (ih shorter)
        | cons next later =>
            obtain ⟨rfl, rfl⟩ := List.cons.inj before
            have shorter : cut separator rest = (piece :: later) ++ [last] := here
            exact cut_plain mark (ih shorter)

theorem exists_cut_last (text : List Char) : ∃ pieces last, cut separator text = pieces ++ [last] := by
  rcases List.eq_nil_or_concat (cut separator text) with none | ⟨pieces, last, whole⟩
  · exact absurd none (cut_ne_nil text)
  · exact ⟨pieces, last, whole.trans (List.concat_eq_append)⟩

/-- A plain text at the end becomes the end of the last piece. -/
theorem mem_cut_append {front tail piece : List Char} (plain : separator ∉ tail)
    (member : piece ∈ cut separator (front ++ tail)) : piece ∈ cut separator front ∨ ∃ last, piece = last ++ tail := by
  obtain ⟨pieces, last, before⟩ := exists_cut_last front
  rw [cut_concat before (cut_of_not_mem plain), List.mem_append, List.mem_singleton] at member
  rw [before]
  rcases member with early | rfl
  · exact Or.inl (List.mem_append_left _ early)
  · exact Or.inr ⟨last, rfl⟩

theorem mem_cut_mark {mark : Char} (different : mark ≠ separator) {front back piece : List Char}
    (member : piece ∈ cut separator (front ++ mark :: back)) :
    piece ∈ cut separator front ∨ mark ∈ piece ∨ piece ∈ cut separator back := by
  obtain ⟨pieces, last, before⟩ := exists_cut_last front
  obtain ⟨first, others, behind⟩ := exists_cut separator back
  rw [cut_concat before (cut_plain different behind), List.mem_append, List.mem_cons] at member
  rw [before, behind]
  rcases member with early | rfl | late
  · exact Or.inl (List.mem_append_left _ early)
  · exact Or.inr (Or.inl (List.mem_append_right _ List.mem_cons_self))
  · exact Or.inr (Or.inr (List.mem_cons_of_mem _ late))

theorem mem_of_mem_cut {text piece : List Char} (listed : piece ∈ cut separator text) : ∀ c ∈ piece, c ∈ text := by
  induction text generalizing piece with
  | nil =>
      rw [List.mem_singleton.mp listed]
      exact List.forall_mem_nil _
  | cons d rest ih =>
      obtain ⟨first, others, here⟩ := exists_cut separator rest
      by_cases mark : d = separator
      · subst mark
        rw [cut_separator] at listed
        rcases List.mem_cons.mp listed with rfl | later
        · exact List.forall_mem_nil _
        · exact fun c member => List.mem_cons_of_mem _ (ih later c member)
      · rw [cut_plain mark here] at listed
        rw [here] at ih
        rcases List.mem_cons.mp listed with rfl | later
        · exact List.forall_mem_cons.mpr
            ⟨List.mem_cons_self, fun c member => List.mem_cons_of_mem _ (ih List.mem_cons_self c member)⟩
        · exact fun c member => List.mem_cons_of_mem _ (ih (List.mem_cons_of_mem _ later) c member)

theorem mem_split_iff {path part : String} : part ∈ split separator path ↔ part.toList ∈ cut separator path.toList := by
  unfold split
  rw [List.mem_map]
  constructor
  · rintro ⟨piece, listed, rfl⟩
    rwa [String.toList_ofList]
  · intro listed
    exact ⟨part.toList, listed, String.ofList_toList⟩

end Text

/-! ### Paths that stay inside -/

namespace Path

/-- A path that leads from a directory to something in it: it has no slash in front and no part goes up. -/
def StaysInside (path : String) : Prop := isRooted path = false ∧ ".." ∉ Text.split '/' path

instance (path : String) : Decidable (StaysInside path) := inferInstanceAs (Decidable (_ ∧ _))

variable {path tail inner : String} {parts directory : List String}

theorem isRooted_append (filled : path ≠ "") (rest : String) : isRooted (path ++ rest) = isRooted path := by
  have chars : path.toList ≠ [] := fun empty => filled (String.toList_eq_nil_iff.mp empty)
  rw [Bool.eq_iff_iff, isRooted_iff, isRooted_iff, String.toList_append, List.head?_append_of_ne_nil _ chars]

theorem StaysInside.append (stays : StaysInside path) (filled : path ≠ "") (plain : '/' ∉ tail.toList)
    (long : 2 < tail.toList.length) : StaysInside (path ++ tail) := by
  refine ⟨(isRooted_append filled tail).trans stays.1, fun up => ?_⟩
  rw [Text.mem_split_iff, String.toList_append] at up
  rcases Text.mem_cut_append plain up with early | ⟨last, whole⟩
  · exact stays.2 (Text.mem_split_iff.mpr early)
  · -- The tail ends one part and is longer than two dots.
    have lengths := congrArg List.length whole
    have dots : "..".toList.length = 2 := rfl
    rw [dots, List.length_append] at lengths
    omega

theorem StaysInside.below (stays : StaysInside path) (filled : path ≠ "") (further : ".." ∉ Text.split '/' inner) :
    StaysInside (path ++ "/" ++ inner) := by
  constructor
  · rw [String.append_assoc]
    exact (isRooted_append filled _).trans stays.1
  · rw [Text.split_slash, List.mem_append]
    exact not_or.mpr ⟨stays.2, further⟩

theorem staysInside_join (ordinary : ∀ part ∈ parts, IsOrdinary part) : StaysInside (Text.join "/" parts) := by
  refine ⟨isRooted_join (isPart_of_ordinary ordinary), ?_⟩
  by_cases empty : parts = []
  · rw [empty]
    decide
  · rw [split_join empty fun part member => (ordinary part member).plain]
    exact fun up => (ordinary _ up).notUp rfl

end Path

namespace ModulePath

theorem scriptTrials_staysInside {base : String} (stays : Path.StaysInside base) (filled : base ≠ "") :
    ∀ path ∈ scriptTrials base, Path.StaysInside path := by
  have endings : ∀ ending ∈ scriptEndings, '/' ∉ ending.toList ∧ 2 < ending.toList.length := by decide
  have index : ∀ ending ∈ scriptEndings, ".." ∉ Text.split '/' ("index" ++ ending) := by decide
  intro path member
  unfold scriptTrials at member
  rcases List.mem_append.mp member with direct | inFolder
  · rcases List.mem_append.mp direct with own | ended
    · split at own
      · rwa [List.mem_singleton.mp own]
      · cases own
    · obtain ⟨ending, listed, rfl⟩ := List.mem_map.mp ended
      exact stays.append filled (endings ending listed).1 (endings ending listed).2
  · obtain ⟨ending, listed, rfl⟩ := List.mem_map.mp inFolder
    have apart : base ++ "/index" ++ ending = base ++ "/" ++ ("index" ++ ending) := by
      have written : "/index" = "/" ++ "index" := by decide
      rw [written]
      simp only [String.append_assoc]
    rw [apart]
    exact stays.below filled (index ending listed)

theorem moduleFiles_staysInside {stem : String} (stays : Path.StaysInside stem) :
    ∀ path ∈ moduleFiles stem, Path.StaysInside path := by
  intro path member
  unfold moduleFiles at member
  split at member
  · rw [List.mem_singleton.mp member]
    decide
  · rename_i filled
    rcases List.mem_cons.mp member with rfl | package
    · exact stays.append filled (by decide) (by decide)
    · have apart : stem ++ "/__init__.py" = stem ++ "/" ++ "__init__.py" := by
        have written : "/__init__.py" = "/" ++ "__init__.py" := by decide
        rw [written, String.append_assoc]
      rw [List.mem_singleton.mp package, apart]
      exact stays.below filled (by decide)

theorem moduleFiles_ne_nil (stem : String) : moduleFiles stem ≠ [] := by
  unfold moduleFiles
  split
  · exact List.cons_ne_nil _ _
  · exact List.cons_ne_nil _ _

theorem up_not_mem_behindDots (specifier : String) : ".." ∉ Text.split '/' (behindDots specifier) := by
  intro up
  have dot := Text.mem_of_mem_cut (Text.mem_split_iff.mp up) '.' (by decide)
  unfold behindDots Text.exchange at dot
  rw [String.toList_ofList] at dot
  -- Each character is either a slash put for a dot or no dot at all.
  obtain ⟨c, _, swapped⟩ := List.mem_map.mp dot
  split at swapped
  · exact absurd swapped (by decide)
  · rename_i different
    exact different swapped

/-- The files of a place lie inside of the project, unless the place is the directory directly above. -/
theorem filesOf_staysInside_iff {place : Place} :
    (∀ path ∈ filesOf place, Path.StaysInside path) ↔ place ≠ .overTop := by
  constructor
  · rintro inside rfl
    exact absurd (inside "../index.js" (by decide)) (by decide)
  · intro other path member
    unfold filesOf at member
    split at member
    · cases member
    · rename_i means
      obtain ⟨some, notAbove⟩ := not_or.mp means
      have direct : place.parts ≠ [".."] := mt Place.parts_eq_up_iff.mp other
      have top : place.above = 0 := Nat.eq_zero_of_not_pos fun above => notAbove ⟨above, direct⟩
      have ordinary : ∀ part ∈ place.parts, Path.IsOrdinary part := by
        rw [parts_of_below top]
        exact fun part listed => place.ordinary part (List.mem_reverse.mp listed)
      exact scriptTrials_staysInside (Path.staysInside_join ordinary)
        (Path.join_ne_empty_of_parts some Place.isPart_of_mem_parts) path member

theorem startingPoints_ne_nil (dots : Nat) (directory : String) : startingPoints dots directory ≠ [] := by
  cases dots with
  | zero =>
      unfold startingPoints
      dsimp only
      split
      · exact List.cons_ne_nil _ _
      · exact List.cons_ne_nil _ _
  | succ levels => exact List.cons_ne_nil _ _

theorem exists_row_of_mem_startingPoints {dots : Nat} {directory : List String}
    (isPart : ∀ part ∈ directory, Path.IsPart part) {root : String}
    (starting : root ∈ startingPoints dots (Text.join "/" directory)) :
    ∃ row, (∀ part ∈ row, part ∈ directory) ∧ root = Text.join "/" row := by
  have top : ∀ part ∈ ([] : List String), part ∈ directory := List.forall_mem_nil _
  cases dots with
  | zero =>
      unfold startingPoints at starting
      dsimp only at starting
      split at starting
      · exact ⟨[], top, List.mem_singleton.mp starting⟩
      · rcases List.mem_cons.mp starting with rfl | own
        · exact ⟨[], top, rfl⟩
        · exact ⟨directory, fun _ member => member, List.mem_singleton.mp own⟩
  | succ levels =>
      refine ⟨directory.take (directory.length - levels), fun _ member => List.mem_of_mem_take member, ?_⟩
      rw [List.mem_singleton.mp starting, ancestor_join isPart]

/-- The candidates of a dotted name lie inside of the project, unless it goes on with a slash behind its dots. -/
theorem dotted_staysInside_iff {directory : List String} {name specifier : String}
    (inside : ∀ part ∈ directory, Path.IsOrdinary part) (plain : '/' ∉ name.toList)
    (dotted : usesDottedNames (Text.join "/" (directory ++ [name])) = true) :
    (∀ path ∈ candidates specifier (Text.join "/" (directory ++ [name])), Path.StaysInside path) ↔
      Path.isRooted (behindDots specifier) = false := by
  have isPart := Path.isPart_of_ordinary inside
  rw [candidates_dotted isPart plain dotted]
  constructor
  · intro stay
    by_contra rooted
    rw [Bool.not_eq_false] at rooted
    obtain ⟨root, starting⟩ := List.exists_mem_of_ne_nil _ (startingPoints_ne_nil (leadingDots specifier) _)
    have filled : behindDots specifier ≠ "" := by
      intro empty
      rw [empty] at rooted
      exact absurd rooted (by decide)
    -- A path with a slash in front is taken from no directory: it stays as it is.
    have whole : Path.join root (behindDots specifier) = behindDots specifier := if_pos rooted
    have listed : behindDots specifier ++ ".py" ∈ moduleFiles (behindDots specifier) := by
      unfold moduleFiles
      rw [if_neg filled]
      exact List.mem_cons_self
    have kept := stay (behindDots specifier ++ ".py")
      (List.mem_flatMap.mpr ⟨root, starting, by rwa [if_neg filled, whole]⟩)
    exact absurd (((Path.isRooted_append filled _).symm.trans kept.1).symm.trans rooted) (by decide)
  · intro relative path member
    obtain ⟨root, starting, tried⟩ := List.mem_flatMap.mp member
    obtain ⟨row, within, rfl⟩ := exists_row_of_mem_startingPoints isPart starting
    have ordinary : ∀ part ∈ row, Path.IsOrdinary part := fun part listed => inside part (within part listed)
    have rowPart := Path.isPart_of_ordinary ordinary
    refine moduleFiles_staysInside ?_ path tried
    split
    · exact Path.staysInside_join ordinary
    · refine ⟨Path.isRooted_join_path rowPart relative, ?_⟩
      rw [Path.split_join_path rowPart relative, List.mem_append]
      exact not_or.mpr ⟨fun up => (ordinary _ up).notUp rfl, up_not_mem_behindDots specifier⟩

end ModulePath

end ChangeImpact
