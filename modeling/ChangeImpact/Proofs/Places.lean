import ChangeImpact.Proofs.Directories
import ChangeImpact.Proofs.Propagation

/-!
Where paths lead. A path without a slash in front leads so many levels above its start and then down by names, as its
parts are taken one after the other. To normalize such a path is to write down where it leads; the parent of a path and
a path joined to a directory are told by their parts as well.
-/

set_option autoImplicit false

namespace ChangeImpact

/-! ### Paths and their parts -/

namespace Text

theorem cut_of_not_mem {separator : Char} {text : List Char} (plain : separator ∉ text) :
    cut separator text = [text] := by
  induction text with
  | nil => rfl
  | cons c rest ih =>
      have different : c ≠ separator := fun same => plain (same ▸ List.mem_cons_self)
      exact cut_plain different (ih fun member => plain (List.mem_cons_of_mem _ member))

theorem split_of_not_mem {separator : Char} {text : String} (plain : separator ∉ text.toList) :
    split separator text = [text] := by
  unfold split
  rw [cut_of_not_mem plain, List.map_singleton, String.ofList_toList]

theorem exchange_append (old new : Char) (front back : String) :
    exchange old new (front ++ back) = exchange old new front ++ exchange old new back := by
  unfold exchange
  rw [String.toList_append, List.map_append, String.ofList_append]

theorem split_slash (front back : String) :
    split '/' (front ++ "/" ++ back) = split '/' front ++ split '/' back := by
  have slash : "/".toList = ['/'] := rfl
  unfold split
  rw [String.toList_append, String.toList_append, slash, List.append_assoc, List.singleton_append, cut_join,
    List.map_append]

theorem split_plain (path : String) : ∀ part ∈ split '/' path, '/' ∉ part.toList := by
  intro part member
  obtain ⟨piece, listed, rfl⟩ := List.mem_map.mp member
  rw [String.toList_ofList]
  exact Path.mark_not_mem_cut _ piece listed

/-- One mark at the end of a text is taken off where the text itself does not end in one. -/
theorem dropEndWhile_concat {test : Char → Bool} {text : List Char} {mark : Char} (dropped : test mark = true)
    (stays : ∀ last ∈ text.getLast?, test last = false) : dropEndWhile test (text ++ [mark]) = text := by
  unfold dropEndWhile
  rw [List.reverse_append, List.reverse_singleton, List.singleton_append, List.dropWhile_cons_of_pos dropped]
  rw [← List.head?_reverse] at stays
  cases back : text.reverse with
  | nil => rw [List.dropWhile_nil, ← back, List.reverse_reverse]
  | cons last rest =>
      rw [back] at stays
      rw [List.dropWhile_cons_of_neg (by simp [stays last rfl]), ← back, List.reverse_reverse]

end Text

namespace Path

/-- A name that leads one level down: it has no slash, and it is neither empty nor one or two dots. -/
structure IsOrdinary (name : String) : Prop where
  plain : '/' ∉ name.toList
  filled : name ≠ ""
  notHere : name ≠ "."
  notUp : name ≠ ".."

instance (name : String) : Decidable (IsOrdinary name) :=
  decidable_of_iff ('/' ∉ name.toList ∧ name ≠ "" ∧ name ≠ "." ∧ name ≠ "..")
    ⟨fun holds => ⟨holds.1, holds.2.1, holds.2.2.1, holds.2.2.2⟩,
      fun ordinary => ⟨ordinary.plain, ordinary.filled, ordinary.notHere, ordinary.notUp⟩⟩

/-- A part of a path as a slash on both sides leaves it: not empty, and without a slash. -/
def IsPart (part : String) : Prop := part ≠ "" ∧ '/' ∉ part.toList

instance (part : String) : Decidable (IsPart part) := inferInstanceAs (Decidable (_ ∧ _))

theorem IsOrdinary.isPart {name : String} (ordinary : IsOrdinary name) : IsPart name :=
  ⟨ordinary.filled, ordinary.plain⟩

theorem isPart_of_ordinary {names : List String} (ordinary : ∀ name ∈ names, IsOrdinary name) :
    ∀ name ∈ names, IsPart name :=
  fun name member => (ordinary name member).isPart

theorem IsPart.isName {part : String} (isPart : IsPart part) : IsName part :=
  ⟨isPart.1, fun member => isPart.2 (List.mem_of_mem_tail member)⟩

variable {parts directory : List String}

theorem join_ne_empty_of_parts (filled : parts ≠ []) (isPart : ∀ part ∈ parts, IsPart part) :
    Text.join "/" parts ≠ "" :=
  join_ne_empty filled fun part member => (isPart part member).isName

theorem split_join (filled : parts ≠ []) (plain : ∀ part ∈ parts, '/' ∉ part.toList) :
    Text.split '/' (Text.join "/" parts) = parts := by
  induction parts using List.reverseRecOn with
  | nil => exact absurd rfl filled
  | append_singleton outer name ih =>
      obtain ⟨outerPlain, namePlain⟩ := List.forall_mem_append.mp plain
      have last := Text.split_of_not_mem (namePlain name (List.mem_singleton_self name))
      rw [join_concat]
      by_cases empty : outer = []
      · rw [if_pos empty, last, empty]
        rfl
      · rw [if_neg empty, Text.split_slash, ih empty outerPlain, last]

theorem isRooted_iff {path : String} : isRooted path = true ↔ path.toList.head? = some '/' := by
  have slash : "/".toList = ['/'] := rfl
  unfold isRooted Text.startsWith
  rw [slash, List.isPrefixOf_iff_prefix]
  cases path.toList with
  | nil => decide
  | cons c rest => simp [eq_comm]

theorem endsWith_slash_iff {path : String} : Text.endsWith path "/" = true ↔ path.toList.getLast? = some '/' := by
  have slash : "/".toList = ['/'] := rfl
  rw [Text.endsWith_iff, slash, List.getLast?_eq_some_iff]

theorem join_ends (isPart : ∀ part ∈ parts, IsPart part) :
    (Text.join "/" parts).toList.head? ≠ some '/' ∧ (Text.join "/" parts).toList.getLast? ≠ some '/' := by
  have chars : ∀ part ∈ parts, part.toList ≠ [] := fun part member empty =>
    (isPart part member).1 (String.toList_eq_nil_iff.mp empty)
  constructor
  · cases parts with
    | nil => decide
    | cons first rest =>
        intro slash
        rw [toList_join_cons, List.head?_append_of_ne_nil _ (chars first List.mem_cons_self)] at slash
        exact (isPart first List.mem_cons_self).2 (List.mem_of_mem_head? slash)
  · rcases List.eq_nil_or_concat parts with rfl | ⟨outer, name, rfl⟩
    · decide
    · have member : name ∈ outer.concat name := by simp
      intro slash
      apply (isPart name member).2
      rw [List.concat_eq_append, join_concat] at slash
      split at slash
      · exact List.mem_of_mem_getLast? slash
      · rw [String.toList_append, List.getLast?_append_of_ne_nil _ (chars name member)] at slash
        exact List.mem_of_mem_getLast? slash

theorem isRooted_join (isPart : ∀ part ∈ parts, IsPart part) : isRooted (Text.join "/" parts) = false := by
  rw [← Bool.not_eq_true, isRooted_iff]
  exact (join_ends isPart).1

theorem parent_join (isPart : ∀ part ∈ directory, IsPart part) {name : String} (plain : '/' ∉ name.toList) :
    parent (Text.join "/" (directory ++ [name])) = Text.join "/" directory := by
  have slash : "/".toList = ['/'] := rfl
  rw [join_concat]
  unfold parent
  by_cases empty : directory = []
  · have none : Text.splitLast '/' name.toList = none := by
      unfold Text.splitLast
      rw [List.span_eq_takeWhile_dropWhile, List.dropWhile_eq_nil_iff.mpr]
      intro c member
      exact decide_eq_true fun same => plain (same ▸ List.mem_reverse.mp member)
    rw [if_pos empty, none, empty]
    rfl
  · have whole : (Text.join "/" directory ++ "/" ++ name).toList =
        (Text.join "/" directory).toList ++ '/' :: name.toList := by
      rw [String.toList_append, String.toList_append, slash, List.append_assoc, List.singleton_append]
    have filled : (Text.join "/" directory).toList ≠ [] := fun none =>
      join_ne_empty_of_parts empty isPart (String.toList_eq_nil_iff.mp none)
    have kept : Text.dropEndWhile (· = '/') ((Text.join "/" directory).toList ++ ['/']) =
        (Text.join "/" directory).toList := by
      refine Text.dropEndWhile_concat (by decide) fun last found => decide_eq_false ?_
      rintro rfl
      exact (join_ends isPart).2 found
    rw [if_neg empty, whole, Text.splitLast_append '/' _ plain]
    dsimp only
    rw [kept, if_neg (by simpa using filled), String.ofList_toList]

theorem join_of_parts (isPart : ∀ part ∈ directory, IsPart part) {path : String} (relative : isRooted path = false) :
    join (Text.join "/" directory) path =
      if directory = [] then path else Text.join "/" directory ++ "/" ++ path := by
  have stays : Text.endsWith (Text.join "/" directory) "/" = false := by
    rw [← Bool.not_eq_true, endsWith_slash_iff]
    exact (join_ends isPart).2
  unfold join
  rw [if_neg (by simp [relative])]
  by_cases empty : directory = []
  · rw [if_pos (by rw [empty]; rfl), if_pos empty, empty]
    exact String.empty_append
  · rw [if_neg (by simp [join_ne_empty_of_parts empty isPart, stays]), if_neg empty]

theorem split_join_path (isPart : ∀ part ∈ directory, IsPart part) {path : String} (relative : isRooted path = false) :
    Text.split '/' (join (Text.join "/" directory) path) = directory ++ Text.split '/' path := by
  rw [join_of_parts isPart relative]
  by_cases empty : directory = []
  · rw [if_pos empty, empty, List.nil_append]
  · rw [if_neg empty, Text.split_slash, split_join empty fun part member => (isPart part member).2]

theorem isRooted_join_path (isPart : ∀ part ∈ directory, IsPart part) {path : String}
    (relative : isRooted path = false) : isRooted (join (Text.join "/" directory) path) = false := by
  rw [join_of_parts isPart relative]
  by_cases empty : directory = []
  · rw [if_pos empty, relative]
  · have chars : (Text.join "/" directory).toList ≠ [] := fun none =>
      join_ne_empty_of_parts empty isPart (String.toList_eq_nil_iff.mp none)
    rw [if_neg empty, ← Bool.not_eq_true, isRooted_iff, String.toList_append, String.toList_append,
      List.append_assoc, List.head?_append_of_ne_nil _ chars]
    exact (join_ends isPart).1

end Path

/-! ### Places -/

/-- Where a path leads: so many levels above its start, then down by names, of which the last stands first. -/
@[ext]
structure Place where
  above : Nat
  below : List String
  ordinary : ∀ name ∈ below, Path.IsOrdinary name

namespace Place

def start : Place := ⟨0, [], List.forall_mem_nil _⟩

def enter (place : Place) (name : String) (isOrdinary : Path.IsOrdinary name) : Place :=
  { place with
    below := name :: place.below
    ordinary := List.forall_mem_cons.mpr ⟨isOrdinary, place.ordinary⟩ }

def leave (place : Place) : Place :=
  { above := if place.below = [] then place.above + 1 else place.above
    below := place.below.tail
    ordinary := fun name member => place.ordinary name (List.mem_of_mem_tail member) }

def step (place : Place) (part : String) : Place :=
  if isOrdinary : Path.IsOrdinary part then place.enter part isOrdinary
  else if part = ".." then place.leave
  else place

def ofParts (parts : List String) : Place := parts.foldl step start

def parts (place : Place) : List String := List.replicate place.above ".." ++ place.below.reverse

def path (place : Place) : String :=
  if place.parts = [] then "." else Text.join "/" place.parts

variable {place : Place}

@[simp]
theorem leave_above : place.leave.above = if place.below = [] then place.above + 1 else place.above := rfl

@[simp]
theorem leave_below : place.leave.below = place.below.tail := rfl

theorem step_of_ordinary {name : String} (isOrdinary : Path.IsOrdinary name) :
    place.step name = place.enter name isOrdinary := dif_pos isOrdinary

theorem step_up : place.step ".." = place.leave := by
  have strange : ¬ Path.IsOrdinary ".." := by decide
  unfold step
  rw [dif_neg strange, if_pos rfl]

theorem step_here : place.step "." = place := by
  have strange : ¬ Path.IsOrdinary "." := by decide
  unfold step
  rw [dif_neg strange, if_neg (by decide)]

theorem step_empty : place.step "" = place := by
  have strange : ¬ Path.IsOrdinary "" := by decide
  unfold step
  rw [dif_neg strange, if_neg (by decide)]

theorem reverse_parts (place : Place) : place.parts.reverse = place.below ++ List.replicate place.above ".." := by
  unfold parts
  rw [List.reverse_append, List.reverse_reverse, List.reverse_replicate]

/-- The reduction of a path keeps its parts in a list; each part changes that list as it changes the place. -/
theorem step_parts (place : Place) {part : String} (plain : '/' ∉ part.toList) :
    Path.step false place.parts.reverse part = (place.step part).parts.reverse := by
  unfold Path.step
  by_cases blank : part = "" ∨ part = "."
  · rw [if_pos (by simpa using blank)]
    rcases blank with rfl | rfl
    · rw [step_empty]
    · rw [step_here]
  · rw [if_neg (by simpa using blank), reverse_parts, reverse_parts]
    obtain ⟨filled, notHere⟩ := not_or.mp blank
    by_cases up : part = ".."
    · subst up
      -- Nothing is left to take back exactly when nothing is kept or only levels up are.
      rw [if_neg (by decide), step_up, leave_above, leave_below]
      cases below : place.below with
      | nil =>
          cases place.above with
          | zero => rfl
          | succ levels => rfl
      | cons name outer =>
          have notUp := (place.ordinary name (below ▸ List.mem_cons_self)).notUp
          simp [notUp]
    · rw [if_pos (by simpa using up), step_of_ordinary ⟨plain, filled, notHere, up⟩]
      rfl

theorem foldl_parts {given : List String} (plain : ∀ part ∈ given, '/' ∉ part.toList) (place : Place) :
    given.foldl (Path.step false) place.parts.reverse = (given.foldl step place).parts.reverse := by
  induction given generalizing place with
  | nil => rfl
  | cons part rest ih =>
      obtain ⟨here, later⟩ := List.forall_mem_cons.mp plain
      rw [List.foldl_cons, List.foldl_cons, step_parts place here, ih later]

theorem isPart_of_mem_parts : ∀ part ∈ place.parts, Path.IsPart part := by
  intro part member
  rcases List.mem_append.mp member with up | down
  · rw [List.eq_of_mem_replicate up]
    decide
  · exact (place.ordinary part (List.mem_reverse.mp down)).isPart

/-! ### Rows of steps -/

theorem foldl_ordinary {names : List String} (isOrdinary : ∀ name ∈ names, Path.IsOrdinary name) (place : Place) :
    (names.foldl step place).above = place.above ∧
      (names.foldl step place).below = names.reverse ++ place.below := by
  induction names generalizing place with
  | nil => exact ⟨rfl, rfl⟩
  | cons name rest ih =>
      obtain ⟨here, later⟩ := List.forall_mem_cons.mp isOrdinary
      obtain ⟨above, below⟩ := ih later (place.enter name here)
      rw [List.foldl_cons, step_of_ordinary here, above, below, List.reverse_cons, List.append_assoc]
      exact ⟨rfl, rfl⟩

/-- Many levels up take the names below away and then lead above. -/
theorem foldl_up (levels : Nat) (place : Place) :
    ((List.replicate levels "..").foldl step place).above = place.above + (levels - place.below.length) ∧
      ((List.replicate levels "..").foldl step place).below = place.below.drop levels := by
  induction levels generalizing place with
  | zero => simp
  | succ levels ih =>
      obtain ⟨above, below⟩ := ih place.leave
      rw [List.replicate_succ, List.foldl_cons, step_up, above, below, leave_above, leave_below]
      cases place.below with
      | nil => simp; omega
      | cons name outer => simp

theorem above_le_step (place : Place) (part : String) : place.above ≤ (place.step part).above := by
  unfold step
  split
  · exact Nat.le_refl _
  split
  · rw [leave_above]
    split
    · exact Nat.le_succ _
    · exact Nat.le_refl _
  · exact Nat.le_refl _

theorem above_le_foldl (parts : List String) (place : Place) : place.above ≤ (parts.foldl step place).above := by
  induction parts generalizing place with
  | nil => exact Nat.le_refl _
  | cons part rest ih => exact Nat.le_trans (above_le_step place part) (ih (place.step part))

theorem ofParts_upward {directory names : List String} (inside : ∀ part ∈ directory, Path.IsOrdinary part)
    (isOrdinary : ∀ name ∈ names, Path.IsOrdinary name) (levels : Nat) :
    (ofParts (directory ++ (List.replicate levels ".." ++ names))).above = levels - directory.length ∧
      (ofParts (directory ++ (List.replicate levels ".." ++ names))).below.reverse =
        directory.take (directory.length - levels) ++ names := by
  have none : start.above = 0 ∧ start.below = [] := ⟨rfl, rfl⟩
  -- Three rows of steps: into the directory, up, and down again.
  obtain ⟨inAbove, inBelow⟩ := foldl_ordinary inside start
  obtain ⟨upAbove, upBelow⟩ := foldl_up levels (directory.foldl step start)
  generalize up : (List.replicate levels "..").foldl step (directory.foldl step start) = turned at upAbove upBelow
  obtain ⟨above, below⟩ := foldl_ordinary isOrdinary turned
  unfold ofParts
  rw [List.foldl_append, List.foldl_append, up, above, below, upAbove, upBelow, inAbove, inBelow, none.1, none.2,
    List.append_nil, List.length_reverse, Nat.zero_add, List.reverse_append, List.reverse_reverse,
    List.drop_reverse, List.reverse_reverse]
  exact ⟨rfl, rfl⟩

/-! ### Above the top -/

def overTop : Place := ⟨1, [], List.forall_mem_nil _⟩

def LeadsAbove (parts : List String) : Prop := ∃ taken, taken <+: parts ∧ 0 < (ofParts taken).above

theorem leadsAbove_iff {parts : List String} : LeadsAbove parts ↔ 0 < (ofParts parts).above := by
  constructor
  · -- No part takes back a level above the start, so what the beginning reaches stays.
    rintro ⟨taken, ⟨rest, rfl⟩, above⟩
    have kept := above_le_foldl rest (ofParts taken)
    unfold ofParts at above kept ⊢
    rw [List.foldl_append]
    omega
  · intro above
    exact ⟨parts, List.prefix_refl _, above⟩

theorem above_foldl_of_not_up {parts : List String} (level : ".." ∉ parts) (place : Place) :
    (parts.foldl step place).above = place.above := by
  induction parts generalizing place with
  | nil => rfl
  | cons part rest ih =>
      obtain ⟨here, later⟩ := not_or.mp (mt List.mem_cons.mpr level)
      rw [List.foldl_cons, ih later]
      unfold step
      split
      · rfl
      · rw [if_neg (Ne.symm here)]

theorem parts_eq_up_iff {place : Place} : place.parts = [".."] ↔ place = overTop := by
  constructor
  · intro up
    have names := place.ordinary
    unfold parts at up
    -- Two dots are no ordinary name, so they stand for a level above.
    cases above : place.above with
    | zero =>
        rw [above, List.replicate_zero, List.nil_append] at up
        have member : ".." ∈ place.below := List.mem_reverse.mp (up ▸ List.mem_singleton_self _)
        exact absurd rfl (names _ member).notUp
    | succ levels =>
        rw [above, List.replicate_succ, List.cons_append] at up
        obtain ⟨few, none⟩ := List.append_eq_nil_iff.mp (List.cons.inj up).2
        have one : levels = 0 := by simpa using few
        exact Place.ext (above.trans (congrArg Nat.succ one)) (List.reverse_eq_nil_iff.mp none)
  · rintro rfl
    rfl

end Place

theorem Path.leadingSlashes_eq_empty {path : String} (relative : isRooted path = false) :
    leadingSlashes path.toList = "" := by
  rw [← Bool.not_eq_true, isRooted_iff] at relative
  unfold leadingSlashes
  split <;> first | rfl | exact absurd (by simp_all) relative

/-- To normalize a path without a slash in front is to write where it leads. -/
theorem Path.normalize_eq_path {path : String} (relative : isRooted path = false) :
    normalize path = (Place.ofParts (Text.split '/' path)).path := by
  unfold normalize
  by_cases empty : path = ""
  · rw [if_pos empty, empty]
    decide
  · have kept : (Text.split '/' path).foldl (step false) [] = (Place.ofParts (Text.split '/' path)).parts.reverse :=
      Place.foldl_parts (Text.split_plain path) .start
    have plainFront : decide (("" : String) ≠ "") = false := by decide
    rw [if_neg empty, leadingSlashes_eq_empty relative]
    dsimp only
    rw [plainFront, kept, List.reverse_reverse, String.empty_append]
    generalize Place.ofParts (Text.split '/' path) = place
    unfold Place.path
    by_cases none : place.parts = []
    · rw [if_pos none, none]
      rfl
    · rw [if_neg none, if_neg (join_ne_empty_of_parts none Place.isPart_of_mem_parts)]

end ChangeImpact
