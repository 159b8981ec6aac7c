import ChangeImpact.Command.Run
import ChangeImpact.Proofs.Places

/-!
Lists of patterns as text. The patterns to exclude are written with commas between them, and what is read from such a
text is just what can be written so: patterns that are not empty and have no comma and no blank at their ends. With a
comma, or a comma and blanks, between each two of them they are read again as they are.
-/

set_option autoImplicit false

namespace ChangeImpact

/-! ### Blanks at the ends -/

namespace Text

structure Stripped (text : List Char) : Prop where
  first : ∀ c ∈ text.head?, isBlank c = false
  last : ∀ c ∈ text.getLast?, isBlank c = false

variable {text : List Char}

theorem head?_dropWhile (test : Char → Bool) (text : List Char) :
    ∀ c ∈ (text.dropWhile test).head?, test c = false := by
  intro c isFirst
  have stays := List.head?_dropWhile_not test text
  rw [Option.mem_def.mp isFirst] at stays
  exact stays

theorem dropWhile_of_head? {test : Char → Bool} (stays : ∀ c ∈ text.head?, test c = false) :
    text.dropWhile test = text := by
  cases text with
  | nil => rfl
  | cons c rest => rw [List.dropWhile_cons_of_neg (by simp [stays c rfl])]

theorem stripChars_isPrefix (text : List Char) : stripChars text <+: text.dropWhile isBlank := by
  unfold stripChars
  rw [← List.reverse_suffix, List.reverse_reverse]
  exact List.dropWhile_suffix _

theorem stripChars_stripped (text : List Char) : Stripped (stripChars text) := by
  constructor
  · intro c isFirst
    obtain ⟨back, whole⟩ := stripChars_isPrefix text
    apply head?_dropWhile isBlank text
    rw [← whole, List.head?_append, isFirst]
    rfl
  · unfold stripChars
    rw [List.getLast?_reverse]
    exact head?_dropWhile isBlank _

theorem Stripped.stripChars_eq (stripped : Stripped text) : stripChars text = text := by
  unfold stripChars
  rw [dropWhile_of_head? stripped.first, dropWhile_of_head?, List.reverse_reverse]
  rw [List.head?_reverse]
  exact stripped.last

theorem mem_of_mem_stripChars {c : Char} (member : c ∈ stripChars text) : c ∈ text :=
  (List.dropWhile_suffix _).subset ((stripChars_isPrefix text).subset member)

theorem stripChars_append {blanks : List Char} (blank : ∀ c ∈ blanks, isBlank c = true) (text : List Char) :
    stripChars (blanks ++ text) = stripChars text := by
  unfold stripChars
  rw [List.dropWhile_append_of_pos blank]

/-! ### Texts with a mark between them -/

/-- Texts that are joined by a mark and more behind it are cut at the marks again; all but the first have the rest of
what was between in front of them. -/
theorem split_join_cons {mark : Char} {between : String} {gap : List Char} (shape : between.toList = mark :: gap)
    (plainGap : mark ∉ gap) {first : String} {rest : List String} (plain : ∀ text ∈ first :: rest, mark ∉ text.toList) :
    split mark (join between (first :: rest)) = first :: rest.map fun text => String.ofList (gap ++ text.toList) := by
  -- What is joined so far is cut into some pieces, and each further text adds one to them.
  have added : ∀ joined, split mark (rest.foldl (fun joined text => joined ++ between ++ text) joined) =
      split mark joined ++ rest.map fun text => String.ofList (gap ++ text.toList) := by
    have others := (List.forall_mem_cons.mp plain).2
    clear plain
    induction rest with
    | nil => simp
    | cons text later ih =>
        intro joined
        obtain ⟨here, below⟩ := List.forall_mem_cons.mp others
        have piece : cut mark (gap ++ text.toList) = [gap ++ text.toList] :=
          cut_of_not_mem fun member => (List.mem_append.mp member).elim plainGap here
        rw [List.foldl_cons, ih below]
        unfold split
        rw [String.toList_append, String.toList_append, shape, List.append_assoc, List.cons_append, cut_join, piece]
        simp
  rw [join, added, split_of_not_mem (plain first List.mem_cons_self), List.singleton_append]

end Text

namespace Settings

open ChangeImpact.Json (Value)

/-- A pattern that can stand in a list with commas: it is not empty, has no comma, and no blank at its ends. -/
structure IsPattern (text : String) : Prop where
  filled : text ≠ ""
  plain : ',' ∉ text.toList
  stripped : Text.Stripped text.toList

variable {raw : String} {patterns : List String}

theorem isPattern_of_mem {pattern : String} (member : pattern ∈ excludeOfText raw) : IsPattern pattern := by
  obtain ⟨listed, filled⟩ := List.mem_filter.mp member
  obtain ⟨piece, cutOut, rfl⟩ := List.mem_map.mp listed
  have chars : (Text.strip piece).toList = Text.stripChars piece.toList := String.toList_ofList
  have plain : ',' ∉ piece.toList := by
    obtain ⟨row, between, rfl⟩ := List.mem_map.mp cutOut
    rw [String.toList_ofList]
    exact Path.mark_not_mem_cut _ row between
  refine ⟨of_decide_eq_true filled, ?_, ?_⟩
  · rw [chars]
    exact fun comma => plain (Text.mem_of_mem_stripChars comma)
  · rw [chars]
    exact Text.stripChars_stripped _

theorem IsPattern.strip_append {pattern : String} (isPattern : IsPattern pattern) {blanks : List Char}
    (blank : ∀ c ∈ blanks, Text.isBlank c = true) :
    Text.strip (String.ofList (blanks ++ pattern.toList)) = pattern := by
  unfold Text.strip
  rw [String.toList_ofList, Text.stripChars_append blank, isPattern.stripped.stripChars_eq, String.ofList_toList]

/-- Patterns are read again from a text that has them with a comma and blanks between each two. -/
theorem excludeOfText_join (isPattern : ∀ pattern ∈ patterns, IsPattern pattern) {between : String} {gap : List Char}
    (shape : between.toList = ',' :: gap) (blank : ∀ c ∈ gap, Text.isBlank c = true) :
    excludeOfText (Text.join between patterns) = patterns := by
  cases patterns with
  | nil => rfl
  | cons first rest =>
      have noComma : ',' ∉ gap := fun comma => absurd (blank ',' comma) (by decide)
      have here : Text.strip first = first := by
        have stripped := (isPattern first List.mem_cons_self).strip_append (List.forall_mem_nil _)
        rwa [List.nil_append, String.ofList_toList] at stripped
      have others : (rest.map fun text => String.ofList (gap ++ text.toList)).map Text.strip = rest := by
        rw [List.map_map]
        have same : ∀ text ∈ rest, (Text.strip ∘ fun text => String.ofList (gap ++ text.toList)) text = id text :=
          fun text member => (isPattern text (List.mem_cons_of_mem _ member)).strip_append blank
        rw [List.map_congr_left same, List.map_id]
      unfold excludeOfText
      rw [Text.split_join_cons shape noComma fun text member => (isPattern text member).plain, List.map_cons, here,
        others]
      exact List.filter_eq_self.mpr fun text member => decide_eq_true (isPattern text member).filled

theorem valueOfText_exclude (raw : String) :
    valueOfText "exclude" raw = .ok (.list ((excludeOfText raw).map .str)) := by
  unfold valueOfText
  rw [if_neg (by decide), if_pos rfl]

/-- What the settings show of a list of patterns is the list with a comma and a space between each two. -/
theorem settingText_patterns (filled : patterns ≠ []) (isPattern : ∀ pattern ∈ patterns, IsPattern pattern) :
    Command.settingText (.list (patterns.map .str)) = Text.join ", " patterns := by
  have texts : (patterns.map Value.str).map Value.plain = patterns := by
    rw [List.map_map]
    exact List.map_id _
  have again : excludeOfText (Text.join ", " patterns) = patterns :=
    excludeOfText_join isPattern rfl (List.forall_mem_singleton.mpr rfl)
  have shown : Text.join ", " patterns ≠ "" := by
    -- No pattern at all is read from an empty text.
    intro empty
    rw [empty] at again
    exact filled again.symm
  unfold Command.settingText
  dsimp only
  rw [texts, if_neg shown]

/-- The patterns to exclude survive being written and read. Every text is read as a list of patterns, none of them empty
or with a comma or a blank at an end; the same list is read from its patterns with commas, or with commas and spaces,
between them, and so from what the settings show unless it is empty. Every list of such patterns is read from some
text. -/
theorem exclude_patterns_round_trip (raw : String) (patterns : List String) :
    (∃ read, valueOfText "exclude" raw = .ok (.list (read.map .str)) ∧ (∀ pattern ∈ read, IsPattern pattern) ∧
        valueOfText "exclude" (Text.join "," read) = .ok (.list (read.map .str)) ∧
        valueOfText "exclude" (Text.join ", " read) = .ok (.list (read.map .str)) ∧
        (read ≠ [] → valueOfText "exclude" (Command.settingText (.list (read.map .str))) =
          .ok (.list (read.map .str)))) ∧
      ((∃ text, valueOfText "exclude" text = .ok (.list (patterns.map .str))) ↔
        ∀ pattern ∈ patterns, IsPattern pattern) := by
  constructor
  · have isPattern : ∀ pattern ∈ excludeOfText raw, IsPattern pattern := fun _ => isPattern_of_mem
    have spaced : excludeOfText (Text.join ", " (excludeOfText raw)) = excludeOfText raw :=
      excludeOfText_join isPattern rfl (List.forall_mem_singleton.mpr rfl)
    refine ⟨excludeOfText raw, valueOfText_exclude raw, isPattern, ?_, ?_, ?_⟩
    · rw [valueOfText_exclude, excludeOfText_join isPattern rfl (List.forall_mem_nil _)]
    · rw [valueOfText_exclude, spaced]
    · intro filled
      rw [settingText_patterns filled isPattern, valueOfText_exclude, spaced]
  · constructor
    · rintro ⟨text, isRead⟩
      rw [valueOfText_exclude] at isRead
      have same : excludeOfText text = patterns := by
        injection isRead with isRead
        injection isRead with isRead
        exact List.map_injective_iff.mpr (fun _ _ => Value.str.inj) isRead
      rw [← same]
      exact fun _ => isPattern_of_mem
    · intro isPattern
      refine ⟨Text.join "," patterns, ?_⟩
      rw [valueOfText_exclude, excludeOfText_join isPattern rfl (List.forall_mem_nil _)]

end Settings

end ChangeImpact
