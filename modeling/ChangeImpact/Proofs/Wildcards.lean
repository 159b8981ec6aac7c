import ChangeImpact.Proofs.Octets
import ChangeImpact.Text.Like
import Mathlib.Data.List.Infix
import Mathlib.Data.List.TakeWhile
import Mathlib.Tactic.SplitIfs

/-!
What a pattern of a search stands for. The ends that a pattern covers are worked out piece by piece; read from the front
this is the usual matching with a choice at every row, and what it accepts is said without any order of work.
-/

set_option autoImplicit false

namespace ChangeImpact

namespace Wildcard

variable {c : Char} {text : List Char} {pattern : List Piece} {admits : Char → Bool}

/-! ### Matching from the front -/

theorem afterRow_cons (hit : Bool) (later : List Bool) :
    afterRow (hit :: later) = (hit || (afterRow later).head?.getD false) :: afterRow later := rfl

theorem afterRow_length (covered : List Bool) : (afterRow covered).length = covered.length := by
  induction covered with
  | nil => rfl
  | cons hit later ih => rw [afterRow_cons, List.length_cons, ih, List.length_cons]

theorem ends_length (text : List Char) (pattern : List Piece) :
    (ends text pattern).length = text.length + 1 := by
  induction pattern with
  | nil => simp [ends, emptyEnd]
  | cons piece rest ih =>
      cases piece with
      | row => rw [ends, afterRow_length, ih]
      | one admits => simp [ends, afterOne, ih]

theorem ends_head (text : List Char) (pattern : List Piece) :
    ∃ later, ends text pattern = covers pattern text :: later := by
  cases found : ends text pattern with
  | nil =>
      have length := ends_length text pattern
      rw [found] at length
      cases length
  | cons hit later =>
      rw [covers, found]
      exact ⟨later, rfl⟩

theorem ends_nil (pattern : List Piece) : ends [] pattern = [covers pattern []] := by
  obtain ⟨later, found⟩ := ends_head [] pattern
  have length := ends_length [] pattern
  rw [found, List.length_cons] at length
  rw [found, List.eq_nil_of_length_eq_zero (Nat.succ.inj length)]

/-- The ends of a text are the text itself and the ends of what follows its first character. -/
theorem ends_cons (c : Char) (text : List Char) (pattern : List Piece) :
    ends (c :: text) pattern = covers pattern (c :: text) :: ends text pattern := by
  obtain ⟨later, found⟩ := ends_head (c :: text) pattern
  rw [found]
  congr 1
  induction pattern generalizing later with
  | nil => exact (List.cons.inj found).2.symm
  | cons piece rest ih =>
      obtain ⟨before, begun⟩ := ends_head (c :: text) rest
      have tail := ih before begun
      subst tail
      cases piece with
      | row =>
          rw [ends, begun, afterRow_cons] at found
          exact (List.cons.inj found).2.symm
      | one admits =>
          obtain ⟨last, next⟩ := ends_head text rest
          rw [ends, afterOne, begun, List.tail_cons, next, List.zipWith_cons_cons, List.cons_append] at found
          rw [ends, afterOne, next, List.tail_cons]
          exact (List.cons.inj found).2.symm

theorem covers_nil (text : List Char) : covers [] text = text.isEmpty := by
  cases text <;> rfl

theorem covers_row_nil : covers (.row :: pattern) [] = covers pattern [] := by
  rw [covers, ends, ends_nil]
  exact Bool.or_false _

theorem covers_row_cons :
    covers (.row :: pattern) (c :: text) = (covers pattern (c :: text) || covers (.row :: pattern) text) := by
  rw [covers, ends, ends_cons]
  rfl

theorem covers_one_cons :
    covers (.one admits :: pattern) (c :: text) = (admits c && covers pattern text) := by
  obtain ⟨later, found⟩ := ends_head text pattern
  rw [covers, ends, afterOne, ends_cons, List.tail_cons, found]
  rfl

theorem covers_one_iff :
    covers (.one admits :: pattern) text = true ↔
      ∃ c rest, text = c :: rest ∧ admits c = true ∧ covers pattern rest = true := by
  cases text with
  | nil =>
      constructor
      · intro covered
        cases covered
      · rintro ⟨_, _, split, _⟩
        cases split
  | cons c text =>
      rw [covers_one_cons, Bool.and_eq_true]
      constructor
      · exact fun covered => ⟨c, text, rfl, covered⟩
      · rintro ⟨_, _, split, covered⟩
        cases split
        exact covered

/-- A row takes any beginning of a text. -/
theorem covers_row_iff :
    covers (.row :: pattern) text = true ↔
      ∃ skipped rest, text = skipped ++ rest ∧ covers pattern rest = true := by
  induction text with
  | nil =>
      rw [covers_row_nil]
      constructor
      · exact fun covered => ⟨[], [], rfl, covered⟩
      · rintro ⟨skipped, rest, split, covered⟩
        obtain ⟨_, rfl⟩ := List.append_eq_nil_iff.mp split.symm
        exact covered
  | cons c text ih =>
      rw [covers_row_cons, Bool.or_eq_true, ih]
      constructor
      · rintro (covered | ⟨skipped, rest, rfl, covered⟩)
        · exact ⟨[], c :: text, rfl, covered⟩
        · exact ⟨c :: skipped, rest, rfl, covered⟩
      · rintro ⟨skipped, rest, split, covered⟩
        cases skipped with
        | nil =>
            subst split
            exact Or.inl covered
        | cons first skipped =>
            cases split
            exact Or.inr ⟨skipped, rest, rfl, covered⟩

end Wildcard

namespace Text

/-! ### What a text stands for in a search -/

/-- The marks of a search stand for the characters of a text: a percent sign for any row of them, an underscore for any
one, and every mark for what it is compared as. -/
inductive Stands : List Char → List Char → Prop
  | nil : Stands [] []
  | row {marks chars : List Char} (skipped : List Char) (rest : Stands marks chars) :
      Stands ('%' :: marks) (skipped ++ chars)
  | any {marks chars : List Char} (c : Char) (rest : Stands marks chars) : Stands ('_' :: marks) (c :: chars)
  | same {mark c : Char} {marks chars : List Char} (alike : comparedAs mark = comparedAs c)
      (rest : Stands marks chars) : Stands (mark :: marks) (c :: chars)

theorem covers_likePiece_iff (marks chars : List Char) :
    Wildcard.covers (marks.map likePiece) chars = true ↔ Stands marks chars := by
  induction marks generalizing chars with
  | nil =>
      rw [List.map_nil, Wildcard.covers_nil, List.isEmpty_iff]
      constructor
      · rintro rfl
        exact Stands.nil
      · intro stands
        cases stands
        rfl
  | cons mark marks ih =>
      rw [List.map_cons, likePiece]
      by_cases percent : mark = '%'
      · subst percent
        rw [if_pos rfl, Wildcard.covers_row_iff]
        constructor
        · rintro ⟨skipped, rest, rfl, covered⟩
          exact Stands.row skipped ((ih rest).mp covered)
        · intro stands
          cases stands with
          | row skipped rest => exact ⟨skipped, _, rfl, (ih _).mpr rest⟩
          | @same _ c _ chars _ rest => exact ⟨[c], chars, rfl, (ih chars).mpr rest⟩
      · rw [if_neg percent]
        by_cases underscore : mark = '_'
        · subst underscore
          rw [if_pos rfl, Wildcard.covers_one_iff]
          constructor
          · rintro ⟨c, rest, rfl, _, covered⟩
            exact Stands.any c ((ih rest).mp covered)
          · intro stands
            cases stands with
            | any c rest => exact ⟨c, _, rfl, rfl, (ih _).mpr rest⟩
            | @same _ c _ chars _ rest => exact ⟨c, chars, rfl, rfl, (ih chars).mpr rest⟩
        · rw [if_neg underscore, Wildcard.covers_one_iff]
          constructor
          · rintro ⟨c, rest, rfl, alike, covered⟩
            exact Stands.same (of_decide_eq_true alike) ((ih rest).mp covered)
          · intro stands
            cases stands with
            | row => exact absurd rfl percent
            | any => exact absurd rfl underscore
            | @same _ c _ chars alike rest =>
                exact ⟨c, chars, rfl, decide_eq_true alike, (ih chars).mpr rest⟩

theorem like_iff (pattern text : String) :
    like pattern text = true ↔ Stands (beforeNull pattern) (beforeNull text) :=
  covers_likePiece_iff _ _

/-! ### Marks in a row -/

theorem Stands.refl (chars : List Char) : Stands chars chars := by
  induction chars with
  | nil => exact Stands.nil
  | cons c rest ih => exact Stands.same rfl ih

theorem Stands.append {first second left right : List Char} (one : Stands first left)
    (two : Stands second right) : Stands (first ++ second) (left ++ right) := by
  induction one with
  | nil => exact two
  | row skipped _ ih =>
      rw [List.append_assoc]
      exact Stands.row skipped ih
  | any c _ ih => exact Stands.any c ih
  | same alike _ ih => exact Stands.same alike ih

theorem Stands.split {first second chars : List Char} (stands : Stands (first ++ second) chars) :
    ∃ left right, chars = left ++ right ∧ Stands first left ∧ Stands second right := by
  induction first generalizing chars with
  | nil => exact ⟨[], chars, rfl, Stands.nil, stands⟩
  | cons mark first ih =>
      cases stands with
      | row skipped rest =>
          obtain ⟨left, right, rfl, one, two⟩ := ih rest
          exact ⟨skipped ++ left, right, (List.append_assoc _ _ _).symm, Stands.row skipped one, two⟩
      | any c rest =>
          obtain ⟨left, right, rfl, one, two⟩ := ih rest
          exact ⟨c :: left, right, rfl, Stands.any c one, two⟩
      | @same _ c _ _ alike rest =>
          obtain ⟨left, right, rfl, one, two⟩ := ih rest
          exact ⟨c :: left, right, rfl, Stands.same alike one, two⟩

theorem stands_row (chars : List Char) : Stands ['%'] chars := by
  have stands := Stands.row chars Stands.nil
  rwa [List.append_nil] at stands

/-! ### Texts up to their first null character -/

def NullFree (chars : List Char) : Prop := ∀ c ∈ chars, c.toNat ≠ 0

instance (chars : List Char) : Decidable (NullFree chars) :=
  decidable_of_iff ((chars.all fun c => c.toNat != 0) = true) (by
    rw [List.all_eq_true]
    simp only [bne_iff_ne, NullFree])

def upToNull (chars : List Char) : List Char := chars.takeWhile fun c => c.toNat ≠ 0

theorem beforeNull_eq (text : String) : beforeNull text = upToNull text.toList := rfl

theorem upToNull_free (chars : List Char) : NullFree (upToNull chars) := by
  intro c member
  have kept := List.mem_takeWhile_imp (p := fun c : Char => decide (c.toNat ≠ 0)) member
  exact of_decide_eq_true kept

theorem upToNull_append_of_free {first : List Char} (free : NullFree first) (second : List Char) :
    upToNull (first ++ second) = first ++ upToNull second :=
  List.takeWhile_append_of_pos fun c member => decide_eq_true (free c member)

theorem upToNull_of_free {chars : List Char} (free : NullFree chars) : upToNull chars = chars := by
  have whole := upToNull_append_of_free free []
  rw [List.append_nil] at whole
  exact whole.trans (List.append_nil chars)

theorem upToNull_append_of_cut {first : List Char} (cut : ¬NullFree first) (second : List Char) :
    upToNull (first ++ second) = upToNull first := by
  unfold upToNull
  rw [List.takeWhile_append, if_neg]
  intro whole
  apply cut
  rw [← ( List.takeWhile_prefix _).eq_of_length whole]
  exact upToNull_free first

/-! ### A text between two rows -/

/-- A part of a file is like a text. Both end at their first null character; when the text has one, the part must be the
end of the file. -/
def MatchesPart (text file : List Char) : Prop :=
  ∃ before part after, upToNull file = before ++ part ++ after ∧ Stands (upToNull text) part ∧
    (NullFree text ∨ after = [])

theorem stands_after_iff {marks chars : List Char} :
    Stands ('%' :: marks) chars ↔ ∃ before part, chars = before ++ part ∧ Stands marks part := by
  constructor
  · intro stands
    have joined : Stands (['%'] ++ marks) chars := stands
    obtain ⟨before, part, split, _, later⟩ := joined.split
    exact ⟨before, part, split, later⟩
  · rintro ⟨before, part, rfl, stands⟩
    exact Stands.row before stands

theorem stands_between_iff {marks chars : List Char} :
    Stands ('%' :: (marks ++ ['%'])) chars ↔
      ∃ before part after, chars = before ++ part ++ after ∧ Stands marks part := by
  rw [stands_after_iff]
  constructor
  · rintro ⟨before, rest, rfl, stands⟩
    obtain ⟨part, after, rfl, middle, _⟩ := stands.split
    exact ⟨before, part, after, (List.append_assoc _ _ _).symm, middle⟩
  · rintro ⟨before, part, after, rfl, stands⟩
    exact ⟨before, part ++ after, List.append_assoc _ _ _, stands.append (stands_row after)⟩

theorem like_held_iff (text file : String) :
    like ("%" ++ text ++ "%") file = true ↔ MatchesPart text.toList file.toList := by
  have percent : NullFree ['%'] := by
    intro c member
    rw [List.mem_singleton.mp member]
    decide
  have held : beforeNull ("%" ++ text ++ "%") = '%' :: upToNull (text.toList ++ ['%']) := by
    rw [beforeNull_eq, String.toList_append, String.toList_append, List.append_assoc]
    exact upToNull_append_of_free percent _
  rw [like_iff, held, beforeNull_eq]
  unfold MatchesPart
  by_cases free : NullFree text.toList
  · rw [upToNull_append_of_free free, upToNull_of_free percent, stands_between_iff, upToNull_of_free free]
    simp only [free, true_or, and_true]
  · rw [upToNull_append_of_cut free, stands_after_iff]
    simp only [free, false_or]
    constructor
    · rintro ⟨before, part, split, stands⟩
      exact ⟨before, part, [], by rw [split, List.append_nil], stands, rfl⟩
    · rintro ⟨before, part, after, split, stands, rfl⟩
      exact ⟨before, part, by rw [split, List.append_nil], stands⟩

/-- A text that stands in a file up to the file's first null character, the text's own apart, is found. -/
theorem matchesPart_append {before : List Char} (free : NullFree before) (text after : List Char) :
    MatchesPart text (before ++ text ++ after) := by
  by_cases whole : NullFree text
  · refine ⟨before, text, upToNull after, ?_, ?_, Or.inl whole⟩
    · rw [List.append_assoc, upToNull_append_of_free free, upToNull_append_of_free whole, List.append_assoc]
    · rw [upToNull_of_free whole]
      exact Stands.refl text
  · refine ⟨before, upToNull text, [], ?_, Stands.refl _, Or.inr rfl⟩
    rw [List.append_assoc, upToNull_append_of_free free, upToNull_append_of_cut whole, List.append_nil]

/-! ### Characters that stand for themselves only -/

theorem val_le_iff {one two : Char} : one.val ≤ two.val ↔ one.toNat ≤ two.toNat :=
  UInt32.le_iff_toNat_le

theorem toNat_toLower (c : Char) :
    c.toLower.toNat = if 65 ≤ c.toNat ∧ c.toNat ≤ 90 then c.toNat + 32 else c.toNat := by
  unfold Char.toLower
  simp only [ge_iff_le, val_le_iff]
  split
  · rename_i between
    have upper : 65 ≤ c.toNat ∧ c.toNat ≤ 90 := between
    rw [if_pos upper]
    change (c.val + 32).toNat = c.toNat + 32
    rw [UInt32.toNat_add]
    exact Nat.mod_eq_of_lt (Nat.lt_of_le_of_lt (Nat.add_le_add_right upper.2 _) (by decide))
  · rename_i outside
    exact (if_neg outside).symm

theorem toNat_comparedAs (c : Char) :
    (comparedAs c).toNat =
      if c.toNat = 0xFFFE ∨ c.toNat = 0xFFFF then 0xFFFD
      else if 65 ≤ c.toNat ∧ c.toNat ≤ 90 then c.toNat + 32 else c.toNat := by
  unfold comparedAs
  simp only [Bool.or_eq_true, decide_eq_true_eq]
  split
  · rfl
  · exact toNat_toLower c

theorem isAlpha_iff (c : Char) :
    c.isAlpha = true ↔ 65 ≤ c.toNat ∧ c.toNat ≤ 90 ∨ 97 ≤ c.toNat ∧ c.toNat ≤ 122 := by
  unfold Char.isAlpha Char.isUpper Char.isLower
  simp only [Bool.or_eq_true, Bool.and_eq_true, decide_eq_true_eq, ge_iff_le, val_le_iff]
  rfl

/-- A character without a meaning of its own in a search: no wildcard, no null character, no letter of which there are
two cases, and none of the three that are compared as the replacement. -/
def IsPlain (c : Char) : Prop :=
  c ≠ '%' ∧ c ≠ '_' ∧ c.toNat ≠ 0 ∧ c.isAlpha = false ∧ ¬(0xFFFD ≤ c.toNat ∧ c.toNat ≤ 0xFFFF)

theorem IsPlain.alike {c other : Char} (plain : IsPlain c) (same : comparedAs c = comparedAs other) :
    other = c := by
  obtain ⟨_, _, _, noLetter, regular⟩ := plain
  have numbers := congrArg Char.toNat same
  rw [toNat_comparedAs, toNat_comparedAs] at numbers
  rw [← Bool.not_eq_true, isAlpha_iff] at noLetter
  rw [← Char.toNat_inj]
  split_ifs at numbers <;> omega

/-- A letter has another case, and each of the three is compared as another one. -/
theorem exists_alike {c : Char} (special : c.isAlpha = true ∨ 0xFFFD ≤ c.toNat ∧ c.toNat ≤ 0xFFFF) :
    ∃ other, comparedAs c = comparedAs other ∧ other ≠ c ∧ other.toNat ≠ 0 := by
  have numbered : ∃ number : Nat, number.isValidChar ∧ number ≠ c.toNat ∧ number ≠ 0 ∧
      (comparedAs c).toNat =
        if number = 0xFFFE ∨ number = 0xFFFF then 0xFFFD
        else if 65 ≤ number ∧ number ≤ 90 then number + 32 else number := by
    rw [toNat_comparedAs]
    rw [isAlpha_iff] at special
    rcases special with (upper | lower) | replaced
    · exact ⟨c.toNat + 32, Or.inl (by omega), by omega, by omega, by split_ifs <;> omega⟩
    · exact ⟨c.toNat - 32, Or.inl (by omega), by omega, by omega, by split_ifs <;> omega⟩
    · by_cases first : c.toNat = 0xFFFD
      · exact ⟨0xFFFE, Or.inr (by decide), by omega, by omega, by split_ifs <;> omega⟩
      · exact ⟨0xFFFD, Or.inr (by decide), by omega, by omega, by split_ifs <;> omega⟩
  obtain ⟨number, valid, different, positive, same⟩ := numbered
  refine ⟨Char.ofNat number, ?_, ?_, ?_⟩
  · rw [← Char.toNat_inj, toNat_comparedAs (Char.ofNat number), toNat_ofNat valid]
    exact same
  · rw [ne_eq, ← Char.toNat_inj, toNat_ofNat valid]
    exact different
  · rw [toNat_ofNat valid]
    exact positive

/-- A character that is not plain stands for something that is not longer and has no null character. -/
theorem exists_other {c : Char} (special : ¬IsPlain c) (real : c.toNat ≠ 0) :
    ∃ other, Stands [c] other ∧ other ≠ [c] ∧ other.length ≤ 1 ∧ NullFree other := by
  by_cases percent : c = '%'
  · subst percent
    exact ⟨[], stands_row [], (List.cons_ne_nil _ _).symm, Nat.zero_le 1, List.forall_mem_nil _⟩
  by_cases underscore : c = '_'
  · subst underscore
    exact ⟨['a'], Stands.any 'a' Stands.nil, by decide, Nat.le_refl 1, by
      rw [NullFree, List.forall_mem_singleton]
      decide⟩
  have alike : c.isAlpha = true ∨ 0xFFFD ≤ c.toNat ∧ c.toNat ≤ 0xFFFF := by
    by_contra neither
    rw [not_or, Bool.not_eq_true] at neither
    exact special ⟨percent, underscore, real, neither⟩
  obtain ⟨other, same, different, given⟩ := exists_alike alike
  refine ⟨[other], Stands.same same Stands.nil, ?_, Nat.le_refl 1, ?_⟩
  · exact fun equal => different (List.cons.inj equal).1
  · rw [NullFree, List.forall_mem_singleton]
    exact given

theorem stands_plain {text part : List Char} (plain : ∀ c ∈ text, IsPlain c) (stands : Stands text part) :
    part = text := by
  induction stands with
  | nil => rfl
  | row => exact absurd rfl (plain _ List.mem_cons_self).1
  | any => exact absurd rfl (plain _ List.mem_cons_self).2.1
  | same alike _ ih =>
      obtain ⟨first, rest⟩ := List.forall_mem_cons.mp plain
      rw [first.alike alike, ih rest]

/-- The texts for which a search is a search for a part, whatever the file, are those of plain characters. -/
theorem literal_iff_plain (text : List Char) :
    (∀ file, NullFree file → (MatchesPart text file ↔ text <:+: file)) ↔ ∀ c ∈ text, IsPlain c := by
  constructor
  · intro literal
    have free : NullFree text := by
      by_contra cut
      -- What stands before the null character is found, but is too short to hold the text.
      have found : MatchesPart text (upToNull text) := by
        refine ⟨[], upToNull text, [], ?_, Stands.refl _, Or.inr rfl⟩
        rw [upToNull_of_free (upToNull_free text), List.append_nil, List.nil_append]
      have held := (literal _ (upToNull_free text)).mp found
      have whole := ( List.takeWhile_prefix _).eq_of_length_le held.length_le
      exact cut (whole ▸ upToNull_free text)
    intro c member
    by_contra special
    obtain ⟨other, stands, different, short, otherFree⟩ := exists_other special (free c member)
    obtain ⟨before, after, rfl⟩ := List.append_of_mem member
    obtain ⟨freeBefore, freeAfter⟩ := List.forall_mem_append.mp free
    have freeFile : NullFree (before ++ (other ++ after)) :=
      List.forall_mem_append.mpr ⟨freeBefore, List.forall_mem_append.mpr
        ⟨otherFree, (List.forall_mem_cons.mp freeAfter).2⟩⟩
    have found : MatchesPart (before ++ c :: after) (before ++ (other ++ after)) := by
      refine ⟨[], before ++ (other ++ after), [], ?_, ?_, Or.inl free⟩
      · rw [upToNull_of_free freeFile, List.append_nil, List.nil_append]
      · rw [upToNull_of_free free]
        exact (Stands.refl before).append (stands.append (Stands.refl after))
    have held := (literal _ freeFile).mp found
    have lengths := held.length_le
    simp only [List.length_append, List.length_cons] at lengths
    have equal := held.eq_of_length (by simp only [List.length_append, List.length_cons]; omega)
    exact different (List.append_cancel_right (List.append_cancel_left equal)).symm
  · intro plain file freeFile
    have free : NullFree text := fun c member => (plain c member).2.2.1
    unfold MatchesPart
    rw [upToNull_of_free freeFile, upToNull_of_free free]
    constructor
    · rintro ⟨before, part, after, rfl, stands, _⟩
      rw [stands_plain plain stands]
      exact List.infix_append _ _ _
    · rintro ⟨before, after, rfl⟩
      exact ⟨before, text, after, rfl, Stands.refl text, Or.inl free⟩

end Text

end ChangeImpact
