import ChangeImpact.Proofs.FindingImport
import ChangeImpact.Proofs.Wildcards

/-!
Looking for the findings of files that hold a text. The text becomes a pattern as it is, so its percent signs and
underscores are wildcards there and its letters have no case; the search finds every finding with a part that is like the
text. It is a search for a part of the file when no stored file is only like it, and for all files alike exactly when the
text has none of the characters that mean more than themselves.
-/

set_option autoImplicit false

namespace ChangeImpact

namespace Text

theorem encodeFault?_eq_none_iff (text : String) :
    encodeFault? text = none ↔ ∀ c ∈ text.toList, half? c = none := by
  have whole : (∀ c ∈ text.toList, half? c = none) ↔
      text.toList.dropWhile (fun c => (half? c).isNone) = [] := by
    simp only [List.dropWhile_eq_nil_iff, Option.isNone_iff_eq_none]
  rw [whole]
  unfold encodeFault?
  rw [List.span_eq_takeWhile_dropWhile]
  cases found : text.toList.dropWhile (fun c => (half? c).isNone) with
  | nil => exact ⟨fun _ => rfl, fun _ => rfl⟩
  | cons c rest =>
      have stops := List.head_dropWhile_not (fun c => (half? c).isNone) (found ▸ List.cons_ne_nil c rest)
      simp only [found, List.head_cons] at stops
      cases unit : half? c with
      | none =>
          rw [unit] at stops
          cases stops
      | some number => simp [unit]

theorem encodeFault?_held (text : String) :
    encodeFault? ("%" ++ text ++ "%") = none ↔ encodeFault? text = none := by
  have percent : half? '%' = none := by decide
  rw [encodeFault?_eq_none_iff, encodeFault?_eq_none_iff, String.toList_append, String.toList_append]
  change (∀ c ∈ ['%'] ++ text.toList ++ ['%'], half? c = none) ↔ _
  simp only [List.mem_append, List.mem_singleton]
  constructor
  · exact fun written c member => written c (Or.inl (Or.inr member))
  · rintro written c ((rfl | member) | rfl)
    · exact percent
    · exact written c member
    · exact percent

instance (text file : List Char) : Decidable (MatchesPart text file) :=
  decidable_of_iff (like ("%" ++ String.ofList text ++ "%") (String.ofList file) = true) (by
    rw [like_held_iff, String.toList_ofList, String.toList_ofList])

end Text

namespace Store

variable {store : Store} {analysis text : String}

/-- A search can be made: the store is open, its texts can be written, and the pattern is not too long for the findings
that there are. -/
structure Searchable (store : Store) (analysis text : String) : Prop where
  isOpen : store.isClosed = false
  analysisWritten : Text.encodeFault? analysis = none
  textWritten : Text.encodeFault? text = none
  short : text.utf8ByteSize + 2 ≤ Text.maxLikeOctets ∨ store.visible.rowsOf analysis = []

theorem findFindings_held_eq (given : text ≠ "") :
    findFindings analysis (some text) none =
      query (.failed (.readFindings analysis) .closed) [analysis, "%" ++ text ++ "%"]
          (Image.findingsOf analysis none) >>= fun rows =>
        if Text.maxLikeOctets < ("%" ++ text ++ "%").utf8ByteSize && !rows.isEmpty then
          throw (.failed (.readFindings analysis) .patternTooLong)
        else pure (rows.filter (fileIsLike ("%" ++ text ++ "%"))) := by
  unfold findFindings
  rw [Option.filter_some, if_pos (decide_eq_true given)]
  rfl

theorem utf8ByteSize_held (text : String) : ("%" ++ text ++ "%").utf8ByteSize = text.utf8ByteSize + 2 := by
  rw [String.utf8ByteSize_append, String.utf8ByteSize_append]
  change 1 + text.utf8ByteSize + 1 = text.utf8ByteSize + 2
  omega

theorem findingsOf_eq_nil_iff (image : Image) :
    image.findingsOf analysis none = [] ↔ image.rowsOf analysis = [] := by
  rw [← List.length_eq_zero_iff, findingsOf_length, List.length_eq_zero_iff]

theorem findFindings_held (given : text ≠ "") (searchable : Searchable store analysis text) :
    (findFindings analysis (some text) none store).1 =
      .ok ((store.visible.findingsOf analysis none).filter (fileIsLike ("%" ++ text ++ "%"))) := by
  have written : [analysis, "%" ++ text ++ "%"].findSome? Text.encodeFault? = none := by
    rw [List.findSome?_eq_none_iff]
    rintro parameter (_ | ⟨_, _ | ⟨_, none⟩⟩)
    · exact searchable.analysisWritten
    · exact (Text.encodeFault?_held text).mpr searchable.textWritten
    · cases none
  have asked : query (.failed (.readFindings analysis) .closed) [analysis, "%" ++ text ++ "%"]
      (Image.findingsOf analysis none) store = (.ok (store.visible.findingsOf analysis none), store) := by
    unfold query
    rw [searchable.isOpen, written]
    rfl
  rw [findFindings_held_eq given, Operation.bind_of_ok asked, utf8ByteSize_held, if_neg]
  · rfl
  · rw [Bool.and_eq_true, Bool.not_eq_true', List.isEmpty_eq_false_iff, ne_eq, findingsOf_eq_nil_iff,
      decide_eq_true_eq]
    rintro ⟨long, rows⟩
    exact searchable.short.elim (Nat.not_le.mpr long) rows

theorem searchable_of_answer (given : text ≠ "") {rows : List StoredFinding}
    (answered : (findFindings analysis (some text) none store).1 = .ok rows) :
    Searchable store analysis text := by
  rcases run : findFindings analysis (some text) none store with ⟨answer, after⟩
  rw [run] at answered
  cases answered
  rw [findFindings_held_eq given] at run
  obtain ⟨found, between, asked, rest⟩ := Operation.bind_ok run
  obtain ⟨rfl, rfl, written⟩ := query_ok asked
  rw [List.findSome?_eq_none_iff] at written
  refine ⟨?_, written _ List.mem_cons_self,
    (Text.encodeFault?_held text).mp (written _ (List.mem_cons_of_mem _ List.mem_cons_self)), ?_⟩
  · rw [Bool.eq_false_iff]
    intro closed
    unfold query at asked
    rw [if_pos closed] at asked
    cases asked
  · by_contra refused
    rw [not_or, Nat.not_le, ← findingsOf_eq_nil_iff] at refused
    rw [if_pos] at rest
    · cases rest
    · rw [Bool.and_eq_true, Bool.not_eq_true', List.isEmpty_eq_false_iff, utf8ByteSize_held, decide_eq_true_eq]
      exact refused

/-! ### A search for a part -/

def holdsText (text : String) (row : StoredFinding) : Bool :=
  row.file.any fun file => decide (text.toList <:+: file.toList)

def resemblesText (text : String) (row : StoredFinding) : Bool :=
  row.file.any fun file => decide (Text.MatchesPart text.toList file.toList)

theorem fileIsLike_held (text : String) : fileIsLike ("%" ++ text ++ "%") = resemblesText text := by
  funext row
  unfold fileIsLike resemblesText
  cases row.file with
  | none => rfl
  | some file =>
      rw [Option.any_some, Bool.eq_iff_iff, Text.like_held_iff, decide_eq_true_eq]

theorem mem_findingsOf (image : Image) (row : StoredFinding) :
    row ∈ image.findingsOf analysis none ↔ row ∈ image.findings ∧ row.analysis = analysis := by
  rw [(findingsOf_perm analysis image).mem_iff, Image.rowsOf, List.mem_filter, beq_iff_eq]

theorem holds_iff_resembles {row : StoredFinding} :
    resemblesText text row = holdsText text row ↔
      ∀ file, row.file = some file →
        (Text.MatchesPart text.toList file.toList ↔ text.toList <:+: file.toList) := by
  unfold resemblesText holdsText
  cases row.file with
  | none => simp
  | some file => simp

/-- When a search for a text finds the findings of the files that hold it. -/
theorem findFindings_literal_iff (store : Store) (analysis text : String) (given : text ≠ "") :
    (Searchable store analysis text →
      (findFindings analysis (some text) none store).1 =
        .ok ((store.visible.findingsOf analysis none).filter (resemblesText text))) ∧
    ((findFindings analysis (some text) none store).1 =
        .ok ((store.visible.findingsOf analysis none).filter (holdsText text)) ↔
      Searchable store analysis text ∧
        ∀ row ∈ store.visible.findings, row.analysis = analysis → ∀ file, row.file = some file →
          (Text.MatchesPart text.toList file.toList ↔ text.toList <:+: file.toList)) ∧
    ((∀ file, Text.NullFree file → (Text.MatchesPart text.toList file ↔ text.toList <:+: file)) ↔
      ∀ c ∈ text.toList, Text.IsPlain c) := by
  have answer (searchable : Searchable store analysis text) :
      (findFindings analysis (some text) none store).1 =
        .ok ((store.visible.findingsOf analysis none).filter (resemblesText text)) := by
    rw [findFindings_held given searchable, fileIsLike_held]
  refine ⟨answer, ?_, Text.literal_iff_plain text.toList⟩
  constructor
  · intro literal
    have searchable := searchable_of_answer given literal
    rw [answer searchable] at literal
    have kept := Except.ok.inj literal
    refine ⟨searchable, ?_⟩
    intro row stored own
    have member := (mem_findingsOf store.visible row).mpr ⟨stored, own⟩
    have same := congrArg (row ∈ ·) kept
    simp only [List.mem_filter, member, true_and] at same
    exact holds_iff_resembles.mp (Bool.eq_iff_iff.mpr (iff_of_eq same))
  · rintro ⟨searchable, literal⟩
    rw [answer searchable]
    refine congrArg Except.ok (List.filter_congr ?_)
    intro row member
    obtain ⟨stored, own⟩ := (mem_findingsOf store.visible row).mp member
    exact holds_iff_resembles.mpr (literal row stored own)

/-! ### A text with an underscore -/

def hyphenStore : Store :=
  (addFindings "a" [{ severity := .str "high", title := .str "t", file := .str "my-util.py" }] "" {}).2

/-- A hyphen is plain, so that a search for it is one for a part. -/
theorem findFindings_literal_iff_hyphen :
    "-" ≠ "" ∧ (findFindings "a" (some "-") none hyphenStore).1 =
      .ok ((hyphenStore.visible.findingsOf "a" none).filter (holdsText "-")) := by
  have given : "-" ≠ "" := by decide
  have searchable : Searchable hyphenStore "a" "-" :=
    ⟨rfl, by decide +kernel, by decide +kernel, Or.inl (by decide)⟩
  have files : ∀ row ∈ hyphenStore.visible.findings, row.file = some "my-util.py" := by decide +kernel
  have free : Text.NullFree "my-util.py".toList := by decide +kernel
  have plain : ∀ c ∈ "-".toList, Text.IsPlain c := by
    intro c member
    obtain rfl : c = '-' := List.mem_singleton.mp member
    unfold Text.IsPlain
    decide
  refine ⟨given, (findFindings_literal_iff hyphenStore "a" "-" given).2.1.mpr ⟨searchable, ?_⟩⟩
  intro row member _ file same
  obtain rfl := Option.some.inj ((files row member).symm.trans same)
  exact (Text.literal_iff_plain "-".toList).mpr plain _ free

/-- A text with an underscore finds a file that has another character in its place. -/
theorem findFindings_finds_unlike :
    (findFindings "a" (some "my_util.py") none hyphenStore).1.toOption.map List.length = some 1 ∧
      ((hyphenStore.visible.findingsOf "a" none).filter (holdsText "my_util.py")).length = 0 := by
  constructor
  · decide +kernel
  · decide +kernel

end Store

end ChangeImpact
