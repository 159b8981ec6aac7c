import ChangeImpact.Proofs.Dependents
import ChangeImpact.Proofs.FindingSearch
import ChangeImpact.Proofs.ImportRules
import ChangeImpact.Workbench

/-!
The findings that a change may carry on. They are looked for by the text of the file before their components are
compared, and the search loses none of them to its wildcards: a text is like itself. It loses those whose path has a null
character in front of the file, unless the part before that is like the file as well.
-/

set_option autoImplicit false

namespace ChangeImpact

namespace Text

variable {separator : Char}

theorem cut_ne_nil (text : List Char) : cut separator text ≠ [] := by
  cases text with
  | nil => simp [cut]
  | cons c rest =>
      unfold cut
      split
      · simp
      · split <;> simp

theorem cut_separator (text : List Char) : cut separator (separator :: text) = [] :: cut separator text := by
  rw [cut, if_pos rfl]

/-- A character that is no separator goes to the first piece. -/
theorem cut_plain {c : Char} (plain : c ≠ separator) {text piece : List Char} {pieces : List (List Char)}
    (rest : cut separator text = piece :: pieces) : cut separator (c :: text) = (c :: piece) :: pieces := by
  rw [cut, if_neg plain, rest]

theorem exists_cut (separator : Char) (text : List Char) :
    ∃ piece pieces, cut separator text = piece :: pieces :=
  List.exists_cons_of_ne_nil (cut_ne_nil text)

theorem cut_join (front back : List Char) :
    cut separator (front ++ separator :: back) = cut separator front ++ cut separator back := by
  induction front with
  | nil => exact cut_separator back
  | cons c rest ih =>
      rw [List.cons_append]
      by_cases same : c = separator
      · subst same
        rw [cut_separator, cut_separator, ih, List.cons_append]
      · obtain ⟨piece, pieces, here⟩ := exists_cut separator rest
        rw [here, List.cons_append] at ih
        rw [cut_plain same ih, cut_plain same here, List.cons_append]

theorem joinWith_cut (text : List Char) : joinWith [separator] (cut separator text) = text := by
  induction text with
  | nil => rfl
  | cons c rest ih =>
      obtain ⟨piece, pieces, here⟩ := exists_cut separator rest
      rw [here] at ih
      by_cases mark : c = separator
      · subst mark
        rw [cut_separator, here, joinWith, ih]
        · rfl
        · exact List.cons_ne_nil _ _
      · rw [cut_plain mark here]
        cases pieces with
        | nil => exact congrArg (c :: ·) ih
        | cons next others => exact congrArg (c :: ·) ih

theorem cut_injective : Function.Injective (cut separator) :=
  Function.LeftInverse.injective joinWith_cut

/-- The last pieces of a path are those of a target when the path is the target or ends with it after a separator. -/
theorem cut_suffix_iff (target path : List Char) :
    cut separator target <:+ cut separator path ↔ path = target ∨ ∃ front, path = front ++ separator :: target := by
  constructor
  · intro ends
    induction path with
    | nil =>
        have whole := ends.eq_of_length_le (List.length_pos_iff.mpr (cut_ne_nil target))
        exact Or.inl (cut_injective whole.symm)
    | cons c rest ih =>
        obtain ⟨piece, pieces, here⟩ := exists_cut separator rest
        -- All pieces of the path, or some of those after the first.
        by_cases mark : c = separator
        · subst mark
          rw [cut_separator, List.suffix_cons_iff, ← cut_separator] at ends
          rcases ends with whole | later
          · exact Or.inl (cut_injective whole.symm)
          · rcases ih later with rfl | ⟨front, rfl⟩
            · exact Or.inr ⟨[], rfl⟩
            · exact Or.inr ⟨c :: front, rfl⟩
        · rw [cut_plain mark here, List.suffix_cons_iff, ← cut_plain mark here] at ends
          rcases ends with whole | later
          · exact Or.inl (cut_injective whole.symm)
          · rcases ih (here ▸ later.trans (List.suffix_cons piece pieces)) with rfl | ⟨front, rfl⟩
            · rw [here] at later
              exact absurd later.length_le (Nat.not_succ_le_self _)
            · exact Or.inr ⟨c :: front, rfl⟩
  · rintro (rfl | ⟨front, rfl⟩)
    · exact List.suffix_refl _
    · rw [cut_join]
      exact List.suffix_append _ _

/-! ### A file that is not found -/

/-- Whether a null character hides a target at the end of a path: what stands before that is not like the target. -/
def hides (target path : List Char) : Bool :=
  let front := path.take (path.length - target.length)
  !decide (NullFree front) && !decide (MatchesPart target front)

theorem hides_append (target front : List Char) :
    hides target (front ++ target) = true ↔ ¬MatchesPart target (front ++ target) := by
  have taken : (front ++ target).take ((front ++ target).length - target.length) = front := by
    rw [List.length_append, Nat.add_sub_cancel, List.take_left]
  unfold hides
  dsimp only
  rw [taken, Bool.and_eq_true, Bool.not_eq_true', Bool.not_eq_true', decide_eq_false_iff_not, decide_eq_false_iff_not]
  by_cases free : NullFree front
  · have found := matchesPart_append free target []
    rw [List.append_nil] at found
    simp only [free, found, not_true_eq_false, false_and]
  · have same : MatchesPart target (front ++ target) ↔ MatchesPart target front := by
      unfold MatchesPart
      rw [upToNull_append_of_cut free]
    simp only [free, same, not_false_eq_true, true_and]

end Text

/-! ### The order of reading -/

namespace Store

def isAt (rank : Nat) (time : String) (row : StoredFinding) : Bool :=
  Finding.rank row.severity == rank && row.createdAt == time

/-- Stored findings in the order in which they are read: by severity, then by time, then as they are stored. -/
structure InReadingOrder (stored rows : List StoredFinding) : Prop where
  perm : rows.Perm stored
  ascending : rows.Pairwise fun earlier later =>
    Finding.rank earlier.severity < Finding.rank later.severity ∨
      Finding.rank earlier.severity = Finding.rank later.severity ∧ earlier.createdAt ≤ later.createdAt
  stable : ∀ rank time, rows.filter (isAt rank time) = stored.filter (isAt rank time)

theorem precedes_iff {left right : StoredFinding} :
    precedes left right = true ↔
      Finding.rank left.severity < Finding.rank right.severity ∨
        Finding.rank left.severity = Finding.rank right.severity ∧ left.createdAt ≤ right.createdAt := by
  unfold precedes
  simp

theorem precedes_trans (one two three : StoredFinding) (first : precedes one two = true)
    (second : precedes two three = true) : precedes one three = true := by
  rw [precedes_iff] at first second ⊢
  rcases first with less | ⟨same, earlier⟩
  · rcases second with also | ⟨equal, _⟩
    · exact Or.inl (less.trans also)
    · exact Or.inl (equal ▸ less)
  · rcases second with also | ⟨equal, later⟩
    · exact Or.inl (same ▸ also)
    · exact Or.inr ⟨same.trans equal, String.le_trans earlier later⟩

theorem precedes_total (left right : StoredFinding) : (precedes left right || precedes right left) = true := by
  rw [Bool.or_eq_true, precedes_iff, precedes_iff]
  rcases Nat.lt_trichotomy (Finding.rank left.severity) (Finding.rank right.severity) with less | same | more
  · exact Or.inl (Or.inl less)
  · rcases String.le_total left.createdAt right.createdAt with earlier | later
    · exact Or.inl (Or.inr ⟨same, earlier⟩)
    · exact Or.inr (Or.inr ⟨same.symm, later⟩)
  · exact Or.inr (Or.inl more)

/-- Findings that are in order already stay as they stand when they are sorted among others. -/
theorem filter_mergeSort {stored : List StoredFinding} {test : StoredFinding → Bool}
    (even : (stored.filter test).Pairwise fun left right => precedes left right = true) :
    (stored.mergeSort precedes).filter test = stored.filter test := by
  have kept := (List.sublist_mergeSort precedes_trans precedes_total even List.filter_sublist).filter test
  rw [List.filter_filter, List.filter_congr fun row _ => Bool.and_self _] at kept
  exact (kept.eq_of_length ((List.mergeSort_perm stored precedes).filter _).length_eq.symm).symm

theorem inReadingOrder_mergeSort (stored : List StoredFinding) :
    InReadingOrder stored (stored.mergeSort precedes) where
  perm := List.mergeSort_perm stored precedes
  ascending := (List.pairwise_mergeSort precedes_trans precedes_total stored).imp precedes_iff.mp
  stable rank time := by
    refine filter_mergeSort (List.pairwise_iff_forall_sublist.mpr ?_)
    intro left right both
    have one := List.mem_filter.mp (both.subset List.mem_cons_self)
    have two := List.mem_filter.mp (both.subset (List.mem_cons_of_mem _ List.mem_cons_self))
    simp only [isAt, Bool.and_eq_true, beq_iff_eq] at one two
    have time := one.2.2.trans two.2.2.symm
    exact precedes_iff.mpr (Or.inr ⟨one.2.1.trans two.2.1.symm, time ▸ String.le_refl _⟩)

theorem InReadingOrder.filter {stored rows : List StoredFinding} (order : InReadingOrder stored rows)
    (keep : StoredFinding → Bool) : InReadingOrder (stored.filter keep) (rows.filter keep) where
  perm := order.perm.filter keep
  ascending := order.ascending.filter keep
  stable rank time := by
    rw [List.filter_comm, order.stable rank time, List.filter_comm]

theorem inReadingOrder_findingsOf (image : Image) (analysis : String) :
    InReadingOrder (image.rowsOf analysis) (image.findingsOf analysis none) := by
  rw [findingsOf_none]
  exact inReadingOrder_mergeSort _

end Store

namespace Impact

open Store

variable {graph : Graph} {store : Store} {analysis file : String} {function : Option String} {maxDepth : Int}
  {result : Result}

theorem sameFile_iff {path : String} (given : file ≠ "") :
    sameFile (some path) file = true ↔ Text.cut '/' file.toList <:+ Text.cut '/' path.toList := by
  have slash : ("/" ++ file).toList = '/' :: file.toList := by
    rw [String.toList_append]
    rfl
  unfold sameFile
  simp only [Bool.and_eq_true, Bool.or_eq_true, beq_iff_eq, decide_eq_true_eq]
  rw [Text.cut_suffix_iff, Text.endsWith_iff, slash, String.toList_inj]
  constructor
  · exact fun same => same.2
  · intro same
    refine ⟨?_, same⟩
    rintro rfl
    rcases same with empty | ⟨front, empty⟩
    · exact given empty.symm
    · exact absurd empty.symm (List.append_ne_nil_of_right_ne_nil _ (List.cons_ne_nil _ _))

/-- Whether a finding of an analysis is grave and is about a file, by the last components of its path. -/
def concerns (analysis file : String) (row : StoredFinding) : Bool :=
  row.analysis == analysis && (row.severity == "critical" || row.severity == "high") &&
    row.file.any fun path => decide (Text.cut '/' file.toList <:+ Text.cut '/' path.toList)

def isHidden (file : String) (row : StoredFinding) : Bool :=
  row.file.any fun path => Text.hides file.toList path.toList

/-- A path that ends with a file holds a part like it, unless the file is hidden there. -/
theorem decide_matchesPart {path : String}
    (ends : Text.cut '/' file.toList <:+ Text.cut '/' path.toList) :
    decide (Text.MatchesPart file.toList path.toList) = !Text.hides file.toList path.toList := by
  obtain ⟨front, whole⟩ : ∃ front, path.toList = front ++ file.toList := by
    rcases (Text.cut_suffix_iff _ _).mp ends with same | ⟨front, whole⟩
    · exact ⟨[], same⟩
    · exact ⟨front ++ ['/'], by rw [whole, List.append_assoc]; rfl⟩
  rw [whole, Bool.eq_iff_iff, Bool.not_eq_true', ← Bool.not_eq_true, Text.hides_append, not_not, decide_eq_true_eq]

theorem found_eq (given : file ≠ "") (row : StoredFinding) :
    (propagatingSeverities.contains row.severity && sameFile row.file file &&
        resemblesText file row && row.analysis == analysis) =
      (concerns analysis file row && !isHidden file row) := by
  have grave : propagatingSeverities.contains row.severity = (row.severity == "critical" || row.severity == "high") := by
    unfold propagatingSeverities
    rw [List.contains_cons, List.contains_cons, List.contains_nil, Bool.or_false]
  rw [grave]
  unfold resemblesText concerns isHidden
  cases row.file with
  | none => simp [sameFile]
  | some path =>
      simp only [Option.any_some]
      by_cases ends : Text.cut '/' file.toList <:+ Text.cut '/' path.toList
      · rw [(sameFile_iff given).mpr ends, decide_eq_true ends, decide_matchesPart ends]
        ac_rfl
      · have other : sameFile (some path) file = false := by
          rw [← Bool.not_eq_true, sameFile_iff given]
          exact ends
        rw [other, decide_eq_false ends]
        simp

theorem file_ne_empty (found : targets graph file function ≠ []) : file ≠ "" := by
  rintro rfl
  apply found
  have unnamed : (graph.nodes.filter fun node => node.file? == some "") = [] := by
    rw [List.filter_eq_nil_iff]
    intro node _ same
    unfold Node.file? at same
    rw [beq_iff_eq, Option.filter_eq_some_iff] at same
    exact absurd same.2 (by decide)
  unfold targets
  rw [unnamed]
  cases function.filter (· ≠ "") <;> rfl

theorem analyze_propagation {findings : List StoredFinding} (found : targets graph file function ≠ [])
    (answered : analyze graph findings file function maxDepth = .ok result) :
    result.propagation = propagation findings file result.directFiles := by
  unfold analyze at answered
  dsimp only at answered
  rw [if_neg (by simpa using found)] at answered
  obtain ⟨directFiles, direct, answered⟩ := Outcome.bind_ok answered
  obtain ⟨transitiveFiles, transitive, answered⟩ := Outcome.bind_ok answered
  obtain ⟨percent, scored, same⟩ := Outcome.bind_ok answered
  cases same
  rfl

/-- A result tells of the findings in the order of reading, each with the changed file and the first of those that depend
on it. -/
def ListsFindings (stored : List StoredFinding) (file : String) (result : Result) : Prop :=
  ∃ rows, InReadingOrder stored rows ∧
    result.propagation = rows.map fun row =>
      { finding := row.title, severity := row.severity, path := file :: result.directFiles.take 5 }

theorem ListsFindings.length_eq {stored : List StoredFinding} (tells : ListsFindings stored file result) :
    result.propagation.length = stored.length := by
  obtain ⟨rows, order, same⟩ := tells
  rw [same, List.length_map, order.perm.length_eq]

theorem listsFindings_nil (quiet : result.propagation = []) : ListsFindings [] file result :=
  ⟨[], ⟨List.Perm.nil, List.Pairwise.nil, fun _ _ => rfl⟩, quiet⟩

/-- A result that tells of a selection tells of all findings when nothing was left out: it would be too short. -/
theorem ListsFindings.all_iff {stored : List StoredFinding} {keep : StoredFinding → Bool}
    (told : ListsFindings (stored.filter keep) file result) :
    ListsFindings stored file result ↔ ∀ row ∈ stored, keep row = true := by
  constructor
  · intro tells
    exact List.length_filter_eq_length_iff.mp (told.length_eq.symm.trans tells.length_eq)
  · intro kept
    rwa [List.filter_eq_self.mpr kept] at told

theorem findingsAbout_of_searchable (given : file ≠ "") (searchable : Searchable store analysis file) :
    Workbench.findingsAbout store analysis file =
      (store.visible.findingsOf analysis none).filter (resemblesText file) := by
  unfold Workbench.findingsAbout
  rw [findFindings_held given searchable, fileIsLike_held]

theorem findingsAbout_of_not_searchable (given : file ≠ "") (refused : ¬Searchable store analysis file) :
    Workbench.findingsAbout store analysis file = [] := by
  unfold Workbench.findingsAbout
  split
  · rename_i answered
    exact absurd (searchable_of_answer given answered) refused
  · rfl

theorem tells_of_searchable (found : targets graph file function ≠ [])
    (answered : analyze graph (Workbench.findingsAbout store analysis file) file function maxDepth = .ok result)
    (searchable : Searchable store analysis file) :
    ListsFindings (store.visible.findings.filter fun row => concerns analysis file row && !isHidden file row) file
      result := by
  have given := file_ne_empty found
  have order := ((inReadingOrder_findingsOf store.visible analysis).filter (resemblesText file)).filter fun row =>
    propagatingSeverities.contains row.severity && sameFile row.file file
  have stored : ((store.visible.rowsOf analysis).filter (resemblesText file)).filter (fun row =>
      propagatingSeverities.contains row.severity && sameFile row.file file) =
        store.visible.findings.filter fun row => concerns analysis file row && !isHidden file row := by
    unfold Image.rowsOf
    rw [List.filter_filter, List.filter_filter]
    exact List.filter_congr fun row _ => found_eq given row
  rw [stored] at order
  refine ⟨_, order, ?_⟩
  rw [analyze_propagation found answered, findingsAbout_of_searchable given searchable]
  rfl

theorem propagation_of_not_searchable (found : targets graph file function ≠ [])
    (answered : analyze graph (Workbench.findingsAbout store analysis file) file function maxDepth = .ok result)
    (refused : ¬Searchable store analysis file) : result.propagation = [] := by
  rw [analyze_propagation found answered, findingsAbout_of_not_searchable (file_ne_empty found) refused]
  rfl

/-- When the analysis of a change tells of all grave findings about the file. -/
theorem analyze_tells_iff (graph : Graph) (store : Store) (analysis file : String) (function : Option String)
    (maxDepth : Int) (found : targets graph file function ≠ []) :
    (graph.Closed → ∃ result,
      analyze graph (Workbench.findingsAbout store analysis file) file function maxDepth = .ok result) ∧
    ∀ result, analyze graph (Workbench.findingsAbout store analysis file) file function maxDepth = .ok result →
      (Searchable store analysis file →
        ListsFindings (store.visible.findings.filter fun row => concerns analysis file row && !isHidden file row) file
          result) ∧
      (ListsFindings (store.visible.findings.filter (concerns analysis file)) file result ↔
        ∀ row ∈ store.visible.findings, concerns analysis file row = true →
          Searchable store analysis file ∧ isHidden file row = false) := by
  constructor
  · intro closed
    obtain ⟨result, answered, _⟩ :=
      analyze_exists closed (Workbench.findingsAbout store analysis file) file function maxDepth
    exact ⟨result, answered⟩
  · intro result answered
    refine ⟨tells_of_searchable found answered, ?_⟩
    by_cases searchable : Searchable store analysis file
    · have told := tells_of_searchable found answered searchable
      have twice : (store.visible.findings.filter fun row => concerns analysis file row && !isHidden file row) =
          (store.visible.findings.filter (concerns analysis file)).filter fun row => !isHidden file row := by
        rw [List.filter_filter]
        exact List.filter_congr fun row _ => Bool.and_comm _ _
      rw [twice] at told
      rw [told.all_iff]
      simp only [List.mem_filter, and_imp, Bool.not_eq_true', searchable, true_and]
    · have quiet := @listsFindings_nil file result (propagation_of_not_searchable found answered searchable)
      rw [← List.filter_false (store.visible.findings.filter (concerns analysis file))] at quiet
      rw [quiet.all_iff]
      simp only [List.mem_filter, and_imp, searchable, false_and, Bool.false_eq_true]

/-! ### Two stores -/

def moduleGraph (file : String) : Graph :=
  { analysis := "a"
    nodes := [{ id := "m", analysis := "a", kind := .moduleKind, name := "m", file := some file }]
    edges := [] }

def gravelyFound (files : List String) : Store :=
  (addFindings "a" (files.map fun file => { severity := .str "high", title := .str "t", file := .str file }) "" {}).2

/-- Of two files that are like the text, only the one that ends with it is told of. -/
theorem analyze_tells_iff_wildcard :
    targets (moduleGraph "a_b.py") "a_b.py" none ≠ [] ∧
      ∃ result, analyze (moduleGraph "a_b.py")
          (Workbench.findingsAbout (gravelyFound ["src/axb.py", "src/a_b.py"]) "a" "a_b.py") "a_b.py" none 5 =
            .ok result ∧
        ListsFindings ((gravelyFound ["src/axb.py", "src/a_b.py"]).visible.findings.filter (concerns "a" "a_b.py"))
          "a_b.py" result ∧
        result.propagation.length = 1 := by
  have found : targets (moduleGraph "a_b.py") "a_b.py" none ≠ [] := by decide +kernel
  have closed : (moduleGraph "a_b.py").Closed := by
    intro edge member
    cases member
  have searchable : Searchable (gravelyFound ["src/axb.py", "src/a_b.py"]) "a" "a_b.py" :=
    ⟨rfl, by decide +kernel, by decide +kernel, Or.inl (by decide)⟩
  have shown : ∀ row ∈ (gravelyFound ["src/axb.py", "src/a_b.py"]).visible.findings,
      isHidden "a_b.py" row = false := by decide +kernel
  obtain ⟨answers, told⟩ := analyze_tells_iff (moduleGraph "a_b.py")
    (gravelyFound ["src/axb.py", "src/a_b.py"]) "a" "a_b.py" none 5 found
  obtain ⟨result, answered⟩ := answers closed
  have tells := (told result answered).2.mpr fun row stored _ => ⟨searchable, shown row stored⟩
  have one : ((gravelyFound ["src/axb.py", "src/a_b.py"]).visible.findings.filter
      (concerns "a" "a_b.py")).length = 1 := by decide +kernel
  exact ⟨found, result, answered, tells, tells.length_eq.trans one⟩

/-- A finding is lost to a null character in front of the file. -/
theorem analyze_loses_hidden :
    ((analyze (moduleGraph "a.py") (Workbench.findingsAbout (gravelyFound ["x\u0000/a.py"]) "a" "a.py") "a.py" none
        5).toOption.map Result.propagation) = some [] ∧
      ((gravelyFound ["x\u0000/a.py"]).visible.findings.filter (concerns "a" "a.py")).length = 1 := by
  constructor
  · decide +kernel
  · decide +kernel

end Impact

end ChangeImpact
