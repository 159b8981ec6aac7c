import ChangeImpact.Language
import ChangeImpact.ModulePath
import Mathlib.Data.List.TakeDrop
import Mathlib.Data.List.TakeWhile

/-!
How the imports of a file are read, and in which language the file itself is read. The language follows the extension in
lower case; the rule for imports asks whether the path ends, as it is written, in one of two endings.
-/

set_option autoImplicit false

namespace ChangeImpact

/-! ### Endings of texts -/

namespace Text

theorem endsWith_iff {text ending : String} :
    endsWith text ending = true ↔ ∃ front, text.toList = front ++ ending.toList := by
  unfold endsWith
  rw [List.isSuffixOf_iff_suffix]
  constructor
  · rintro ⟨front, whole⟩
    exact ⟨front, whole.symm⟩
  · rintro ⟨front, whole⟩
    exact ⟨front, whole.symm⟩

/-- What is added without a separator belongs to the last piece. -/
theorem cut_append (separator : Char) (front : List Char) {tail : List Char} (plain : separator ∉ tail) :
    ∃ pieces last, cut separator (front ++ tail) = pieces ++ [last ++ tail] := by
  induction front with
  | nil =>
      refine ⟨[], [], ?_⟩
      induction tail with
      | nil => rfl
      | cons c rest ih =>
          have different : c ≠ separator := fun same => plain (same ▸ List.mem_cons_self)
          have later := ih fun member => plain (List.mem_cons_of_mem _ member)
          simp only [List.nil_append] at later ⊢
          rw [cut, if_neg different, later]
  | cons c rest ih =>
      obtain ⟨pieces, last, later⟩ := ih
      rw [List.cons_append, cut]
      split
      · exact ⟨[] :: pieces, last, by rw [later]; rfl⟩
      · rw [later]
        cases pieces with
        | nil => exact ⟨[], c :: last, rfl⟩
        | cons piece others => exact ⟨(c :: piece) :: others, last, rfl⟩

theorem splitLast_append (mark : Char) (before : List Char) {after : List Char} (absent : mark ∉ after) :
    splitLast mark (before ++ mark :: after) = some (before, after) := by
  have behind : ∀ c ∈ after.reverse, decide (c ≠ mark) = true := by
    intro c member
    exact decide_eq_true fun same => absent (same ▸ List.mem_reverse.mp member)
  unfold splitLast
  rw [List.reverse_append, List.reverse_cons, List.append_assoc, List.singleton_append,
    List.span_eq_takeWhile_dropWhile, List.takeWhile_append_of_pos behind, List.dropWhile_append_of_pos behind]
  simp

end Text

/-! ### The extension of a path that ends in a given way -/

namespace Path

variable {file : String} {front ending : List Char}

theorem fileName_of_ending (filled : ending ≠ []) (plain : '/' ∉ ending)
    (ends : file.toList = front ++ '.' :: ending) :
    ∃ start, fileName file = String.ofList (start ++ '.' :: ending) := by
  have tail : '/' ∉ '.' :: ending := by
    simp [plain]
  obtain ⟨pieces, start, pieced⟩ := Text.cut_append '/' front tail
  have long : 1 < (String.ofList (start ++ '.' :: ending)).toList.length := by
    have some := List.length_pos_iff.mpr filled
    rw [String.toList_ofList, List.length_append, List.length_cons]
    omega
  have named : String.ofList (start ++ '.' :: ending) ≠ "" ∧ String.ofList (start ++ '.' :: ending) ≠ "." := by
    constructor
    · intro same
      rw [same] at long
      exact absurd long (by decide)
    · intro same
      rw [same] at long
      exact absurd long (by decide)
  refine ⟨start, ?_⟩
  unfold fileName components Text.split
  rw [ends, pieced, List.map_append, List.filter_append, List.map_singleton]
  generalize String.ofList (start ++ '.' :: ending) = name at named ⊢
  have kept : ([name].filter fun part => part ≠ "" && part ≠ ".") = [name] := by
    simp [named]
  rw [kept, List.getLastD_concat]

/-- A path that ends in a dot and a plain ending has that extension, unless nothing stands before the dot. -/
theorem fileExtension_of_ending (filled : ending ≠ [])
    (plain : '/' ∉ ending ∧ '\\' ∉ ending ∧ '.' ∉ ending) (ends : file.toList = front ++ '.' :: ending) :
    fileExtension file = "" ∨ fileExtension file = Text.lower (String.ofList ('.' :: ending)) := by
  have kept : ending.map (fun c => if c = '\\' then '/' else c) = ending := by
    have same : ∀ c ∈ ending, (if c = '\\' then '/' else c) = c := by
      intro c member
      apply if_neg
      rintro rfl
      exact plain.2.1 member
    exact (List.map_congr_left same).trans (List.map_id _)
  have exchanged : (Text.exchange '\\' '/' file).toList =
      front.map (fun c => if c = '\\' then '/' else c) ++ '.' :: ending := by
    unfold Text.exchange
    rw [String.toList_ofList, ends, List.map_append, List.map_cons, kept]
    rfl
  obtain ⟨start, named⟩ := fileName_of_ending filled plain.1 exchanged
  unfold fileExtension suffix cutName?
  rw [named, String.toList_ofList, Text.splitLast_append '.' start plain.2.2]
  dsimp only
  have full : ending.isEmpty = false := by simpa using filled
  rw [full, Bool.or_false]
  cases start with
  | nil => exact Or.inl rfl
  | cons c rest => exact Or.inr rfl

end Path

/-! ### The table of languages -/

namespace LanguageTable

/-- The files that are read as Python are those with one of the endings of dotted names as their extension. -/
theorem languageOf?_python {file : String} :
    standard.languageOf? file = some "python" ↔ Path.fileExtension file ∈ ModulePath.dottedEndings := by
  have only : ∀ entry ∈ standard.entries, entry.2.name = "python" → entry.1 ∈ ModulePath.dottedEndings := by
    decide +kernel
  have listed : ∀ ending ∈ ModulePath.dottedEndings,
      (standard.entries.lookup ending).map LanguageEntry.name = some "python" := by
    decide +kernel
  unfold languageOf? find?
  generalize standard.entries = entries at only listed ⊢
  generalize Path.fileExtension file = extension
  constructor
  · intro python
    obtain ⟨entry, found, named⟩ := Option.map_eq_some_iff.mp python
    obtain ⟨before, after, split, _⟩ := List.lookup_eq_some_iff.mp found
    have member : (extension, entry) ∈ entries := by
      rw [split]
      exact List.mem_append_right _ List.mem_cons_self
    exact only _ member named
  · exact listed extension

theorem fileExtension_ne_empty {file : String} (supported : standard.supports file = true) :
    Path.fileExtension file ≠ "" := by
  intro empty
  have unlisted : (standard.entries.lookup "").isSome = false := by decide +kernel
  unfold supports find? at supported
  rw [empty, unlisted] at supported
  cases supported

end LanguageTable

/-! ### Two decisions on one path -/

namespace ModulePath

/-- A supported file that ends in one of the endings of dotted names has that ending as its extension. -/
theorem fileExtension_of_endsWith {file ending : String} (supported : LanguageTable.standard.supports file = true)
    (dotted : ending ∈ dottedEndings) (ends : Text.endsWith file ending = true) :
    Path.fileExtension file = ending := by
  have shape : ∀ ending ∈ dottedEndings, ∃ letters, ending = String.ofList ('.' :: letters) ∧ letters ≠ [] ∧
      ('/' ∉ letters ∧ '\\' ∉ letters ∧ '.' ∉ letters) ∧ Text.lower ending = ending := by
    intro ending dotted
    rw [dottedEndings, List.mem_cons, List.mem_singleton] at dotted
    rcases dotted with rfl | rfl
    · exact ⟨['p', 'y'], by decide +kernel⟩
    · exact ⟨['p', 'y', 'w'], by decide +kernel⟩
  obtain ⟨letters, rfl, filled, plain, lowered⟩ := shape ending dotted
  obtain ⟨front, whole⟩ := Text.endsWith_iff.mp ends
  rw [String.toList_ofList] at whole
  rcases Path.fileExtension_of_ending filled plain whole with empty | found
  · exact absurd empty (LanguageTable.fileExtension_ne_empty supported)
  · exact found.trans lowered

theorem usesDottedNames_iff {file : String} (supported : LanguageTable.standard.supports file = true) :
    usesDottedNames file = true ↔
      LanguageTable.standard.languageOf? file = some "python" ∧
        Text.endsWith file (Path.fileExtension file) = true := by
  unfold usesDottedNames
  rw [List.any_eq_true, LanguageTable.languageOf?_python]
  constructor
  · rintro ⟨ending, dotted, ends⟩
    rw [fileExtension_of_endsWith supported dotted ends]
    exact ⟨dotted, ends⟩
  · rintro ⟨dotted, ends⟩
    exact ⟨_, dotted, ends⟩

theorem mem_dottedFiles_bare (file : String) : "x.py" ∈ dottedFiles "x" file := by
  have top : "" ∈ startingPoints 0 (Path.parent file) := by
    change "" ∈ if Path.parent file = "" then [""] else ["", Path.parent file]
    split
    · exact List.mem_singleton_self ""
    · exact List.mem_cons_self
  exact List.mem_flatMap.mpr ⟨"", top, by decide +kernel⟩

/-- A bare name tells the two rules apart: it leads to a file as a dotted name and nowhere as a path. -/
theorem candidates_dotted_iff {file : String} :
    (∀ specifier, candidates specifier file = dottedFiles specifier file) ↔ usesDottedNames file = true := by
  constructor
  · intro dotted
    by_contra script
    have found := mem_dottedFiles_bare file
    have bare : candidates "x" file = [] := if_neg script
    rw [← dotted "x", bare] at found
    cases found
  · intro uses specifier
    exact if_pos uses

/-- The rule for imports follows the language of a supported file exactly when a file that is read as Python is written
with its extension in lower case at the very end of its path. The other way never fails: only what is read as
Python has dotted names. -/
theorem rules_follow_language_iff (file : String) (supported : LanguageTable.standard.supports file = true) :
    (((∀ specifier, candidates specifier file = dottedFiles specifier file) ↔
        LanguageTable.standard.languageOf? file = some "python") ↔
      (LanguageTable.standard.languageOf? file = some "python" →
        Text.endsWith file (Path.fileExtension file) = true)) ∧
    ((∀ specifier, candidates specifier file = dottedFiles specifier file) →
      LanguageTable.standard.languageOf? file = some "python") := by
  rw [candidates_dotted_iff, usesDottedNames_iff supported]
  refine ⟨?_, And.left⟩
  constructor
  · intro agree read
    exact (agree.mpr read).2
  · intro written
    exact ⟨And.left, fun read => ⟨read, written read⟩⟩

/-- A module whose extension is in capitals is read as Python, and the module that it imports by a bare name is looked
for nowhere. -/
theorem rules_follow_language_fails :
    LanguageTable.standard.supports "main.PY" = true ∧
      LanguageTable.standard.languageOf? "main.PY" = some "python" ∧
      dottedFiles "util" "main.PY" = ["util.py", "util/__init__.py"] ∧
      candidates "util" "main.PY" = [] := by
  decide +kernel

theorem rules_follow_language_iff_lower :
    LanguageTable.standard.supports "lib/main.pyw" = true ∧
      ((∀ specifier, candidates specifier "lib/main.pyw" = dottedFiles specifier "lib/main.pyw") ↔
        LanguageTable.standard.languageOf? "lib/main.pyw" = some "python") := by
  have supported : LanguageTable.standard.supports "lib/main.pyw" = true := by decide +kernel
  have written : Text.endsWith "lib/main.pyw" (Path.fileExtension "lib/main.pyw") = true := by decide +kernel
  exact ⟨supported, (rules_follow_language_iff _ supported).1.mpr fun _ => written⟩

end ModulePath

end ChangeImpact
