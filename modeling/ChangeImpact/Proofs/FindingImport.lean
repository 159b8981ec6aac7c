import ChangeImpact.Proofs.FindingFile
import ChangeImpact.Proofs.HeldFiles

/-!
What the import of a file of findings adds to an analysis. An entry without an id takes a new one, but an id of null is
the text of null, so all entries with such an id are kept under one key and the last of them is left.
-/

set_option autoImplicit false

namespace ChangeImpact

open ChangeImpact.Json (Value)

namespace Store

variable {now analysis : String} {store : Store}

/-! ### Rows of the same analysis -/

theorem rowsOf_replaceFinding_own {row : StoredFinding} (own : row.analysis = analysis) (image : Image) :
    (image.replaceFinding row).rowsOf analysis =
      (image.rowsOf analysis).filter (fun known => known.id ≠ row.id) ++ [row] := by
  unfold Image.rowsOf Image.replaceFinding
  rw [List.filter_append, List.filter_singleton, beq_iff_eq.mpr own, List.filter_filter, List.filter_filter]
  congr 1
  apply List.filter_congr
  intro known _
  exact Bool.and_comm _ _

theorem rowsOf_replaceAll_own {rows : List StoredFinding} (own : ∀ row ∈ rows, row.analysis = analysis)
    (distinct : (rows.map StoredFinding.id).Nodup) (image : Image)
    (new : ∀ known ∈ image.rowsOf analysis, known.id ∉ rows.map StoredFinding.id) :
    (image.replaceAll rows).rowsOf analysis = image.rowsOf analysis ++ rows := by
  induction rows generalizing image with
  | nil => exact (List.append_nil _).symm
  | cons row rest ih =>
      obtain ⟨here, others⟩ := List.forall_mem_cons.mp own
      obtain ⟨single, apart⟩ := List.nodup_cons.mp distinct
      have kept : (image.replaceFinding row).rowsOf analysis = image.rowsOf analysis ++ [row] := by
        rw [rowsOf_replaceFinding_own here, List.filter_eq_self.mpr]
        intro known member
        apply decide_eq_true
        intro same
        exact new known member (same ▸ List.mem_cons_self)
      have later : ∀ known ∈ (image.replaceFinding row).rowsOf analysis, known.id ∉ rest.map StoredFinding.id := by
        intro known member
        rw [kept, List.mem_append, List.mem_singleton] at member
        rcases member with old | rfl
        · exact fun among => new known old (List.mem_cons_of_mem _ among)
        · exact single
      change ((image.replaceFinding row).replaceAll rest).rowsOf analysis = _
      rw [ih others apart _ later, kept, List.append_assoc, List.singleton_append]

theorem length_replaceFinding {row : StoredFinding} (own : row.analysis = analysis) (image : Image) :
    ((image.replaceFinding row).rowsOf analysis).length =
      ((image.rowsOf analysis).filter fun known => known.id ≠ row.id).length + 1 := by
  rw [rowsOf_replaceFinding_own own, List.length_append, List.length_singleton]

theorem length_replaceAll_le {rows : List StoredFinding} (own : ∀ row ∈ rows, row.analysis = analysis)
    (image : Image) :
    ((image.replaceAll rows).rowsOf analysis).length ≤ (image.rowsOf analysis).length + rows.length := by
  induction rows generalizing image with
  | nil => exact Nat.le_refl _
  | cons row rest ih =>
      obtain ⟨here, others⟩ := List.forall_mem_cons.mp own
      have later := ih others (image.replaceFinding row)
      have fewer := List.length_filter_le (fun known => known.id ≠ row.id) (image.rowsOf analysis)
      rw [length_replaceFinding here] at later
      change (((image.replaceFinding row).replaceAll rest).rowsOf analysis).length ≤ _
      rw [List.length_cons]
      omega

/-- Rows of one analysis are added one by one exactly when no two of them have one id and none has the id of a row
that is there. -/
theorem length_replaceAll_iff {rows : List StoredFinding} (own : ∀ row ∈ rows, row.analysis = analysis)
    (image : Image) :
    ((image.replaceAll rows).rowsOf analysis).length = (image.rowsOf analysis).length + rows.length ↔
      (rows.map StoredFinding.id).Nodup ∧
        ∀ known ∈ image.rowsOf analysis, known.id ∉ rows.map StoredFinding.id := by
  constructor
  · intro grown
    induction rows generalizing image with
    | nil => exact ⟨List.nodup_nil, fun _ _ => List.not_mem_nil⟩
    | cons row rest ih =>
        obtain ⟨here, others⟩ := List.forall_mem_cons.mp own
        change (((image.replaceFinding row).replaceAll rest).rowsOf analysis).length = _ at grown
        have bound := length_replaceAll_le others (image.replaceFinding row)
        have fewer := List.length_filter_le (fun known => known.id ≠ row.id) (image.rowsOf analysis)
        have step := length_replaceFinding here image
        rw [List.length_cons] at grown
        -- Nothing may go at this row, and nothing at the later ones.
        have all : ((image.rowsOf analysis).filter fun known => known.id ≠ row.id).length =
            (image.rowsOf analysis).length := by omega
        have kept := List.length_filter_eq_length_iff.mp all
        obtain ⟨apart, new⟩ := ih others (image.replaceFinding row) (by omega)
        rw [rowsOf_replaceFinding_own here, List.filter_eq_self.mpr kept] at new
        constructor
        · exact List.nodup_cons.mpr ⟨new row (List.mem_append_right _ (List.mem_singleton_self row)), apart⟩
        · intro known member among
          rcases List.mem_cons.mp among with same | later
          · exact of_decide_eq_true (kept known member) same
          · exact new known (List.mem_append_left _ member) later
  · rintro ⟨distinct, new⟩
    rw [rowsOf_replaceAll_own own distinct image new, List.length_append]

theorem rowsOf_congr (analysis : String) {before after : Image} (same : after.findings = before.findings) :
    after.rowsOf analysis = before.rowsOf analysis := by
  unfold Image.rowsOf
  rw [same]

/-! ### One import -/

theorem execute_insertFinding_refused (isOpen : store.isClosed = false) {item : Finding} {cause : Cause}
    (made : findingRow now item = .error cause) :
    execute .insertFindings (Image.insertFinding now item) store =
      (.error (.during .insertFindings cause), store) := by
  unfold execute Image.insertFinding
  rw [isOpen, made]
  rfl

theorem execute_insertFinding_written (isOpen : store.isClosed = false) {item : Finding} {row : StoredFinding}
    (made : findingRow now item = .ok row) :
    execute .insertFindings (Image.insertFinding now item) store =
      (.ok (), { store with visible := store.visible.replaceFinding row }) := by
  unfold execute Image.insertFinding
  rw [isOpen, made]
  rfl

/-- The statements of an import write every finding, or stop before one that has no row. -/
theorem executeEach_insertFinding_cases (isOpen : store.isClosed = false) (now : String) (items : List Finding) :
    (∃ rows, Kept now items rows ∧
      executeEach .insertFindings (Image.insertFinding now) items store =
        (.ok (), { store with visible := store.visible.replaceAll rows })) ∨
    (¬ ∃ rows, Kept now items rows) ∧
      ∃ done later rows fault, items = done ++ later ∧ later ≠ [] ∧ Kept now done rows ∧
        executeEach .insertFindings (Image.insertFinding now) items store =
          (.error fault, { store with visible := store.visible.replaceAll rows }) := by
  induction items generalizing store with
  | nil => exact Or.inl ⟨[], List.Forall₂.nil, rfl⟩
  | cons item rest ih =>
      unfold executeEach
      cases made : findingRow now item with
      | error cause =>
          rw [Operation.bind_of_error (execute_insertFinding_refused isOpen made)]
          refine Or.inr ⟨?_, [], item :: rest, [], _, rfl, List.cons_ne_nil _ _, List.Forall₂.nil, rfl⟩
          rintro ⟨rows, kept⟩
          cases kept with
          | cons here _ => cases made.symm.trans here
      | ok row =>
          rw [Operation.bind_of_ok (execute_insertFinding_written isOpen made)]
          have next : ({ store with visible := store.visible.replaceFinding row } : Store).isClosed = false := isOpen
          rcases ih next with ⟨rows, kept, run⟩ | ⟨lost, done, later, rows, fault, split, some, kept, run⟩
          · exact Or.inl ⟨row :: rows, List.Forall₂.cons made kept, run⟩
          · refine Or.inr ⟨?_, item :: done, later, row :: rows, fault, ?_, some, List.Forall₂.cons made kept, run⟩
            · rintro ⟨rows, kept⟩
              cases kept with
              | cons _ others => exact lost ⟨_, others⟩
            · rw [split, List.cons_append]

/-- What is seen of findings after an import: all of them are written, or fewer than were to be. -/
theorem importing_cases (committed : FindingsCommitted store) (isOpen : store.isClosed = false) (now : String)
    (stored : List Finding) :
    (∃ rows, Kept now stored rows ∧
      (transaction (importing now stored) store).2.visible.findings =
        (store.visible.replaceAll rows).findings) ∨
    (¬ ∃ rows, Kept now stored rows) ∧
      ∃ done later rows, stored = done ++ later ∧ later ≠ [] ∧ Kept now done rows ∧
        (transaction (importing now stored) store).2.visible.findings =
          (store.visible.replaceAll rows).findings := by
  have run := importing_enter isOpen now stored
  have entered : store.enter.isClosed = false := isOpen
  rcases executeEach_insertFinding_cases entered now stored with
    ⟨rows, kept, ended⟩ | ⟨lost, done, later, rows, fault, split, some, kept, ended⟩
  · rw [← run] at ended
    obtain ⟨_, last, left, _⟩ :=
      succeeds_leave { store.enter with visible := store.enter.visible.replaceAll rows } isOpen
    refine Or.inl ⟨rows, kept, ?_⟩
    rw [transaction_of_ok ended, left]
    exact congrArg Image.findings (commitIfOutside_ok left).1
  · rw [← run] at ended
    refine Or.inr ⟨lost, ?_⟩
    obtain ⟨_, visible⟩ := transaction_failed ended
    by_cases outside : store.depth = 0
    · -- Outside of a transaction the whole import is taken back.
      rw [if_pos ⟨outside, isOpen⟩] at visible
      refine ⟨[], stored, [], rfl, ?_, List.Forall₂.nil, ?_⟩
      · rw [split]
        exact List.append_ne_nil_of_right_ne_nil _ some
      · exact (congrArg Image.findings visible).trans (committed outside isOpen)
    · rw [if_neg fun both => outside both.1] at visible
      exact ⟨done, later, rows, split, some, kept, congrArg Image.findings visible⟩

theorem kept_analysis {items : List Finding} {rows : List StoredFinding} (kept : Kept now items rows)
    (own : ∀ item ∈ items, item.analysis = analysis) : ∀ row ∈ rows, row.analysis = analysis := by
  intro row member
  obtain ⟨item, among, made⟩ := Outcome.exists_item kept member
  rw [(findingRow_ok made).2]
  exact own item among

theorem addFindings_run {entries : List Value} {findings : List Finding}
    (read : List.Forall₂ Finding.IsRead entries findings) (analysis now : String) (store : Store) :
    ∃ next, (addFindings analysis findings now store).2 =
      (transaction (importing now
        (List.zipWith (under analysis) findings (filled store.nextId (entries.map Finding.idOf))))
          { store with nextId := next }).2 := by
  obtain ⟨next, numbered⟩ := identified_run analysis read store
  have begun : addFindings analysis findings now store = _ := Operation.bind_of_ok numbered
  exact ⟨next, congrArg Prod.snd (begun.trans (bind_pure_run _ _ _))⟩

theorem importing_isClosed (now : String) (stored : List Finding) (store : Store) :
    (transaction (importing now stored) store).2.isClosed = store.isClosed :=
  (steady_transaction ((steady_execute _ _).bind fun _ => steady_executeEach _ _ _) store).isClosed

/-- What an import of findings that were read does to its analysis. Each of them is one more if and only if all can be
kept and their ids, with those filled in, are apart from one another and from those that are there. -/
theorem rowsOf_addFindings {entries : List Value} {findings : List Finding} {ids : List String}
    (committed : FindingsCommitted store)
    (isOpen : store.isClosed = false) (written : Text.encodeFault? analysis = none)
    (read : List.Forall₂ Finding.IsRead entries findings) (now : String)
    (given : ids = filled store.nextId (entries.map Finding.idOf)) :
    (((addFindings analysis findings now store).2.visible.rowsOf analysis).length =
        (store.visible.rowsOf analysis).length + entries.length ↔
      (∀ finding ∈ findings, finding.isStorable = true) ∧ ids.Nodup ∧
        ∀ known ∈ store.visible.rowsOf analysis, known.id ∉ ids) ∧
    ((∀ finding ∈ findings, finding.isStorable = true) → ids.Nodup →
      (∀ known ∈ store.visible.rowsOf analysis, known.id ∉ ids) →
      ∃ rows,
        List.Forall₂ (fun finding row => findingRow now (under analysis finding row.id) = .ok row) findings rows ∧
        (addFindings analysis findings now store).2.visible.rowsOf analysis =
          store.visible.rowsOf analysis ++ rows) := by
  obtain ⟨next, run⟩ := addFindings_run read analysis now store
  have long : ids.length = findings.length := by
    rw [given, filled_length, List.length_map, read.length_eq]
  have total : (List.zipWith (under analysis) findings ids).length = entries.length := by
    rw [List.length_zipWith, long, Nat.min_self, read.length_eq]
  have own : ∀ item ∈ List.zipWith (under analysis) findings ids, item.analysis = analysis := by
    obtain ⟨_, numbered⟩ := identified_run analysis read store
    rw [given]
    exact identified_analysis numbered
  have storable := exists_rows_iff now read written store.nextId
  rw [run]
  rw [← given] at storable ⊢
  have rested : FindingsCommitted { store with nextId := next } := committed
  rcases importing_cases rested isOpen now (List.zipWith (under analysis) findings ids) with
    ⟨rows, kept, found⟩ | ⟨lost, done, later, rows, split, some, kept, found⟩
  · have mine := kept_analysis kept own
    have seen := rowsOf_congr analysis found
    have count : rows.length = entries.length := kept.length_eq.symm.trans total
    obtain ⟨keys, made⟩ := kept_under long kept
    constructor
    · rw [seen, ← count, length_replaceAll_iff mine, keys, and_iff_right (storable.mp ⟨rows, kept⟩)]
    · intro _ apart new
      refine ⟨rows, made, seen.trans ?_⟩
      rw [← keys] at apart new
      exact rowsOf_replaceAll_own mine apart _ new
  · have unkept : ¬ ∀ finding ∈ findings, finding.isStorable = true := fun all => lost (storable.mpr all)
    refine ⟨iff_of_false ?_ fun all => unkept all.1, fun all => absurd all unkept⟩
    have mine := kept_analysis kept fun item member => own item (split ▸ List.mem_append_left _ member)
    have bound := length_replaceAll_le mine store.visible
    have count : rows.length = done.length := kept.length_eq.symm
    have rest := List.length_pos_iff.mpr some
    rw [split, List.length_append] at total
    rw [rowsOf_congr analysis found]
    change ((store.visible.replaceAll rows).rowsOf analysis).length ≠ _
    omega

/-! ### Ids that are null -/

/-- Entries that come to a store. The ids that they give are apart, none is in the store, and the ids that the store is
to give out are new. -/
structure HaveNewIds (store : Store) (entries : List Value) : Prop where
  distinct : ((entries.filter Finding.givesId).map Finding.idOf).Nodup
  unknown : ∀ entry ∈ entries, Finding.givesId entry = true →
    ∀ row ∈ store.visible.findings, row.id ≠ Finding.idOf entry
  fresh : ∀ number, store.nextId ≤ number →
    idText number ∉ entries.map Finding.idOf ∧ ∀ row ∈ store.visible.findings, row.id ≠ idText number

section

variable {entries : List Value} (newIds : HaveNewIds store entries)

/-- An id that is not the text of a null stands as often as it is given. -/
theorem count_given {id : String} (full : id ≠ "")
    (nonnull : ∀ entry ∈ entries, Finding.hasNullId entry = true → Finding.idOf entry ≠ id) :
    (entries.map Finding.idOf).count id = ((entries.filter Finding.givesId).map Finding.idOf).count id := by
  rw [List.count_eq_countP, List.count_eq_countP, List.countP_map, List.countP_map, List.countP_filter]
  apply List.countP_congr
  intro entry among
  by_cases same : Finding.idOf entry = id
  · have given := Finding.givesId_of (fun null => nonnull entry among null same) (same.trans_ne full)
    simp [given]
  · simp [same]

include newIds

/-- The texts of ids are apart, unless a null is among them and stands for a text that is there again. -/
theorem texts_nodup_iff :
    ((entries.map Finding.idOf).filter (· ≠ "")).Nodup ↔
      ((∃ entry ∈ entries, Finding.hasNullId entry = true) → (entries.map Finding.idOf).count "None" = 1) := by
  constructor
  · rintro apart ⟨entry, among, null⟩
    have listed : "None" ∈ entries.map Finding.idOf := List.mem_map.mpr ⟨entry, among, Finding.idOf_null null⟩
    have one := List.count_eq_one_of_mem apart (List.mem_filter.mpr ⟨listed, by decide⟩)
    rw [List.count_filter (by decide)] at one
    exact one
  · intro single
    rw [List.nodup_iff_count_le_one]
    intro id
    by_cases full : id = ""
    · rw [List.count_eq_zero_of_not_mem]
      · exact Nat.zero_le 1
      · intro member
        exact of_decide_eq_true (List.mem_filter.mp member).2 full
    · rw [List.count_filter (by simpa using full)]
      by_cases met : ∃ entry ∈ entries, Finding.hasNullId entry = true ∧ Finding.idOf entry = id
      · obtain ⟨entry, among, null, same⟩ := met
        rw [← same, Finding.idOf_null null, single ⟨entry, among, null⟩]
      · rw [count_given full fun entry among null same => met ⟨entry, among, null, same⟩]
        exact List.nodup_iff_count_le_one.mp newIds.distinct id

theorem known_apart_iff :
    (∀ known ∈ store.visible.rowsOf analysis, known.id ∉ filled store.nextId (entries.map Finding.idOf)) ↔
      ((∃ entry ∈ entries, Finding.hasNullId entry = true) →
        ∀ known ∈ store.visible.rowsOf analysis, known.id ≠ "None") := by
  constructor
  · rintro apart ⟨entry, among, null⟩ known member same
    have listed : "None" ∈ entries.map Finding.idOf := List.mem_map.mpr ⟨entry, among, Finding.idOf_null null⟩
    apply apart known member
    rw [same]
    exact mem_filled_of_ne_empty listed (by decide)
  · intro spared known member among
    have stored := (List.mem_filter.mp member).1
    rcases mem_filled among with ⟨listed, full⟩ | ⟨number, after, same⟩
    · obtain ⟨entry, inside, same⟩ := List.mem_map.mp listed
      by_cases null : Finding.hasNullId entry = true
      · exact spared ⟨entry, inside, null⟩ known member (same.symm.trans (Finding.idOf_null null))
      · exact newIds.unknown entry inside (Finding.givesId_of null (same.trans_ne full)) known stored same.symm
    · exact (newIds.fresh number after).2 known stored same.symm

end

/-! ### What is answered -/

theorem findingsOf_perm (analysis : String) (image : Image) :
    (image.findingsOf analysis none).Perm (image.rowsOf analysis) := by
  rw [findingsOf_none]
  exact List.mergeSort_perm _ _

theorem findFindings_ok {rows : List StoredFinding} (answered : (findFindings analysis none none store).1 = .ok rows) :
    store.isClosed = false ∧ Text.encodeFault? analysis = none ∧
      rows = store.visible.findingsOf analysis none := by
  rcases run : findFindings analysis none none store with ⟨answer, after⟩
  rw [run] at answered
  cases answered
  obtain ⟨found, between, asked, same⟩ := Operation.bind_ok run
  cases same
  obtain ⟨rfl, _, written⟩ := query_ok asked
  refine ⟨?_, ?_, rfl⟩
  · rw [Bool.eq_false_iff]
    intro closed
    unfold query at asked
    rw [if_pos closed] at asked
    cases asked
  · simpa using written

/-- What a file of findings adds to an analysis, in every state of a store to which operations and transactions lead. If
the ids that its entries give are new, what is answered afterwards has one finding more for each entry if and only if
every finding can be kept and an id of null, if there is one, is the only text of that kind. In that case the answer is
the earlier one with a row for each finding. -/
theorem import_adds_all_iff (workspace : Workspace) (path analysis now : String) (levels : Nat) (store : Store)
    (entries : List Value) (findings : List Finding) (before : List StoredFinding) (committed : FindingsCommitted store)
    (listed : Finding.entriesAt workspace path levels = some entries)
    (loaded : Finding.ofFile workspace path levels = .ok findings)
    (answered : (findFindings analysis none none store).1 = .ok before) (newIds : HaveNewIds store entries) :
    ∃ after, (findFindings analysis none none (addFindings analysis findings now store).2).1 = .ok after ∧
      (after.length = before.length + entries.length ↔
        (∀ finding ∈ findings, finding.isStorable = true) ∧
          ((∃ entry ∈ entries, Finding.hasNullId entry = true) →
            (entries.map Finding.idOf).count "None" = 1 ∧ ∀ row ∈ before, row.id ≠ "None")) ∧
      (after.length = before.length + entries.length →
        ∃ rows, after.Perm (before ++ rows) ∧
          List.Forall₂ (fun finding row => findingRow now (under analysis finding row.id) = .ok row)
            findings rows) := by
  obtain ⟨isOpen, written, rfl⟩ := findFindings_ok answered
  have read := Finding.ofEntries_isRead ((Finding.ofFile_eq listed).symm.trans loaded)
  have stays : (addFindings analysis findings now store).2.isClosed = false := by
    obtain ⟨next, run⟩ := addFindings_run read analysis now store
    rw [run, importing_isClosed]
    exact isOpen
  have fresh : ∀ number, store.nextId ≤ number → idText number ∉ entries.map Finding.idOf :=
    fun number after => (newIds.fresh number after).1
  obtain ⟨grows, added⟩ := rowsOf_addFindings committed isOpen written read now rfl
  refine ⟨_, findFindings_all stays written, ?_, ?_⟩
  · rw [findingsOf_length, findingsOf_length, grows, filled_nodup_iff fresh, texts_nodup_iff newIds,
      known_apart_iff newIds]
    simp only [(findingsOf_perm analysis store.visible).mem_iff, imp_and]
  · rw [findingsOf_length, findingsOf_length]
    intro grown
    obtain ⟨storable, apart, new⟩ := grows.mp grown
    obtain ⟨rows, kept, seen⟩ := added storable apart new
    refine ⟨rows, (findingsOf_perm _ _).trans ?_, kept⟩
    rw [seen]
    exact List.Perm.append_right rows (findingsOf_perm _ _).symm

/-! ### Files with ids that are null -/

def exported (text : String) : Workspace := .sole "f.json" text.toUTF8 none

theorem exported_readFile (text : String) : (exported text).readFile "f.json" = .ok (text.toUTF8, none) :=
  Workspace.sole_readFile (by decide +kernel)

def nullIds : String :=
  "[\x7b\"severity\":\"low\",\"title\":1,\"id\":null\x7d,\x7b\"severity\":\"low\",\"title\":2,\"id\":null\x7d]"

/-- Of two entries whose ids are null, the second takes the place of the first. -/
theorem import_loses_null_ids :
    ∃ findings, Finding.ofFile (exported nullIds) "f.json" = .ok findings ∧ findings.length = 2 ∧
      (addFindings "a" findings "" {}).1.toOption.map List.length = some 2 ∧
      (findFindings "a" none none (addFindings "a" findings "" {}).2).1.toOption.map List.length = some 1 := by
  have read : (Finding.ofOctets "f.json" nullIds.toUTF8).toOption.map (fun findings =>
      (findings.length, (addFindings "a" findings "" {}).1.toOption.map List.length,
        (findFindings "a" none none (addFindings "a" findings "" {}).2).1.toOption.map List.length)) =
      some (2, some 2, some 1) := by decide +kernel
  have opened : Finding.ofFile (exported nullIds) "f.json" = Finding.ofOctets "f.json" nullIds.toUTF8 := by
    unfold Finding.ofFile
    rw [exported_readFile]
  obtain ⟨findings, found, parts⟩ := Option.map_eq_some_iff.mp read
  obtain ⟨two, parts⟩ := Prod.mk.inj parts
  exact ⟨findings, opened.trans (Outcome.ok_of_toOption found), two, Prod.mk.inj parts⟩

def mixedIds : String :=
  "[\x7b\"severity\":\"low\",\"title\":1\x7d,\x7b\"severity\":\"low\",\"title\":2,\"id\":null\x7d,\x7b\"severity\":\"low\",\"title\":3,\"id\":7\x7d]"

theorem mixedIds_read :
    ∃ entries findings, Finding.entriesAt (exported mixedIds) "f.json" Json.maxDepth = some entries ∧
      Finding.ofEntries 0 entries = .ok findings ∧ entries.map Finding.idOf = ["", "None", "7"] ∧
      (entries.filter Finding.givesId).map Finding.idOf = ["7"] ∧ findings.all Finding.isStorable = true := by
  have read : ((Finding.entriesIn mixedIds.toUTF8 Json.maxDepth).map fun entries =>
      (entries.map Finding.idOf, (entries.filter Finding.givesId).map Finding.idOf,
        (Finding.ofEntries 0 entries).toOption.map fun findings => findings.all Finding.isStorable)) =
      some (["", "None", "7"], ["7"], some true) := by decide +kernel
  obtain ⟨entries, listed, parts⟩ := Option.map_eq_some_iff.mp read
  obtain ⟨texts, parts⟩ := Prod.mk.inj parts
  obtain ⟨given, kept⟩ := Prod.mk.inj parts
  obtain ⟨findings, loaded, storable⟩ := Option.map_eq_some_iff.mp kept
  exact ⟨entries, findings, (Finding.entriesAt_of_readFile (exported_readFile mixedIds)).trans listed,
    Outcome.ok_of_toOption loaded, texts, given, storable⟩

theorem head_idText (number : Nat) : (idText number).toList.head? = some 'i' := by
  have letters : "id-".toList = ['i', 'd', '-'] := by decide
  have shown : (idText number).toList = "id-".toList ++ (Nat.repr number).toList := String.toList_append
  rw [shown, letters]
  rfl

/-- A finding without an id, one with a null and one with a number all come in. -/
theorem import_adds_all_iff_mixedIds :
    ∃ findings after, Finding.ofFile (exported mixedIds) "f.json" = .ok findings ∧
      (findFindings "a" none none (addFindings "a" findings "" {}).2).1 = .ok after ∧ after.length = 3 := by
  obtain ⟨entries, findings, listed, read, texts, given, storable⟩ := mixedIds_read
  have written : Text.encodeFault? "a" = none := by decide +kernel
  have nothing : (findFindings "a" none none {}).1 = .ok [] :=
    (findFindings_all rfl written).trans (congrArg Except.ok (List.perm_nil.mp (findingsOf_perm "a" {})))
  have newIds : HaveNewIds {} entries := by
    refine ⟨?_, fun _ _ _ _ member => absurd member List.not_mem_nil, fun number _ => ⟨?_, ?_⟩⟩
    · rw [given]
      exact List.nodup_singleton "7"
    · have others : ∀ text ∈ ["", "None", "7"], text.toList.head? ≠ some 'i' := by decide
      rw [texts]
      exact fun member => others _ member (head_idText number)
    · exact fun _ member => absurd member List.not_mem_nil
  have loaded := (Finding.ofFile_eq listed).trans read
  obtain ⟨after, answer, grows, _⟩ :=
    import_adds_all_iff (exported mixedIds) "f.json" "a" "" Json.maxDepth {} entries findings [] (fun _ _ => rfl)
      listed loaded nothing newIds
  have count : (entries.map Finding.idOf).count "None" = 1 := by
    rw [texts]
    decide
  have three : entries.length = 3 := by
    rw [← List.length_map Finding.idOf, texts]
    rfl
  have grown := grows.mpr ⟨List.all_eq_true.mp storable, fun _ => ⟨count, List.forall_mem_nil _⟩⟩
  exact ⟨findings, after, loaded, answer, grown.trans (congrArg (0 + ·) three)⟩

end Store

end ChangeImpact
