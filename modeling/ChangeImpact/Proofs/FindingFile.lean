import ChangeImpact.Finding.File
import ChangeImpact.Proofs.FindingScope
import ChangeImpact.Proofs.Refusals

/-!
The findings of a file on their way to the table: what the entries of the file become, under which ids they are kept,
and which of them can be kept at all.
-/

set_option autoImplicit false

namespace ChangeImpact

open ChangeImpact.Json (Value)

/-! ### Entries of a file -/

namespace Finding

def entriesOf : Value → Option (List Value)
  | .list entries => some entries
  | .object fields =>
      match (fields.lookup "findings").getD (.list []) with
      | .list entries => some entries
      | _ => none
  | _ => none

def entriesIn (octets : ByteArray) (levels : Nat) : Option (List Value) := do
  let text ← (Text.decodeStrict octets.toList).toOption
  let value ← (Json.read (Text.unifyLineEnds text) levels).toOption
  entriesOf value

def entriesAt (workspace : Workspace) (path : String) (levels : Nat) : Option (List Value) :=
  (workspace.readFile path).toOption.bind fun read => entriesIn read.1 levels

theorem entriesAt_of_readFile {levels : Nat} {workspace : Workspace} {path : String} {octets : ByteArray}
    {outline : Option Syntax.Outline} (read : workspace.readFile path = .ok (octets, outline)) :
    entriesAt workspace path levels = entriesIn octets levels := by
  unfold entriesAt
  rw [read]
  rfl

theorem ofValue_eq {value : Value} {entries : List Value} (listed : entriesOf value = some entries) :
    ofValue value = ofEntries 0 entries := by
  cases value with
  | list items =>
      cases listed
      rfl
  | object fields =>
      unfold entriesOf at listed
      unfold ofValue
      dsimp only at listed ⊢
      generalize (fields.lookup "findings").getD (.list []) = payload at listed ⊢
      cases payload with
      | list items =>
          cases listed
          rfl
      | null | bool _ | int _ | float _ | str _ | object _ => cases listed
  | null | bool _ | int _ | float _ | str _ => cases listed

theorem ofOctets_eq (path : String) {octets : ByteArray} {levels : Nat} {entries : List Value}
    (listed : entriesIn octets levels = some entries) : ofOctets path octets levels = ofEntries 0 entries := by
  obtain ⟨text, decoded, listed⟩ := Option.bind_eq_some_iff.mp listed
  obtain ⟨value, parsed, listed⟩ := Option.bind_eq_some_iff.mp listed
  unfold ofOctets
  rw [Outcome.ok_of_toOption decoded]
  dsimp only
  rw [Outcome.ok_of_toOption parsed]
  exact ofValue_eq listed

theorem ofFile_eq {workspace : Workspace} {path : String} {levels : Nat} {entries : List Value}
    (listed : entriesAt workspace path levels = some entries) :
    ofFile workspace path levels = ofEntries 0 entries := by
  obtain ⟨⟨octets, outline⟩, content, listed⟩ := Option.bind_eq_some_iff.mp listed
  unfold ofFile
  rw [Outcome.ok_of_toOption content]
  exact ofOctets_eq path listed

def idOf (entry : Value) : String := ((entry.get? "id").map Value.plain).getD ""

def hasNullId (entry : Value) : Bool :=
  match entry.get? "id" with
  | some .null => true
  | _ => false

def givesId (entry : Value) : Bool := !hasNullId entry && idOf entry ≠ ""

theorem idOf_null {entry : Value} (null : hasNullId entry = true) : idOf entry = "None" := by
  unfold hasNullId at null
  split at null
  · rename_i found
    unfold idOf
    rw [found]
    rfl
  · cases null

theorem givesId_of {entry : Value} (nonnull : ¬ hasNullId entry = true) (full : idOf entry ≠ "") :
    givesId entry = true := by
  unfold givesId
  rw [Bool.eq_false_iff.mpr nonnull]
  exact decide_eq_true full

theorem exists_of_isSeverity {value : Value} (known : isSeverity value = true) :
    ∃ level, value = .str level := by
  unfold isSeverity at known
  split at known
  · exact ⟨_, rfl⟩
  · cases known

structure IsRead (entry : Value) (finding : Finding) : Prop where
  severity : isSeverity finding.severity = true
  title : ∃ text, finding.title = .str text
  scanner : ∃ text, finding.scanner = .str text
  id : finding.id = .str (idOf entry)

theorem ofEntry_isRead {index : Nat} {entry : Value} {finding : Finding}
    (read : ofEntry index entry = .ok finding) : IsRead entry finding := by
  unfold ofEntry at read
  split at read
  · dsimp only at read
    split at read
    · rename_i known
      obtain ⟨line, _, same⟩ := Outcome.bind_ok read
      cases same
      exact ⟨known, ⟨_, rfl⟩, ⟨_, rfl⟩, rfl⟩
    · cases read
  · cases read

theorem ofEntries_isRead {start : Nat} {entries : List Value} {findings : List Finding}
    (read : ofEntries start entries = .ok findings) : List.Forall₂ IsRead entries findings := by
  induction entries generalizing start findings with
  | nil =>
      cases read
      exact List.Forall₂.nil
  | cons entry rest ih =>
      obtain ⟨finding, first, read⟩ := Outcome.bind_ok read
      obtain ⟨others, later, same⟩ := Outcome.bind_ok read
      cases same
      exact List.Forall₂.cons (ofEntry_isRead first) (ih later)

end Finding

/-! ### What a table can keep -/

namespace Store

namespace Cell

/-- Whether a place can hold a value: a text that can be written, a number with room, and neither a list nor an
object. -/
def canHold : Value → Bool
  | .int number => hasRoom number
  | .str written => (Text.encodeFault? written).isNone
  | .list _ => false
  | .object _ => false
  | _ => true

theorem exists_bind_iff (parameter : Nat) {value : Value} :
    (∃ cell, bind parameter value = .ok cell) ↔ canHold value = true := by
  cases value with
  | null => simp [bind, canHold]
  | bool value => simp [bind, canHold]
  | int number => by_cases room : hasRoom number <;> simp [bind, canHold, room]
  | float number => cases number <;> simp [bind, canHold]
  | str written => cases fault : Text.encodeFault? written <;> simp [bind, canHold, fault]
  | list items => simp [bind, canHold]
  | object fields => simp [bind, canHold]

theorem required_of_bind {parameter : Nat} {column written : String} {value : Value} {cell : Cell}
    (isText : value = .str written) (bound : bind parameter value = .ok cell) :
    cell.required column = .ok written := by
  subst isText
  rw [bind_str bound]
  rfl

end Cell

end Store

def Finding.isStorable (finding : Finding) : Bool :=
  [finding.id, finding.scanner, finding.severity, finding.title, finding.description, finding.file, finding.line,
    finding.ruleId].all Store.Cell.canHold

namespace Store

variable {now analysis : String} {store : Store}

/-- A finding whose required places are texts has a row if and only if all its values can be kept. -/
theorem exists_findingRow_iff (finding : Finding) {id scanner level title : String}
    (written : Text.encodeFault? finding.analysis = none) (numbered : finding.id = .str id)
    (source : finding.scanner = .str scanner) (graded : finding.severity = .str level)
    (named : finding.title = .str title) :
    (∃ row, findingRow now finding = .ok row) ↔ finding.isStorable = true := by
  have stated : Cell.bindTexts [finding.analysis] = .ok () := by
    unfold Cell.bindTexts
    rw [List.findSome?_cons, written]
    rfl
  unfold Finding.isStorable
  simp only [List.all_cons, List.all_nil, Bool.and_true, Bool.and_eq_true]
  constructor
  · rintro ⟨row, kept⟩
    obtain ⟨_, boundId, kept⟩ := Outcome.bind_ok kept
    obtain ⟨_, _, kept⟩ := Outcome.bind_ok kept
    obtain ⟨_, boundScanner, kept⟩ := Outcome.bind_ok kept
    obtain ⟨_, boundLevel, kept⟩ := Outcome.bind_ok kept
    obtain ⟨_, boundTitle, kept⟩ := Outcome.bind_ok kept
    obtain ⟨_, boundText, kept⟩ := Outcome.bind_ok kept
    obtain ⟨_, boundFile, kept⟩ := Outcome.bind_ok kept
    obtain ⟨_, boundLine, kept⟩ := Outcome.bind_ok kept
    obtain ⟨_, boundRule, _⟩ := Outcome.bind_ok kept
    exact ⟨(Cell.exists_bind_iff 1).mp ⟨_, boundId⟩, (Cell.exists_bind_iff 3).mp ⟨_, boundScanner⟩,
      (Cell.exists_bind_iff 4).mp ⟨_, boundLevel⟩, (Cell.exists_bind_iff 5).mp ⟨_, boundTitle⟩,
      (Cell.exists_bind_iff 6).mp ⟨_, boundText⟩, (Cell.exists_bind_iff 7).mp ⟨_, boundFile⟩,
      (Cell.exists_bind_iff 8).mp ⟨_, boundLine⟩, (Cell.exists_bind_iff 9).mp ⟨_, boundRule⟩⟩
  · rintro ⟨boundId, boundScanner, boundLevel, boundTitle, boundText, boundFile, boundLine, boundRule⟩
    obtain ⟨_, boundId⟩ := (Cell.exists_bind_iff 1).mpr boundId
    obtain ⟨_, boundScanner⟩ := (Cell.exists_bind_iff 3).mpr boundScanner
    obtain ⟨_, boundLevel⟩ := (Cell.exists_bind_iff 4).mpr boundLevel
    obtain ⟨_, boundTitle⟩ := (Cell.exists_bind_iff 5).mpr boundTitle
    obtain ⟨_, boundText⟩ := (Cell.exists_bind_iff 6).mpr boundText
    obtain ⟨_, boundFile⟩ := (Cell.exists_bind_iff 7).mpr boundFile
    obtain ⟨_, boundLine⟩ := (Cell.exists_bind_iff 8).mpr boundLine
    obtain ⟨_, boundRule⟩ := (Cell.exists_bind_iff 9).mpr boundRule
    unfold findingRow
    rw [Outcome.bind_of_ok boundId, Outcome.bind_of_ok stated, Outcome.bind_of_ok boundScanner,
      Outcome.bind_of_ok boundLevel, Outcome.bind_of_ok boundTitle, Outcome.bind_of_ok boundText,
      Outcome.bind_of_ok boundFile, Outcome.bind_of_ok boundLine,
      Outcome.bind_of_ok boundRule, Outcome.bind_of_ok (Cell.required_of_bind numbered boundId),
      Outcome.bind_of_ok (Cell.required_of_bind source boundScanner),
      Outcome.bind_of_ok (Cell.required_of_bind graded boundLevel),
      Outcome.bind_of_ok (Cell.required_of_bind named boundTitle)]
    exact ⟨_, rfl⟩

/-! ### Ids for those without -/

def under (analysis : String) (finding : Finding) (id : String) : Finding :=
  { finding with id := .str id, analysis }

/-- Texts in which each empty one has been replaced by the next id. -/
def filled : Nat → List String → List String
  | _, [] => []
  | next, text :: rest =>
      if text = "" then idText next :: filled (next + 1) rest else text :: filled next rest

theorem mem_filled {next : Nat} {texts : List String} {id : String} (member : id ∈ filled next texts) :
    id ∈ texts ∧ id ≠ "" ∨ ∃ number, next ≤ number ∧ idText number = id := by
  induction texts generalizing next with
  | nil => cases member
  | cons text rest ih =>
      unfold filled at member
      split at member
      · rcases List.mem_cons.mp member with rfl | later
        · exact Or.inr ⟨next, Nat.le_refl next, rfl⟩
        · rcases ih later with ⟨among, full⟩ | ⟨number, after, same⟩
          · exact Or.inl ⟨List.mem_cons_of_mem _ among, full⟩
          · exact Or.inr ⟨number, Nat.le_of_succ_le after, same⟩
      · rename_i full
        rcases List.mem_cons.mp member with rfl | later
        · exact Or.inl ⟨List.mem_cons_self, full⟩
        · rcases ih later with ⟨among, full⟩ | taken
          · exact Or.inl ⟨List.mem_cons_of_mem _ among, full⟩
          · exact Or.inr taken

theorem mem_filled_of_ne_empty {next : Nat} {texts : List String} {text : String} (member : text ∈ texts)
    (full : text ≠ "") : text ∈ filled next texts := by
  induction texts generalizing next with
  | nil => cases member
  | cons first rest ih =>
      unfold filled
      rcases List.mem_cons.mp member with rfl | later
      · rw [if_neg full]
        exact List.mem_cons_self
      · split
        · exact List.mem_cons_of_mem _ (ih later)
        · exact List.mem_cons_of_mem _ (ih later)

/-- New ids do not meet: what may is the texts that were there. -/
theorem filled_nodup_iff {next : Nat} {texts : List String}
    (fresh : ∀ number, next ≤ number → idText number ∉ texts) :
    (filled next texts).Nodup ↔ (texts.filter (· ≠ "")).Nodup := by
  induction texts generalizing next with
  | nil => exact Iff.rfl
  | cons text rest ih =>
      have later : ∀ number, next ≤ number → idText number ∉ rest := by
        intro number after member
        exact fresh number after (List.mem_cons_of_mem _ member)
      unfold filled
      by_cases empty : text = ""
      · have taken : idText next ∉ filled (next + 1) rest := by
          intro member
          rcases mem_filled member with ⟨among, _⟩ | ⟨number, after, same⟩
          · exact later next (Nat.le_refl next) among
          · have equal := idText_injective same
            omega
        rw [if_pos empty, List.nodup_cons, List.filter_cons_of_neg (by simpa using empty),
          ih fun number after => later number (Nat.le_of_succ_le after)]
        exact and_iff_right taken
      · have same : text ∈ filled next rest ↔ text ∈ rest.filter (· ≠ "") := by
          constructor
          · intro member
            rcases mem_filled member with ⟨among, full⟩ | ⟨number, after, same⟩
            · exact List.mem_filter.mpr ⟨among, decide_eq_true full⟩
            · exact absurd (same ▸ List.mem_cons_self) (fresh number after)
          · intro member
            exact mem_filled_of_ne_empty (List.mem_filter.mp member).1 empty
        rw [if_neg empty, List.filter_cons_of_pos (by simpa using empty), List.nodup_cons, List.nodup_cons,
          same, ih later]

/-- Findings that were read get the ids that they lack. -/
theorem identified_run (analysis : String) {entries : List Value} {findings : List Finding}
    (read : List.Forall₂ Finding.IsRead entries findings) (store : Store) :
    ∃ next, identified analysis findings store =
      (.ok (List.zipWith (under analysis) findings (filled store.nextId (entries.map Finding.idOf))),
        { store with nextId := next }) := by
  induction read generalizing store with
  | nil => exact ⟨store.nextId, rfl⟩
  | @cons entry finding entries findings here _ ih =>
      unfold identified
      rw [if_pos here.severity, List.map_cons, filled]
      by_cases empty : Finding.idOf entry = ""
      · have bare : ¬ finding.id.isTruthy = true := by
          rw [here.id, empty]
          decide
        have taken : (freshId : Action Fault String) store =
            (.ok (idText store.nextId), { store with nextId := store.nextId + 1 }) := rfl
        obtain ⟨next, later⟩ := ih { store with nextId := store.nextId + 1 }
        refine ⟨next, ?_⟩
        rw [if_pos empty]
        dsimp only
        rw [if_neg bare]
        exact (Operation.bind_of_ok taken).trans (Operation.bind_of_ok later)
      · obtain ⟨next, later⟩ := ih store
        have full : finding.id.isTruthy = true := by
          rw [here.id]
          simpa [Value.isTruthy] using empty
        have kept : { finding with analysis } = under analysis finding (Finding.idOf entry) := by
          unfold under
          rw [← here.id]
        refine ⟨next, ?_⟩
        rw [if_neg empty]
        dsimp only
        rw [if_pos full, List.zipWith_cons_cons, ← kept]
        exact Operation.bind_of_ok later

theorem filled_length (next : Nat) (texts : List String) : (filled next texts).length = texts.length := by
  induction texts generalizing next with
  | nil => rfl
  | cons text rest ih =>
      unfold filled
      split
      · rw [List.length_cons, List.length_cons, ih]
      · rw [List.length_cons, List.length_cons, ih]

/-- An id that is filled in can be written, as the empty text could. -/
theorem filled_cons (next : Nat) (text : String) (rest : List String) :
    ∃ id after, filled next (text :: rest) = id :: filled after rest ∧
      Cell.canHold (.str id) = Cell.canHold (.str text) := by
  by_cases empty : text = ""
  · refine ⟨idText next, next + 1, if_pos empty, ?_⟩
    rw [Cell.canHold, encodeFault?_idText, empty]
    decide
  · exact ⟨text, next, if_neg empty, rfl⟩

theorem under_isStorable {finding : Finding} {id : String}
    (same : Cell.canHold (.str id) = Cell.canHold finding.id) :
    (under analysis finding id).isStorable = finding.isStorable := by
  change (Cell.canHold (.str id) && _) = (Cell.canHold finding.id && _)
  rw [same]
  rfl

abbrev Kept (now : String) (items : List Finding) (rows : List StoredFinding) : Prop :=
  List.Forall₂ (fun finding row => findingRow now finding = .ok row) items rows

/-- All findings that were read have rows if and only if all their values can be kept. -/
theorem exists_rows_iff (now : String) {entries : List Value} {findings : List Finding}
    (read : List.Forall₂ Finding.IsRead entries findings) (written : Text.encodeFault? analysis = none) (next : Nat) :
    (∃ rows, Kept now (List.zipWith (under analysis) findings (filled next (entries.map Finding.idOf))) rows) ↔
      ∀ finding ∈ findings, finding.isStorable = true := by
  induction read generalizing next with
  | nil => exact iff_of_true ⟨[], List.Forall₂.nil⟩ (List.forall_mem_nil _)
  | @cons entry finding entries findings here _ ih =>
      obtain ⟨id, after, cut, same⟩ := filled_cons next (Finding.idOf entry) (entries.map Finding.idOf)
      obtain ⟨title, named⟩ := here.title
      obtain ⟨scanner, source⟩ := here.scanner
      obtain ⟨level, graded⟩ := Finding.exists_of_isSeverity here.severity
      have first : (∃ row, findingRow now (under analysis finding id) = .ok row) ↔ finding.isStorable = true := by
        have kept : Cell.canHold (.str id) = Cell.canHold finding.id := by
          rw [same, here.id]
        rw [← under_isStorable kept]
        exact exists_findingRow_iff (under analysis finding id) written rfl source graded named
      rw [List.map_cons, cut, List.zipWith_cons_cons, List.forall_mem_cons, ← first, ← ih after]
      constructor
      · rintro ⟨rows, made⟩
        cases made with
        | cons here others => exact ⟨⟨_, here⟩, ⟨_, others⟩⟩
      · rintro ⟨⟨row, here⟩, ⟨rows, others⟩⟩
        exact ⟨row :: rows, List.Forall₂.cons here others⟩

theorem findingRow_id {finding : Finding} {id : String} {row : StoredFinding} (numbered : finding.id = .str id)
    (made : findingRow now finding = .ok row) : row.id = id := by
  have key := (findingRow_ok made).1
  obtain ⟨cell, bound, _⟩ := Outcome.bind_ok made
  rw [numbered] at bound
  unfold Finding.key? at key
  rw [numbered, bound, Cell.bind_str bound] at key
  exact (Option.some.inj key).symm

/-- The row of a finding has the id under which the finding stands. -/
theorem kept_under {findings : List Finding} {ids : List String} {rows : List StoredFinding}
    (same : ids.length = findings.length) (kept : Kept now (List.zipWith (under analysis) findings ids) rows) :
    rows.map StoredFinding.id = ids ∧
      List.Forall₂ (fun finding row => findingRow now (under analysis finding row.id) = .ok row) findings rows := by
  induction findings generalizing ids rows with
  | nil =>
      cases kept
      exact ⟨(List.length_eq_zero_iff.mp same).symm, List.Forall₂.nil⟩
  | cons finding rest ih =>
      cases ids with
      | nil => cases same
      | cons id others =>
          cases kept with
          | cons here kept =>
              obtain ⟨ids, rows⟩ := ih (Nat.succ.inj same) kept
              have own := findingRow_id rfl here
              rw [List.map_cons, ids, own]
              exact ⟨rfl, List.Forall₂.cons (own.symm ▸ here) rows⟩

end Store

end ChangeImpact
