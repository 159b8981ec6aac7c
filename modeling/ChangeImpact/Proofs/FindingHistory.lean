import ChangeImpact.Proofs.Propagation

/-!
Findings and the calls that brought them. Every call inserts rows, and a row takes the place of the one with its id, so
what is stored is what was inserted last under each id, in the order of these insertions. What is answered about an
analysis is its part of that, by severity, and within a severity in the order of insertion.
-/

set_option autoImplicit false

namespace ChangeImpact.Store

/-! ### Calls -/

structure Addition where
  analysis : String
  findings : List Finding
  now : String

/-- The rows of findings, up to the first that has none. -/
def rowsUpTo (now : String) : List Finding → List StoredFinding
  | [] => []
  | finding :: rest =>
      match findingRow now finding with
      | .ok row => row :: rowsUpTo now rest
      | .error _ => []

namespace Addition

def perform (call : Addition) : Action Fault (List Finding) :=
  addFindings call.analysis call.findings call.now

/-- The rows that a call inserts. One that goes well inserts a row for each finding. One that fails inserts nothing,
unless a transaction is open that may keep the rows before the failure. -/
def inserts (call : Addition) (store : Store) : List StoredFinding :=
  match (identified call.analysis call.findings store).1 with
  | .error _ => []
  | .ok stored => if (call.perform store).1.isOk || store.depth ≠ 0 then rowsUpTo call.now stored else []

def run (calls : List Addition) (store : Store) : Store :=
  calls.foldl (fun store call => (call.perform store).2) store

def insertions : List Addition → Store → List StoredFinding
  | [], _ => []
  | call :: rest, store => call.inserts store ++ insertions rest (call.perform store).2

end Addition

/-! ### Insertions -/

/-- What is inserted at a position, and nothing under its id later. -/
def LastAt (history : List StoredFinding) (position : Nat) (row : StoredFinding) : Prop :=
  history[position]? = some row ∧ ∀ later ∈ history.drop (position + 1), later.id ≠ row.id

def LastBefore (history : List StoredFinding) (left right : StoredFinding) : Prop :=
  ∃ first second, LastAt history first left ∧ LastAt history second right ∧ first < second

/-- Rows in answer to a question, by the insertions that there were: those that are asked for and were inserted last
under their ids, each once, by severity and within a severity in the order of insertion. -/
structure Lists (history : List StoredFinding) (asked : StoredFinding → Prop) (rows : List StoredFinding) :
    Prop where
  once : (rows.map StoredFinding.id).Nodup
  mem_iff : ∀ row, row ∈ rows ↔ (∃ position, LastAt history position row) ∧ asked row
  order : rows.Pairwise fun left right =>
    Finding.rank left.severity < Finding.rank right.severity ∨
      left.severity = right.severity ∧ LastBefore history left right

def lasting : List StoredFinding → List StoredFinding
  | [] => []
  | row :: rest => if row.id ∈ rest.map StoredFinding.id then lasting rest else row :: lasting rest

variable {row : StoredFinding} {history earlier rest : List StoredFinding} {position : Nat}

theorem lastAt_zero {first : StoredFinding} :
    LastAt (first :: rest) 0 row ↔ first = row ∧ row.id ∉ rest.map StoredFinding.id := by
  unfold LastAt
  simp

theorem lastAt_succ {first : StoredFinding} :
    LastAt (first :: rest) (position + 1) row ↔ LastAt rest position row := Iff.rfl

theorem mem_lasting : row ∈ lasting history ↔ ∃ position, LastAt history position row := by
  induction history with
  | nil => simp [lasting, LastAt]
  | cons first rest ih =>
      have split : (∃ position, LastAt (first :: rest) position row) ↔
          (first = row ∧ row.id ∉ rest.map StoredFinding.id) ∨ ∃ position, LastAt rest position row := by
        rw [← lastAt_zero]
        constructor
        · rintro ⟨_ | position, last⟩
          · exact Or.inl last
          · exact Or.inr ⟨position, lastAt_succ.mp last⟩
        · rintro (last | ⟨position, last⟩)
          · exact ⟨0, last⟩
          · exact ⟨position + 1, lastAt_succ.mpr last⟩
      rw [split, ← ih, lasting]
      split
      · rename_i again
        refine ⟨Or.inr, fun last => last.resolve_left ?_⟩
        rintro ⟨rfl, never⟩
        exact never again
      · rename_i never
        rw [List.mem_cons]
        refine or_congr_left ⟨?_, fun last => last.1.symm⟩
        rintro rfl
        exact ⟨rfl, never⟩

theorem lasting_sublist (history : List StoredFinding) : (lasting history).Sublist history := by
  induction history with
  | nil => exact List.Sublist.refl []
  | cons first rest ih =>
      rw [lasting]
      split
      · exact ih.cons first
      · exact ih.cons_cons first

theorem lasting_nodup (history : List StoredFinding) : ((lasting history).map StoredFinding.id).Nodup := by
  induction history with
  | nil => exact List.nodup_nil
  | cons first rest ih =>
      rw [lasting]
      split
      · exact ih
      · rename_i never
        rw [List.map_cons, List.nodup_cons]
        exact ⟨fun member => never (((lasting_sublist rest).map _).subset member), ih⟩

/-- What lasts stands in the order of its last insertions. -/
theorem lasting_order (history : List StoredFinding) : (lasting history).Pairwise (LastBefore history) := by
  induction history with
  | nil => exact List.Pairwise.nil
  | cons first rest ih =>
      have shifted : (lasting rest).Pairwise (LastBefore (first :: rest)) := by
        refine ih.imp ?_
        rintro left right ⟨one, two, isLeft, isRight, before⟩
        exact ⟨one + 1, two + 1, lastAt_succ.mpr isLeft, lastAt_succ.mpr isRight, Nat.succ_lt_succ before⟩
      rw [lasting]
      split
      · exact shifted
      · rename_i never
        refine List.Pairwise.cons ?_ shifted
        intro later member
        obtain ⟨position, last⟩ := mem_lasting.mp member
        exact ⟨0, position + 1, lastAt_zero.mpr ⟨rfl, never⟩, lastAt_succ.mpr last, Nat.succ_pos position⟩

theorem lasting_concat (history : List StoredFinding) (row : StoredFinding) :
    lasting (history ++ [row]) = (lasting history).filter (fun known => known.id ≠ row.id) ++ [row] := by
  induction history with
  | nil => rfl
  | cons first rest ih =>
      have listed : first.id ∈ (rest ++ [row]).map StoredFinding.id ↔
          first.id ∈ rest.map StoredFinding.id ∨ first.id = row.id := by
        rw [List.map_append, List.mem_append, List.map_singleton, List.mem_singleton]
      rw [List.cons_append, lasting, lasting, ih]
      by_cases again : first.id ∈ rest.map StoredFinding.id
      · rw [if_pos again, if_pos (listed.mpr (Or.inl again))]
      rw [if_neg again]
      by_cases same : first.id = row.id
      · rw [if_pos (listed.mpr (Or.inr same)), List.filter_cons_of_neg (by simpa using same)]
      · rw [if_neg fun either => (listed.mp either).elim again same, List.filter_cons_of_pos (by simpa using same),
          List.cons_append]

/-- Rows that are inserted after others leave those that last. -/
theorem replaceAll_lasting {image : Image} (held : image.findings = lasting history) (rows : List StoredFinding) :
    (image.replaceAll rows).findings = lasting (history ++ rows) := by
  induction rows generalizing image history with
  | nil => rw [List.append_nil, ← held, Image.replaceAll, List.foldl_nil]
  | cons row rows ih =>
      have next : (image.replaceFinding row).findings = lasting (history ++ [row]) := by
        rw [lasting_concat, ← held, Image.replaceFinding]
      rw [← List.singleton_append, ← List.append_assoc, ← ih next]
      rfl

/-! ### One call -/

section

variable {store : Store}

/-- The statements of a call insert the rows up to the first finding that has none. -/
theorem executeEach_rowsUpTo (isOpen : store.isClosed = false) (now : String) (items : List Finding) :
    (executeEach .insertFindings (Image.insertFinding now) items store).2 =
      { store with visible := store.visible.replaceAll (rowsUpTo now items) } := by
  induction items generalizing store with
  | nil => rfl
  | cons item rest ih =>
      unfold executeEach rowsUpTo
      cases made : findingRow now item with
      | error cause =>
          rw [Operation.bind_of_error (execute_insertFinding_refused isOpen made)]
          rfl
      | ok row =>
          rw [Operation.bind_of_ok (execute_insertFinding_written isOpen made)]
          have next : ({ store with visible := store.visible.replaceFinding row } : Store).isClosed = false := isOpen
          exact ih next

theorem rowsUpTo_of_kept {now : String} {items : List Finding} {rows : List StoredFinding}
    (kept : Kept now items rows) : rowsUpTo now items = rows := by
  induction kept with
  | nil => rfl
  | cons here _ ih => rw [rowsUpTo, here, ih]

theorem mem_rowsUpTo {now : String} {items : List Finding} (member : row ∈ rowsUpTo now items) :
    ∃ item ∈ items, findingRow now item = .ok row := by
  induction items with
  | nil => exact absurd member List.not_mem_nil
  | cons item rest ih =>
      unfold rowsUpTo at member
      split at member
      · rename_i first made
        rcases List.mem_cons.mp member with rfl | later
        · exact ⟨item, List.mem_cons_self, made⟩
        · obtain ⟨source, among, drawn⟩ := ih later
          exact ⟨source, List.mem_cons_of_mem _ among, drawn⟩
      · exact absurd member List.not_mem_nil

/-- An import that goes well has a row for each finding. -/
theorem importing_kept {now : String} {stored : List Finding}
    (done : (transaction (importing now stored) store).1 = .ok ()) : Kept now stored (rowsUpTo now stored) := by
  rcases outcome : importing now stored store.enter with ⟨fault | _, inner⟩
  · obtain ⟨⟨cause, raised⟩, _⟩ := transaction_failed outcome
    cases raised.symm.trans done
  · obtain ⟨_, between, _, each⟩ := Operation.bind_ok outcome
    obtain ⟨rows, _, _, all⟩ := executeEach_insertFinding_writes now stored between
    have kept : Kept now stored rows := all (congrArg Prod.fst each)
    rwa [rowsUpTo_of_kept kept]

theorem importing_findings (committed : FindingsCommitted store) (isOpen : store.isClosed = false) (now : String)
    (stored : List Finding) :
    (transaction (importing now stored) store).2.visible.findings =
      (store.visible.replaceAll
        (if (transaction (importing now stored) store).1.isOk || store.depth ≠ 0 then rowsUpTo now stored
          else [])).findings := by
  have entered : store.enter.isClosed = false := isOpen
  have ended := executeEach_rowsUpTo entered now stored
  rw [← importing_enter isOpen] at ended
  rcases outcome : importing now stored store.enter with ⟨fault | _, inner⟩
  · rw [outcome] at ended
    cases ended
    obtain ⟨⟨cause, raised⟩, visible⟩ := transaction_failed outcome
    rw [raised, visible]
    by_cases outside : store.depth = 0
    · -- What was seen before is what was committed.
      rw [if_pos ⟨outside, isOpen⟩, if_neg (by simpa [Except.isOk, Except.toBool] using outside)]
      exact committed outside isOpen
    · rw [if_neg fun both => outside both.1, if_pos (by simpa [Except.isOk, Except.toBool] using outside)]
      rfl
  · rw [outcome] at ended
    cases ended
    obtain ⟨_, last, left, _⟩ :=
      succeeds_leave { store.enter with visible := store.enter.visible.replaceAll (rowsUpTo now stored) } isOpen
    rw [transaction_of_ok outcome, left]
    exact congrArg Image.findings (commitIfOutside_ok left).1

namespace Addition

/-- A call names its findings, and fails there or goes on to import them. -/
theorem perform_cases (call : Addition) (store : Store) :
    ∃ next,
      (∃ fault, (identified call.analysis call.findings store).1 = .error fault ∧
        call.perform store = (.error fault, { store with nextId := next }) ∧ call.inserts store = []) ∨
      ∃ stored imported, (identified call.analysis call.findings store).1 = .ok stored ∧
        imported = transaction (importing call.now stored) { store with nextId := next } ∧
        call.perform store = (imported.1.map fun _ => stored, imported.2) ∧
        call.inserts store =
          if imported.1.isOk || store.depth ≠ 0 then rowsUpTo call.now stored else [] := by
  obtain ⟨next, numbered⟩ := identified_numbers call.analysis call.findings store
  refine ⟨next, ?_⟩
  rcases outcome : identified call.analysis call.findings store with ⟨fault | stored, between⟩
  · rw [outcome] at numbered
    cases numbered
    refine Or.inl ⟨fault, rfl, Operation.bind_of_error outcome, ?_⟩
    unfold inserts
    rw [outcome]
  · rw [outcome] at numbered
    cases numbered
    have begun : call.perform store =
        (transaction (importing call.now stored) >>= fun _ => pure stored) { store with nextId := next } :=
      Operation.bind_of_ok outcome
    rw [bind_pure_run] at begun
    refine Or.inr ⟨stored, _, rfl, rfl, begun, ?_⟩
    unfold inserts
    rw [outcome, begun]
    cases (transaction (importing call.now stored) { store with nextId := next }).1 with
    | error fault => rfl
    | ok _ => rfl

/-- What a call does to the findings that are seen: its rows are inserted. -/
theorem perform_findings (committed : FindingsCommitted store) (isOpen : store.isClosed = false) (call : Addition) :
    (call.perform store).2.visible.findings = (store.visible.replaceAll (call.inserts store)).findings := by
  obtain ⟨next, ⟨fault, _, performed, nothing⟩ | ⟨stored, _, _, rfl, performed, inserted⟩⟩ := call.perform_cases store
  · rw [performed, nothing]
    rfl
  · have rested : FindingsCommitted { store with nextId := next } := committed
    rw [performed, inserted]
    exact importing_findings rested isOpen call.now stored

theorem perform_isClosed (call : Addition) (store : Store) : (call.perform store).2.isClosed = store.isClosed := by
  obtain ⟨next, ⟨fault, _, performed, _⟩ | ⟨stored, _, _, rfl, performed, _⟩⟩ := call.perform_cases store
  · rw [performed]
  · rw [performed]
    exact importing_isClosed call.now stored _

/-- After calls, what is seen is what lasts of all that was inserted. -/
theorem run_findings {calls : List Addition} (committed : FindingsCommitted store) (isOpen : store.isClosed = false)
    (held : store.visible.findings = lasting earlier) :
    (run calls store).isClosed = false ∧
      (run calls store).visible.findings = lasting (earlier ++ insertions calls store) := by
  induction calls generalizing store earlier with
  | nil => exact ⟨isOpen, by rw [insertions, List.append_nil]; exact held⟩
  | cons call calls ih =>
      -- What lasts of the insertions so far is what the next call finds.
      have next := (perform_findings committed isOpen call).trans (replaceAll_lasting held _)
      have stays := (perform_isClosed call store).trans isOpen
      have rested := keepsCommitted_addFindings call.analysis call.findings call.now store committed
      rw [insertions, ← List.append_assoc]
      exact ih rested stays next

end Addition

/-! ### The rows of a call -/

/-- A finding as it is kept for an analysis: under its own id, or under a new one if it has none. -/
structure Named (analysis : String) (next : Nat) (given kept : Finding) : Prop where
  graded : Finding.isSeverity given.severity = true
  same : kept = { given with id := kept.id, analysis }
  own : given.id.isTruthy = true → kept.id = given.id
  new : given.id.isTruthy = false → ∃ number, next ≤ number ∧ kept.id = .str (idText number)

theorem Named.weaken {analysis : String} {next number : Nat} {given kept : Finding}
    (named : Named analysis number given kept) (before : next ≤ number) : Named analysis next given kept where
  graded := named.graded
  same := named.same
  own := named.own
  new idless := by
    obtain ⟨later, after, text⟩ := named.new idless
    exact ⟨later, before.trans after, text⟩

/-- The findings after one of a known severity are named in the store that its id leaves. -/
theorem identified_cons {finding : Finding} (graded : Finding.isSeverity finding.severity = true) (analysis : String)
    (rest : List Finding) (store : Store) :
    ∃ id taken, Named analysis store.nextId finding { finding with id, analysis } ∧ store.nextId ≤ taken.nextId ∧
      identified analysis (finding :: rest) store =
        (do
          let others ← identified analysis rest
          pure ({ finding with id, analysis } :: others) : Action Fault (List Finding)) taken := by
  rw [identified, if_pos graded]
  dsimp only
  cases given : finding.id.isTruthy with
  | true =>
      refine ⟨finding.id, store, ⟨graded, rfl, fun _ => rfl, ?_⟩, Nat.le_refl _, rfl⟩
      exact fun idless => absurd given (Bool.eq_false_iff.mp idless)
  | false =>
      refine ⟨.str (idText store.nextId), { store with nextId := store.nextId + 1 }, ⟨graded, rfl, ?_, ?_⟩,
        Nat.le_succ _, rfl⟩
      · exact fun full => absurd full (Bool.eq_false_iff.mp given)
      · exact fun _ => ⟨store.nextId, Nat.le_refl _, rfl⟩

theorem identified_named {analysis : String} {findings stored : List Finding} {after : Store}
    (done : identified analysis findings store = (.ok stored, after)) :
    List.Forall₂ (Named analysis store.nextId) findings stored := by
  induction findings generalizing store stored with
  | nil =>
      cases done
      exact List.Forall₂.nil
  | cons finding rest ih =>
      cases graded : Finding.isSeverity finding.severity with
      | true =>
          obtain ⟨id, taken, named, later, run⟩ := identified_cons graded analysis rest store
          obtain ⟨others, _, remaining, same⟩ := Operation.bind_ok (run.symm.trans done)
          cases same
          exact List.Forall₂.cons named ((ih remaining).imp fun _ _ other => other.weaken later)
      | false =>
          unfold identified at done
          rw [graded] at done
          cases done

/-- A batch with an unknown severity anywhere fails, and says so of one of the findings. -/
theorem identified_unknown {findings : List Finding} {finding : Finding} (member : finding ∈ findings)
    (unknown : Finding.isSeverity finding.severity = false) (analysis : String) (store : Store) :
    ∃ first ∈ findings, Finding.isSeverity first.severity = false ∧
      (identified analysis findings store).1 =
        .error (.unknownSeverity first.severity.plain first.title.plain) := by
  induction findings generalizing store with
  | nil => exact absurd member List.not_mem_nil
  | cons head rest ih =>
      cases graded : Finding.isSeverity head.severity with
      | false =>
          refine ⟨head, List.mem_cons_self, graded, ?_⟩
          unfold identified
          rw [graded]
          rfl
      | true =>
          have later : finding ∈ rest := by
            rcases List.mem_cons.mp member with rfl | later
            · exact absurd graded (Bool.eq_false_iff.mp unknown)
            · exact later
          obtain ⟨id, taken, _, _, run⟩ := identified_cons graded analysis rest store
          obtain ⟨first, among, bad, failed⟩ := ih later taken
          refine ⟨first, List.mem_cons_of_mem _ among, bad, ?_⟩
          rw [run]
          exact congrArg Prod.fst (Operation.bind_of_error (Prod.ext failed rfl))

/-- What a call inserts, by its answer: a row for each finding if it goes well, and nothing if it fails, unless a
transaction is open. If it fails for an unknown severity it inserts nothing there either. -/
structure Addition.InsertsByAnswer (call : Addition) (store : Store) : Prop where
  answered : ∀ stored, (call.perform store).1 = .ok stored →
    List.Forall₂ (Named call.analysis store.nextId) call.findings stored ∧ Kept call.now stored (call.inserts store)
  failed : ∀ fault, (call.perform store).1 = .error fault → store.depth = 0 → call.inserts store = []
  refused : ∀ finding ∈ call.findings, Finding.isSeverity finding.severity = false →
    (∃ first ∈ call.findings, Finding.isSeverity first.severity = false ∧
      (call.perform store).1 = .error (.unknownSeverity first.severity.plain first.title.plain)) ∧
    Numbers store (call.perform store).2 ∧ call.inserts store = []

namespace Addition

theorem insertsByAnswer (call : Addition) (store : Store) : call.InsertsByAnswer store := by
  obtain ⟨next, ⟨fault, unnamed, performed, nothing⟩ | ⟨stored, imported, named, run, performed, inserted⟩⟩ :=
    call.perform_cases store
  · refine ⟨?_, fun _ _ _ => nothing, ?_⟩
    · intro stored answered
      rw [performed] at answered
      cases answered
    · intro finding member unknown
      obtain ⟨first, among, bad, raised⟩ := identified_unknown member unknown call.analysis store
      cases unnamed.symm.trans raised
      rw [performed]
      exact ⟨⟨first, among, bad, rfl⟩, ⟨next, rfl⟩, nothing⟩
  · have known : ∀ finding ∈ call.findings, Finding.isSeverity finding.severity ≠ false := by
      intro finding member unknown
      obtain ⟨_, _, _, raised⟩ := identified_unknown member unknown call.analysis store
      cases named.symm.trans raised
    refine ⟨?_, ?_, fun finding member unknown => absurd unknown (known finding member)⟩
    · rcases imported with ⟨fault | _, after⟩
      · rw [performed]
        intro answer answered
        cases answered
      · have all := importing_kept (congrArg Prod.fst run.symm)
        rw [performed, inserted]
        intro answer answered
        cases answered
        exact ⟨identified_named (Prod.ext named rfl), all⟩
    · rcases imported with ⟨fault | _, after⟩
      · intro _ _ outside
        rw [inserted, outside]
        rfl
      · rw [performed]
        intro fault failed
        cases failed

theorem mem_inserts {call : Addition} (member : row ∈ call.inserts store) :
    row.createdAt = call.now ∧ row.severity ∈ Finding.severities := by
  obtain ⟨next, ⟨fault, _, _, nothing⟩ | ⟨stored, imported, named, _, _, inserted⟩⟩ := call.perform_cases store
  · rw [nothing] at member
    exact absurd member List.not_mem_nil
  · have among : row ∈ rowsUpTo call.now stored := by
      rw [inserted] at member
      split at member
      · exact member
      · exact absurd member List.not_mem_nil
    obtain ⟨kept, listed, made⟩ := mem_rowsUpTo among
    obtain ⟨given, _, origin⟩ := Outcome.exists_item (identified_named (Prod.ext named rfl)) listed
    obtain ⟨level, graded⟩ := Finding.exists_of_isSeverity origin.graded
    have known := origin.graded
    rw [graded] at known
    have same : kept.severity = .str level := by
      rw [origin.same]
      exact graded
    obtain ⟨_, ⟨cell, bound, written⟩, _, time⟩ := findingRow_cells made
    have text := Except.ok.inj (written.symm.trans (Cell.required_of_bind same bound))
    exact ⟨time, text ▸ List.contains_iff_mem.mp known⟩

theorem mem_insertions {calls : List Addition} (member : row ∈ insertions calls store) :
    (∃ call ∈ calls, row.createdAt = call.now) ∧ row.severity ∈ Finding.severities := by
  induction calls generalizing store with
  | nil => exact absurd member List.not_mem_nil
  | cons call calls ih =>
      rw [insertions, List.mem_append] at member
      rcases member with here | later
      · obtain ⟨time, graded⟩ := mem_inserts here
        exact ⟨⟨call, List.mem_cons_self, time⟩, graded⟩
      · obtain ⟨⟨other, among, time⟩, graded⟩ := ih later
        exact ⟨⟨other, List.mem_cons_of_mem _ among, time⟩, graded⟩

/-- With a clock that does not go back, rows are inserted in the order of their times. -/
theorem insertions_times {calls : List Addition} (clock : calls.Pairwise fun one two => one.now ≤ two.now)
    (store : Store) :
    (insertions calls store).Pairwise fun earlier later => earlier.createdAt ≤ later.createdAt := by
  induction clock generalizing store with
  | nil => exact List.Pairwise.nil
  | @cons call calls after _ ih =>
      rw [insertions, List.pairwise_append]
      refine ⟨List.pairwise_iff_forall_sublist.mpr ?_, ih _, ?_⟩
      · intro earlier later both
        have one := (mem_inserts (both.subset List.mem_cons_self)).1
        have two := (mem_inserts (both.subset (List.mem_cons_of_mem _ List.mem_cons_self))).1
        have same := one.trans two.symm
        exact same ▸ String.le_refl _
      · intro earlier member later among
        obtain ⟨⟨other, called, time⟩, _⟩ := mem_insertions among
        rw [(mem_inserts member).1, time]
        exact after other called

end Addition

end

/-! ### Answers -/

theorem rank_injective : ∀ left ∈ Finding.severities, ∀ right ∈ Finding.severities,
    Finding.rank left = Finding.rank right → left = right := by decide

/-- Rows of one severity that stand in the order of their times are not moved when rows are read. -/
theorem filter_rank_mergeSort {rows : List StoredFinding}
    (times : rows.Pairwise fun earlier later => earlier.createdAt ≤ later.createdAt) (rank : Nat) :
    (rows.mergeSort precedes).filter (fun row => Finding.rank row.severity == rank) =
      rows.filter (fun row => Finding.rank row.severity == rank) := by
  refine filter_mergeSort ((times.filter _).imp_of_mem ?_)
  intro earlier later one two inTime
  have left := beq_iff_eq.mp (List.mem_filter.mp one).2
  have right := beq_iff_eq.mp (List.mem_filter.mp two).2
  exact precedes_iff.mpr (Or.inr ⟨left.trans right.symm, inTime⟩)

/-- What is read of rows that last, if they were inserted in the order of their times. -/
theorem lists_mergeSort {asked : StoredFinding → Prop} {test : StoredFinding → Bool}
    (wanted : ∀ row, test row = true ↔ asked row) (graded : ∀ row ∈ history, row.severity ∈ Finding.severities)
    (times : history.Pairwise fun earlier later => earlier.createdAt ≤ later.createdAt) :
    Lists history asked (((lasting history).filter test).mergeSort precedes) := by
  have order := inReadingOrder_mergeSort ((lasting history).filter test)
  refine ⟨?_, ?_, ?_⟩
  · rw [(order.perm.map StoredFinding.id).nodup_iff]
    exact (lasting_nodup history).sublist (List.filter_sublist.map _)
  · intro row
    rw [order.perm.mem_iff, List.mem_filter, mem_lasting, wanted]
  · rw [List.pairwise_iff_forall_sublist]
    intro left right both
    rcases List.pairwise_iff_forall_sublist.mp order.ascending both with less | ⟨same, _⟩
    · exact Or.inl less
    · -- Of two rows of one severity, the one that is read first was first among those that last.
      have pair := both.filter fun row => Finding.rank row.severity == Finding.rank right.severity
      rw [filter_rank_mergeSort ((times.sublist (lasting_sublist history)).filter test)] at pair
      simp only [same, List.filter_cons, List.filter_nil, beq_self_eq_true, if_true] at pair
      have standing := (pair.trans List.filter_sublist).trans List.filter_sublist
      have listed : ∀ row ∈ [left, right], row.severity ∈ Finding.severities :=
        fun row member => graded row ((lasting_sublist history).subset (standing.subset member))
      refine Or.inr ⟨rank_injective _ (listed left ?_) _ (listed right ?_) same, ?_⟩
      · exact List.mem_cons_self
      · exact List.mem_cons_of_mem _ List.mem_cons_self
      · exact List.pairwise_iff_forall_sublist.mp (lasting_order history) standing

theorem lists_findingsOf {image : Image} (held : image.findings = lasting history)
    (graded : ∀ row ∈ history, row.severity ∈ Finding.severities)
    (times : history.Pairwise fun earlier later => earlier.createdAt ≤ later.createdAt) (analysis : String)
    (severity : Option String) :
    Lists history (fun row => row.analysis = analysis ∧ ∀ text ∈ severity, text ≠ "" → row.severity = text)
      (image.findingsOf analysis severity) := by
  unfold Image.findingsOf
  rw [held]
  refine lists_mergeSort ?_ graded times
  intro row
  rw [Bool.and_eq_true, beq_iff_eq]
  refine and_congr_right fun _ => ?_
  cases severity with
  | none => simp
  | some text =>
      by_cases blank : text = ""
      · rw [Option.filter_some_neg (by simpa using blank)]
        simp [blank]
      · rw [Option.filter_some_pos (by simpa using blank)]
        simp [blank]

/-- What is answered about findings after calls at a clock that does not go back. It lists the rows that the calls
inserted last under their ids, if they are of the analysis and of the severity that is asked for. What a call inserts is
a row for each finding, and nothing if one of them is of an unknown severity. -/
theorem findings_complete_in_order (store : Store) (calls : List Addition) (isOpen : store.isClosed = false)
    (empty : store.visible.findings = []) (committed : FindingsCommitted store)
    (clock : calls.Pairwise fun one two => one.now ≤ two.now) :
    (∀ (analysis : String) (severity : Option String), Text.encodeFault? analysis = none →
      (∀ text ∈ severity, Text.encodeFault? text = none) →
      ∃ rows, (findFindings analysis none severity (Addition.run calls store)).1 = .ok rows ∧
        Lists (Addition.insertions calls store)
          (fun row => row.analysis = analysis ∧ ∀ text ∈ severity, text ≠ "" → row.severity = text) rows) ∧
    ∀ (call : Addition) (here : Store), call.InsertsByAnswer here := by
  refine ⟨?_, Addition.insertsByAnswer⟩
  intro analysis severity written spelled
  have nothing : store.visible.findings = lasting [] := empty
  obtain ⟨stays, held⟩ := Addition.run_findings committed isOpen nothing
  exact ⟨_, findFindings_of_severity stays written spelled,
    lists_findingsOf held (fun row member => (Addition.mem_insertions member).2)
      (Addition.insertions_times clock store) analysis severity⟩

/-! ### Findings that move -/

def found (severity id : String) : Finding := { severity := .str severity, title := .str "t", id := .str id }

/-- A finding goes to another analysis and comes back with another severity. A call of an unknown severity is made in
between, and the last one brings an id twice. -/
def rescans : List Addition :=
  [⟨"a", [found "low" "x", found "high" ""], "1"⟩, ⟨"b", [found "critical" "x"], "1"⟩,
    ⟨"a", [found "high" "z", found "urgent" "w"], "2"⟩,
    ⟨"a", [found "info" "y", found "medium" "y", found "high" "x"], "3"⟩]

def kept (severity id time : String) : StoredFinding :=
  { id, analysis := "a", scanner := "", severity, title := "t", description := some "", file := none, line := .null
    ruleId := none, createdAt := time }

theorem findings_complete_in_order_rescans :
    (rescans.Pairwise fun one two => one.now ≤ two.now) ∧
      ∃ rows, (findFindings "a" none none (Addition.run rescans {})).1 = .ok rows ∧
        Lists (Addition.insertions rescans {}) (fun row => row.analysis = "a" ∧
          ∀ text ∈ (none : Option String), text ≠ "" → row.severity = text) rows ∧
        rows = [kept "high" "id-1" "1", kept "high" "x" "3", kept "medium" "y" "3"] := by
  have clock : rescans.Pairwise fun one two => one.now ≤ two.now := by decide
  have written : Text.encodeFault? "a" = none := by decide +kernel
  obtain ⟨rows, answered, lists⟩ := (findings_complete_in_order {} rescans rfl rfl (fun _ _ => rfl) clock).1 "a" none
    written fun _ member => absurd member (Option.not_mem_none _)
  have stored : (Addition.run rescans {}).visible.rowsOf "a" =
    [kept "high" "id-1" "1", kept "medium" "y" "3", kept "high" "x" "3"] := by rfl
  have sorted : [kept "high" "id-1" "1", kept "medium" "y" "3", kept "high" "x" "3"].mergeSort precedes =
      [kept "high" "id-1" "1", kept "high" "x" "3", kept "medium" "y" "3"] := by
    have one : precedes (kept "high" "id-1" "1") (kept "medium" "y" "3") = true := by decide
    have two : precedes (kept "high" "id-1" "1") (kept "high" "x" "3") = true := by decide
    have three : precedes (kept "medium" "y" "3") (kept "high" "x" "3") = false := by decide
    simp [List.mergeSort, one, two, three]
  have read := Except.ok.inj (answered.symm.trans (findFindings_all rfl written))
  rw [findingsOf_none, stored, sorted] at read
  exact ⟨clock, rows, answered, lists, read⟩

end ChangeImpact.Store
