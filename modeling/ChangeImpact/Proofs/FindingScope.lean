import ChangeImpact.Proofs.Script
import ChangeImpact.Proofs.Upkeep

/-!
What an import of findings does to the findings of other analyses. Findings are kept under their ids alone, so an import
takes from every other analysis the findings whose ids it brings again, and nothing else.
-/

set_option autoImplicit false

namespace ChangeImpact

def Finding.key? (finding : Finding) : Option String :=
  (Store.Cell.bind 1 finding.id).toOption.bind Store.Cell.asText

namespace Store

variable {now analysis other : String} {store : Store}

/-! ### Rows -/

def Image.rowsOf (analysis : String) (image : Image) : List StoredFinding :=
  image.findings.filter fun row => row.analysis == analysis

theorem Cell.asText_of_required {column text : String} {cell : Cell}
    (kept : cell.required column = .ok text) : cell.asText = some text := by
  unfold required at kept
  split at kept
  · rename_i held
    cases kept
    exact held
  · cases kept

theorem findingRow_cells {finding : Finding} {row : StoredFinding} (made : findingRow now finding = .ok row) :
    (∃ cell, Cell.bind 1 finding.id = .ok cell ∧ cell.required "findings.id" = .ok row.id) ∧
    (∃ cell, Cell.bind 4 finding.severity = .ok cell ∧ cell.required "findings.severity" = .ok row.severity) ∧
    row.analysis = finding.analysis ∧ row.createdAt = now := by
  obtain ⟨id, boundId, made⟩ := Outcome.bind_ok made
  obtain ⟨_, _, made⟩ := Outcome.bind_ok made
  obtain ⟨_, _, made⟩ := Outcome.bind_ok made
  obtain ⟨severity, boundSeverity, made⟩ := Outcome.bind_ok made
  obtain ⟨_, _, made⟩ := Outcome.bind_ok made
  obtain ⟨_, _, made⟩ := Outcome.bind_ok made
  obtain ⟨_, _, made⟩ := Outcome.bind_ok made
  obtain ⟨_, _, made⟩ := Outcome.bind_ok made
  obtain ⟨_, _, made⟩ := Outcome.bind_ok made
  obtain ⟨_, keptId, made⟩ := Outcome.bind_ok made
  obtain ⟨_, _, made⟩ := Outcome.bind_ok made
  obtain ⟨_, keptSeverity, made⟩ := Outcome.bind_ok made
  obtain ⟨_, _, made⟩ := Outcome.bind_ok made
  cases made
  exact ⟨⟨id, boundId, keptId⟩, ⟨severity, boundSeverity, keptSeverity⟩, rfl, rfl⟩

theorem findingRow_ok {finding : Finding} {row : StoredFinding}
    (made : findingRow now finding = .ok row) :
    finding.key? = some row.id ∧ row.analysis = finding.analysis := by
  obtain ⟨⟨id, bound, kept⟩, _, own, _⟩ := findingRow_cells made
  refine ⟨?_, own⟩
  unfold Finding.key?
  rw [bound]
  exact Cell.asText_of_required kept

def Image.replaceAll (rows : List StoredFinding) (image : Image) : Image :=
  rows.foldl (fun known row => known.replaceFinding row) image

theorem rowsOf_replaceFinding {row : StoredFinding} (different : row.analysis ≠ other) (image : Image) :
    (image.replaceFinding row).rowsOf other =
      (image.rowsOf other).filter fun known => known.id ≠ row.id := by
  have foreign : [row].filter (fun known => known.analysis == other) = [] := by
    rw [List.filter_singleton, beq_eq_false_iff_ne.mpr different]
    rfl
  unfold Image.rowsOf Image.replaceFinding
  rw [List.filter_append, foreign, List.append_nil, List.filter_filter, List.filter_filter]
  apply List.filter_congr
  intro known _
  exact Bool.and_comm _ _

theorem filter_not_mem_nil (rows : List StoredFinding) :
    rows.filter (fun row => row.id ∉ ([] : List String)) = rows := by
  apply List.filter_eq_self.mpr
  intro row _
  exact decide_eq_true List.not_mem_nil

/-- Rows of one analysis take from another exactly the rows with their ids. -/
theorem rowsOf_replaceAll {rows : List StoredFinding} (different : ∀ row ∈ rows, row.analysis ≠ other)
    (image : Image) :
    (image.replaceAll rows).rowsOf other =
      (image.rowsOf other).filter fun known => known.id ∉ rows.map StoredFinding.id := by
  induction rows generalizing image with
  | nil => exact (filter_not_mem_nil _).symm
  | cons row rest ih =>
      obtain ⟨here, later⟩ := List.forall_mem_cons.mp different
      change ((image.replaceFinding row).replaceAll rest).rowsOf other = _
      rw [ih later, rowsOf_replaceFinding here, List.filter_filter]
      apply List.filter_congr
      intro known _
      simp only [List.map_cons, List.mem_cons, not_or, Bool.decide_and, Bool.and_comm]

/-- What the statements of an import have done when they are through or one of them is refused. -/
theorem executeEach_insertFinding_writes (now : String) (items : List Finding) (store : Store) :
    ∃ rows,
      (executeEach .insertFindings (Image.insertFinding now) items store).2 =
        { store with visible := store.visible.replaceAll rows } ∧
      (∀ row ∈ rows, ∃ item ∈ items, findingRow now item = .ok row) ∧
      ((executeEach .insertFindings (Image.insertFinding now) items store).1 = .ok () →
        List.Forall₂ (fun item row => findingRow now item = .ok row) items rows) := by
  induction items generalizing store with
  | nil => exact ⟨[], rfl, List.forall_mem_nil _, fun _ => List.Forall₂.nil⟩
  | cons item rest ih =>
      unfold executeEach
      rcases outcome : execute .insertFindings (Image.insertFinding now item) store with ⟨fault | _, between⟩
      · rw [Operation.bind_of_error outcome]
        cases execute_error outcome
        exact ⟨[], rfl, List.forall_mem_nil _, nofun⟩
      · rw [Operation.bind_of_ok outcome]
        obtain ⟨image, inserted, rfl⟩ := execute_ok outcome
        obtain ⟨row, made, same⟩ := Outcome.bind_ok inserted
        cases same
        obtain ⟨rows, ended, sources, all⟩ := ih { store with visible := store.visible.replaceFinding row }
        refine ⟨row :: rows, ended, ?_, fun done => List.Forall₂.cons made (all done)⟩
        intro new member
        rcases List.mem_cons.mp member with rfl | later
        · exact ⟨item, List.mem_cons_self, made⟩
        · obtain ⟨source, among, drawn⟩ := sources new later
          exact ⟨source, List.mem_cons_of_mem _ among, drawn⟩

/-! ### Findings at rest -/

/-- Nothing changes but how many ids have been taken. -/
def Numbers (before after : Store) : Prop := ∃ next, after = { before with nextId := next }

theorem Numbers.refl (store : Store) : Numbers store store := ⟨store.nextId, rfl⟩

theorem Numbers.bind {α β : Type} {first : Action Fault α} {next : α → Action Fault β}
    (one : ∀ store, Numbers store (first store).2) (two : ∀ value store, Numbers store (next value store).2)
    (store : Store) : Numbers store ((first >>= next) store).2 := by
  refine Operation.bind_keeps Numbers ?_ one two store
  rintro _ _ _ ⟨_, rfl⟩ ⟨last, rfl⟩
  exact ⟨last, rfl⟩

theorem identified_numbers (analysis : String) (findings : List Finding) (store : Store) :
    Numbers store (identified analysis findings store).2 := by
  induction findings generalizing store with
  | nil => exact Numbers.refl store
  | cons finding rest ih =>
      have others : ∀ id store, Numbers store ((do
          let others ← identified analysis rest
          pure ({ finding with id, analysis } :: others) : Action Fault (List Finding)) store).2 :=
        fun id => Numbers.bind ih fun _ => Numbers.refl
      unfold identified
      split
      · dsimp only
        split
        · exact others finding.id store
        · exact Numbers.bind (fun _ => ⟨_, rfl⟩) (fun id => others (.str id)) store
      · exact Numbers.refl store

/-- The findings that are seen are committed, unless a transaction is open or the store is closed. -/
def FindingsCommitted (store : Store) : Prop :=
  store.depth = 0 → store.isClosed = false → store.committed.findings = store.visible.findings

def KeepsCommitted {ε α : Type} (action : Action ε α) : Prop :=
  ∀ store, FindingsCommitted store → FindingsCommitted (action store).2

section

variable {α β : Type}

theorem keepsCommitted_of_onlyReads {action : Action Fault α} (reads : OnlyReads action) : KeepsCommitted action := by
  intro store committed
  rw [reads store]
  exact committed

theorem KeepsCommitted.bind {first : Action Fault α} {next : α → Action Fault β} (one : KeepsCommitted first)
    (two : ∀ value, KeepsCommitted (next value)) : KeepsCommitted (first >>= next) :=
  Operation.bind_keeps (fun before after => FindingsCommitted before → FindingsCommitted after)
    (fun first second committed => second (first committed)) one two

theorem rests_leave (store : Store) : FindingsCommitted (leave store).2 := by
  unfold leave commitIfOutside commit FindingsCommitted
  dsimp only
  split
  · split
    · rename_i closed
      exact fun _ isOpen => absurd closed (Bool.eq_false_iff.mp isOpen)
    · exact fun _ _ => rfl
  · rename_i inside
    exact fun outside => absurd outside inside

theorem rests_abandon (store : Store) : FindingsCommitted (abandon store).2 := by
  unfold abandon rollback FindingsCommitted
  dsimp only
  split
  · split
    · rename_i closed
      exact fun _ isOpen => absurd closed (Bool.eq_false_iff.mp isOpen)
    · exact fun _ _ => rfl
  · rename_i inside
    exact fun outside => absurd outside inside

/-- After a transaction there are no findings that are seen and not committed, whatever was done in it. -/
theorem keepsCommitted_transaction (body : Action Fault α) : KeepsCommitted (transaction body) := by
  intro store _
  rcases outcome : body store.enter with ⟨fault | value, inner⟩
  · have ended := rests_abandon inner
    rw [transaction_of_error outcome]
    generalize abandon inner = ending at ended
    rcases ending with ⟨_ | _, last⟩ <;> exact ended
  · have ended := rests_leave inner
    rw [transaction_of_ok outcome]
    generalize leave inner = ending at ended
    rcases ending with ⟨_ | _, last⟩ <;> exact ended

theorem keepsCommitted_execute {activity : Activity} {statement : Image → Except Cause Image}
    (spares : ∀ image changed, statement image = .ok changed → changed.findings = image.findings) :
    KeepsCommitted (execute activity statement) := by
  intro store committed
  rcases outcome : execute activity statement store with ⟨fault | _, after⟩
  · cases execute_error outcome
    exact committed
  · obtain ⟨image, changed, rfl⟩ := execute_ok outcome
    intro outside isOpen
    exact (committed outside isOpen).trans (spares _ _ changed).symm

theorem keepsCommitted_executeEach {activity : Activity} {statement : α → Image → Except Cause Image}
    (spares : ∀ item image changed, statement item image = .ok changed →
      changed.findings = image.findings) (items : List α) :
    KeepsCommitted (executeEach activity statement items) := by
  induction items with
  | nil => exact fun _ committed => committed
  | cons item rest ih => exact (keepsCommitted_execute (spares item)).bind fun _ => ih

theorem keepsCommitted_commitIfOutside : KeepsCommitted commitIfOutside := by
  intro store committed
  unfold commitIfOutside commit
  split
  · split
    · exact committed
    · exact fun _ _ => rfl
  · exact committed

theorem keepsCommitted_numbered (items : List α) :
    KeepsCommitted (numbered items : Action Fault (List (String × α))) := by
  intro store committed
  rw [numbered_run]
  exact committed

private theorem keepsCommitted_batch {activity : Activity} {statement : String × α → Image → Except Cause Image}
    (spares : ∀ item image changed, statement item image = .ok changed →
      changed.findings = image.findings) (batch : List α) :
    KeepsCommitted (do
      let items ← numbered batch
      if items.isEmpty then pure []
      else
        executeEach activity statement items
        commitIfOutside
        pure (items.map Prod.fst) : Action Fault (List String)) := by
  refine (keepsCommitted_numbered batch).bind fun items => ?_
  split
  · exact fun _ committed => committed
  · exact (keepsCommitted_executeEach spares items).bind fun _ =>
      keepsCommitted_commitIfOutside.bind fun _ _ committed => committed

theorem keepsCommitted_createNodes (batch : List NodeDraft) : KeepsCommitted (createNodes batch) := by
  refine keepsCommitted_batch ?_ batch
  intro item image changed done
  obtain ⟨_, _, rfl⟩ := insertNode_ok done
  rfl

theorem keepsCommitted_createEdges (batch : List EdgeDraft) : KeepsCommitted (createEdges batch) := by
  refine keepsCommitted_batch ?_ batch
  intro item image changed done
  obtain ⟨_, _, rfl, _⟩ := insertEdge_ok done
  rfl

theorem keepsCommitted_recordAnalysis (analysis path : Json.Value) (now : String) :
    KeepsCommitted (recordAnalysis analysis path now) := by
  refine (keepsCommitted_execute ?_).bind fun _ => keepsCommitted_commitIfOutside
  intro image changed done
  obtain ⟨_, _, done⟩ := Outcome.bind_ok done
  obtain ⟨_, _, done⟩ := Outcome.bind_ok done
  obtain ⟨_, _, same⟩ := Outcome.bind_ok done
  cases same
  unfold Image.putRecord
  split
  · rfl
  · rfl

theorem keepsCommitted_addFindings (analysis : String) (findings : List Finding) (now : String) :
    KeepsCommitted (addFindings analysis findings now) := by
  refine KeepsCommitted.bind ?_ fun stored => (keepsCommitted_transaction _).bind fun _ _ committed => committed
  intro store committed
  obtain ⟨_, numbered⟩ := identified_numbers analysis findings store
  rw [numbered]
  exact committed

theorem onlyReads_findFindings (analysis : String) (held severity : Option String) :
    OnlyReads (findFindings analysis held severity) := by
  refine (onlyReads_query _ _ _).bind fun rows => ?_
  split
  · exact fun _ => rfl
  split
  · exact fun _ => rfl
  · exact fun _ => rfl

theorem Service.keepsCommitted (call : Service α) : KeepsCommitted call.perform := by
  cases call with
  | createNodes batch => exact keepsCommitted_createNodes batch
  | createEdges batch => exact keepsCommitted_createEdges batch
  | recordAnalysis analysis path now => exact keepsCommitted_recordAnalysis analysis path now
  | deleteGraph analysis => exact keepsCommitted_transaction _
  | deleteAnalysis analysis => exact keepsCommitted_transaction _
  | addFindings analysis findings now => exact keepsCommitted_addFindings analysis findings now
  | findNodes analysis kind file => exact keepsCommitted_of_onlyReads (onlyReads_query _ _ _)
  | findEdges analysis kind => exact keepsCommitted_of_onlyReads (onlyReads_query _ _ _)
  | findNode id => exact keepsCommitted_of_onlyReads (onlyReads_query _ _ _)
  | fullGraph analysis => exact keepsCommitted_of_onlyReads (onlyReads_fullGraph analysis)
  | findRecord analysis => exact keepsCommitted_of_onlyReads (onlyReads_findRecord analysis)
  | listRecords => exact keepsCommitted_of_onlyReads (onlyReads_query _ _ _)
  | findFindings analysis held severity =>
      exact keepsCommitted_of_onlyReads (onlyReads_findFindings analysis held severity)
  | close => exact fun _ _ _ => nofun

end

/-! ### Imports -/

theorem identified_analysis {findings stored : List Finding} {after : Store}
    (done : identified analysis findings store = (.ok stored, after)) :
    ∀ finding ∈ stored, finding.analysis = analysis := by
  induction findings generalizing store stored with
  | nil =>
      cases done
      exact List.forall_mem_nil _
  | cons finding rest ih =>
      have listed : ∀ {id : Json.Value} {here : Store},
          (do
            let others ← identified analysis rest
            pure ({ finding with id, analysis } :: others) : Action Fault (List Finding)) here =
              (.ok stored, after) → ∀ finding ∈ stored, finding.analysis = analysis := by
        intro id here run
        obtain ⟨others, last, identifiedRest, same⟩ := Operation.bind_ok run
        cases same
        exact List.forall_mem_cons.mpr ⟨rfl, ih identifiedRest⟩
      unfold identified at done
      split at done
      · dsimp only at done
        split at done
        · exact listed done
        · obtain ⟨id, between, _, remaining⟩ := Operation.bind_ok done
          exact listed remaining
      · cases done

/-- What is seen after a transaction that fails: what was committed, unless another one is open. -/
theorem transaction_failed {α : Type} {body : Action Fault α} {inner : Store} {fault : Fault}
    (failed : body store.enter = (.error fault, inner)) :
    (∃ cause, (transaction body store).1 = .error cause) ∧
      (transaction body store).2.visible =
        if inner.depth - 1 = 0 ∧ inner.isClosed = false then inner.committed else inner.visible := by
  rw [transaction_of_error failed]
  unfold abandon rollback
  dsimp only
  by_cases outside : inner.depth - 1 = 0
  · cases closed : inner.isClosed with
    | true => simp [outside]
    | false => simp [outside]
  · simp [outside]

theorem bind_pure_run {α β : Type} (first : Action Fault α) (value : β) (store : Store) :
    (first >>= fun _ => pure value) store = ((first store).1.map fun _ => value, (first store).2) := by
  rcases outcome : first store with ⟨fault | _, after⟩
  · rw [Operation.bind_of_error outcome]
    rfl
  · rw [Operation.bind_of_ok outcome]
    rfl

theorem keys_eq {stored : List Finding} {rows : List StoredFinding}
    (made : List.Forall₂ (fun finding row => findingRow now finding = .ok row) stored rows) :
    (rows.map StoredFinding.id).map some = stored.map Finding.key? := by
  induction made with
  | nil => rfl
  | cons here _ ih =>
      rw [List.map_cons, List.map_cons, List.map_cons, ih, (findingRow_ok here).1]

def importing (now : String) (stored : List Finding) : Action Fault Unit := do
  execute .insertFindings .ok
  executeEach .insertFindings (Image.insertFinding now) stored

theorem importing_enter (isOpen : store.isClosed = false) (now : String) (stored : List Finding) :
    importing now stored store.enter =
      executeEach .insertFindings (Image.insertFinding now) stored store.enter := by
  have begun : execute .insertFindings .ok store.enter = (.ok (), store.enter) := by
    unfold execute enter
    rw [isOpen]
    rfl
  exact Operation.bind_of_ok begun

/-- An import that fails outside of a transaction has written nothing in the end. -/
theorem importing_writes (committed : FindingsCommitted store) (now : String) (stored : List Finding) :
    ∃ rows,
      (transaction (importing now stored) store).2.visible.findings =
        (store.visible.replaceAll rows).findings ∧
      (∀ row ∈ rows, ∃ finding ∈ stored, findingRow now finding = .ok row) ∧
      ((transaction (importing now stored) store).1 = .ok () →
        List.Forall₂ (fun finding row => findingRow now finding = .ok row) stored rows) ∧
      (∀ fault, (transaction (importing now stored) store).1 = .error fault → store.depth = 0 →
        rows = []) ∧
      (store.isClosed = true → rows = []) := by
  cases closed : store.isClosed with
  | true =>
      have refused : execute .insertFindings .ok store.enter =
          (.error (.failed .insertFindings .closed), store.enter) := by
        unfold execute enter
        rw [closed]
        rfl
      have failed : importing now stored store.enter =
          (.error (.failed .insertFindings .closed), store.enter) := Operation.bind_of_error refused
      obtain ⟨⟨cause, raised⟩, visible⟩ := transaction_failed failed
      have still : ¬ (store.enter.depth - 1 = 0 ∧ store.enter.isClosed = false) := by
        rintro ⟨_, isOpen⟩
        exact Bool.noConfusion (closed.symm.trans isOpen)
      rw [if_neg still] at visible
      refine ⟨[], congrArg Image.findings visible, List.forall_mem_nil _, ?_, fun _ _ _ => rfl,
        fun _ => rfl⟩
      intro done
      cases raised.symm.trans done
  | false =>
      have run := importing_enter closed now stored
      obtain ⟨rows, ended, sources, all⟩ := executeEach_insertFinding_writes now stored store.enter
      rw [← run] at ended all
      rcases outcome : importing now stored store.enter with ⟨fault | _, inner⟩
      · -- The rows that were written before the refusal stay only if another transaction is open.
        rw [outcome] at ended
        obtain ⟨⟨cause, raised⟩, visible⟩ := transaction_failed outcome
        have undone : (transaction (importing now stored) store).1 ≠ .ok () := by
          intro done
          cases raised.symm.trans done
        cases ended
        by_cases outside : store.depth = 0
        · rw [if_pos ⟨outside, closed⟩] at visible
          have findings := (congrArg Image.findings visible).trans (committed outside closed)
          exact ⟨[], findings, List.forall_mem_nil _, fun done => absurd done undone,
            fun _ _ _ => rfl, fun _ => rfl⟩
        · rw [if_neg fun both => outside both.1] at visible
          exact ⟨rows, congrArg Image.findings visible, sources, fun done => absurd done undone,
            fun _ _ inside => absurd inside outside, nofun⟩
      · rw [outcome] at ended all
        have isOpen : inner.isClosed = false := (congrArg Store.isClosed ended).trans closed
        obtain ⟨_, last, left, _⟩ := succeeds_leave inner isOpen
        have done : transaction (importing now stored) store = (.ok (), last) := by
          rw [transaction_of_ok outcome, left]
        have visible : last.visible = store.visible.replaceAll rows :=
          (commitIfOutside_ok left).1.trans (congrArg Store.visible ended)
        rw [done]
        exact ⟨rows, congrArg Image.findings visible, sources, fun _ => all rfl, nofun, nofun⟩

/-- What an import takes from another analysis: the findings with the ids that it brings, all of them if it goes well, and
none if it fails outside of a transaction. -/
theorem addFindings_takes (committed : FindingsCommitted store) (different : other ≠ analysis)
    (findings : List Finding) (now : String) :
    ∃ imported : List String,
      (∀ stored, (addFindings analysis findings now store).1 = .ok stored →
        imported.map some = stored.map Finding.key?) ∧
      (∀ fault, (addFindings analysis findings now store).1 = .error fault → store.depth = 0 →
        imported = []) ∧
      (store.isClosed = true → imported = []) ∧
      (addFindings analysis findings now store).2.isClosed = store.isClosed ∧
      (addFindings analysis findings now store).2.visible.rowsOf other =
        (store.visible.rowsOf other).filter fun row => row.id ∉ imported := by
  obtain ⟨next, numbered⟩ := identified_numbers analysis findings store
  rcases outcome : identified analysis findings store with ⟨fault | stored, between⟩
  · rw [outcome] at numbered
    cases numbered
    have failed : addFindings analysis findings now store = _ := Operation.bind_of_error outcome
    rw [failed]
    exact ⟨[], nofun, fun _ _ _ => rfl, fun _ => rfl, rfl, (filter_not_mem_nil _).symm⟩
  · rw [outcome] at numbered
    cases numbered
    have own := identified_analysis outcome
    have begun : addFindings analysis findings now store =
        (transaction (importing now stored) >>= fun _ => pure stored) { store with nextId := next } :=
      Operation.bind_of_ok outcome
    have steady : Steady (importing now stored) :=
      (steady_execute _ _).bind fun _ => steady_executeEach _ _ _
    have stays := (steady_transaction steady { store with nextId := next }).isClosed
    have settledFindings : FindingsCommitted { store with nextId := next } := committed
    obtain ⟨rows, found, sources, all, nothing, closed⟩ := importing_writes settledFindings now stored
    have foreign : ∀ row ∈ rows, row.analysis ≠ other := by
      intro row member same
      obtain ⟨finding, among, made⟩ := sources row member
      apply different
      rw [← same, (findingRow_ok made).2]
      exact own finding among
    have taken := rowsOf_replaceAll foreign store.visible
    rw [begun, bind_pure_run]
    refine ⟨rows.map StoredFinding.id, ?_, ?_, ?_, stays, ?_⟩
    · intro answered done
      cases result : (transaction (importing now stored) { store with nextId := next }).1 with
      | error fault =>
          rw [result] at done
          cases done
      | ok _ =>
          rw [result] at done
          cases done
          exact keys_eq (all result)
    · intro fault failed outside
      cases result : (transaction (importing now stored) { store with nextId := next }).1 with
      | error cause =>
          rw [nothing cause result outside]
          rfl
      | ok _ =>
          rw [result] at failed
          cases failed
    · intro isClosed
      rw [closed isClosed]
      rfl
    · rw [← taken]
      exact congrArg (List.filter fun row => row.analysis == other) found

/-! ### Answers -/

theorem findingsOf_congr {before after : Image} (same : after.rowsOf analysis = before.rowsOf analysis)
    (severity : Option String) :
    after.findingsOf analysis severity = before.findingsOf analysis severity := by
  have split : ∀ (image : Image) (wanted : StoredFinding → Bool),
      image.findings.filter (fun row => row.analysis == analysis && wanted row) =
        (image.rowsOf analysis).filter wanted := by
    intro image wanted
    unfold Image.rowsOf
    rw [List.filter_filter]
    apply List.filter_congr
    intro row _
    exact Bool.and_comm _ _
  unfold Image.findingsOf
  dsimp only
  rw [split, split, same]

theorem findingsOf_none (analysis : String) (image : Image) :
    image.findingsOf analysis none = (image.rowsOf analysis).mergeSort precedes := by
  unfold Image.findingsOf Image.rowsOf
  simp only [Option.filter_none, Bool.and_true]

theorem findingsOf_length (image : Image) :
    (image.findingsOf analysis none).length = (image.rowsOf analysis).length := by
  rw [findingsOf_none, List.length_mergeSort]

theorem bind_answer {α β : Type} {first : Action Fault α} {next : α → Action Fault β} {one two : Store}
    (same : (first one).1 = (first two).1)
    (blind : ∀ value (one two : Store), (next value one).1 = (next value two).1) :
    ((first >>= next) one).1 = ((first >>= next) two).1 := by
  rcases left : first one with ⟨fault | value, here⟩
  · rcases right : first two with ⟨_, there⟩
    rw [left, right] at same
    cases same
    rw [Operation.bind_of_error left, Operation.bind_of_error right]
  · rcases right : first two with ⟨_, there⟩
    rw [left, right] at same
    cases same
    rw [Operation.bind_of_ok left, Operation.bind_of_ok right]
    exact blind value here there

/-- What is answered about the findings of an analysis rests on its rows alone. -/
theorem findFindings_congr {before after : Store} (closed : after.isClosed = before.isClosed)
    (same : Text.encodeFault? analysis = none →
      after.visible.rowsOf analysis = before.visible.rowsOf analysis)
    (held severity : Option String) :
    (findFindings analysis held severity after).1 = (findFindings analysis held severity before).1 := by
  have found : ∀ refusal others,
      (query refusal (analysis :: others) (Image.findingsOf analysis severity) after).1 =
        (query refusal (analysis :: others) (Image.findingsOf analysis severity) before).1 := by
    intro refusal others
    unfold query
    rw [closed, List.findSome?_cons]
    split
    · rfl
    cases written : Text.encodeFault? analysis with
    | some fault => rfl
    | none =>
        rw [findingsOf_congr (same written)]
        dsimp only
        split
        · rfl
        · rfl
  refine bind_answer (found _ _) ?_
  intro rows one two
  generalize Option.map _ (Option.filter _ held) = pattern
  cases pattern with
  | none => rfl
  | some text =>
      dsimp only
      split
      · rfl
      · rfl

theorem findFindings_of_severity {severity : Option String} (isOpen : store.isClosed = false)
    (written : Text.encodeFault? analysis = none) (graded : ∀ text ∈ severity, Text.encodeFault? text = none) :
    (findFindings analysis none severity store).1 = .ok (store.visible.findingsOf analysis severity) := by
  have named : (analysis :: (severity.filter (· ≠ "")).toList).findSome? Text.encodeFault? = none := by
    rw [List.findSome?_cons, written]
    apply List.findSome?_eq_none_iff.mpr
    intro text member
    exact graded text (Option.mem_filter_iff.mp (Option.mem_toList.mp member)).1
  have asked : query (.failed (.readFindings analysis) .closed) (analysis :: (severity.filter (· ≠ "")).toList)
      (Image.findingsOf analysis severity) store = (.ok (store.visible.findingsOf analysis severity), store) := by
    unfold query
    rw [isOpen, named]
    rfl
  unfold findFindings
  rw [Option.filter_none, Option.map_none, Option.toList_none, List.append_nil]
  exact congrArg Prod.fst (Operation.bind_of_ok asked)

theorem findFindings_all (isOpen : store.isClosed = false) (written : Text.encodeFault? analysis = none) :
    (findFindings analysis none none store).1 = .ok (store.visible.findingsOf analysis none) :=
  findFindings_of_severity isOpen written fun _ none => absurd none (Option.not_mem_none _)

/-- Whether an import into one analysis changes an answer about the findings of another, in every state of a store to
which operations and transactions lead. It changes none if and only if it brings none of their ids. What it brings is the
ids of its findings if it goes well, and nothing if it fails outside of a transaction. -/
theorem addFindings_leaves_iff (store : Store) (analysis other : String) (findings : List Finding)
    (now : String) :
    FindingsCommitted {} ∧ (∀ {α : Type} (call : Service α), KeepsCommitted call.perform) ∧
    (∀ {α : Type} (body : Action Fault α), KeepsCommitted (transaction body)) ∧
    (FindingsCommitted store → other ≠ analysis →
      ∃ imported : List String,
        (∀ stored, (addFindings analysis findings now store).1 = .ok stored →
          imported.map some = stored.map Finding.key?) ∧
        (∀ fault, (addFindings analysis findings now store).1 = .error fault → store.depth = 0 →
          imported = []) ∧
        ((∀ held severity,
          (findFindings other held severity (addFindings analysis findings now store).2).1 =
            (findFindings other held severity store).1) ↔
          (Text.encodeFault? other = none →
            ∀ row ∈ store.visible.findings, row.analysis = other → row.id ∉ imported))) := by
  refine ⟨fun _ _ => rfl, Service.keepsCommitted, keepsCommitted_transaction, ?_⟩
  intro committed different
  obtain ⟨imported, brought, nothing, shut, closed, taken⟩ := addFindings_takes committed different findings now
  refine ⟨imported, brought, nothing, ?_, ?_⟩
  · intro same written row member own
    cases isOpen : store.isClosed with
    | true =>
        rw [shut isOpen]
        exact List.not_mem_nil
    | false =>
        -- An answer without conditions is as long as the rows are many, so none of them was taken.
        have answers := same none none
        rw [findFindings_all isOpen written, findFindings_all (closed.trans isOpen) written] at answers
        have lengths := congrArg List.length (Except.ok.inj answers)
        rw [findingsOf_length, findingsOf_length, taken] at lengths
        have kept := List.length_filter_eq_length_iff.mp lengths
        exact of_decide_eq_true (kept row (List.mem_filter.mpr ⟨member, beq_iff_eq.mpr own⟩))
  · intro spared held severity
    apply findFindings_congr closed
    intro written
    rw [taken]
    apply List.filter_eq_self.mpr
    intro row member
    obtain ⟨listed, own⟩ := List.mem_filter.mp member
    exact decide_eq_true (spared written row listed (beq_iff_eq.mp own))

/-! ### A finding of one analysis -/

def scanned (id : String) : Finding := { severity := .str "high", title := .str "t", id := .str id }

def heldStore : Store := (addFindings "b" [scanned "x"] "" {}).2

/-- An import that brings another id leaves the finding alone. -/
theorem addFindings_leaves_iff_heldStore :
    (findFindings "b" none none heldStore).1.toOption.map List.length = some 1 ∧
      ∀ held severity,
        (findFindings "b" held severity (addFindings "a" [scanned "y"] "" heldStore).2).1 =
          (findFindings "b" held severity heldStore).1 := by
  have committed : FindingsCommitted heldStore := fun _ _ => rfl
  have different : "b" ≠ "a" := by decide
  have stored : (addFindings "a" [scanned "y"] "" heldStore).1 =
      .ok [{ scanned "y" with analysis := "a" }] := rfl
  have keys : [{ scanned "y" with analysis := "a" }].map Finding.key? = [some "y"] := by decide +kernel
  have ids : ∀ row ∈ heldStore.visible.findings, row.id = "x" := by decide +kernel
  refine ⟨by decide +kernel, ?_⟩
  obtain ⟨imported, brought, _, unchanged⟩ :=
    (addFindings_leaves_iff heldStore "a" "b" [scanned "y"] "").2.2.2 committed different
  have only : imported.map some = ["y"].map some := (brought _ stored).trans keys
  have listed : imported = ["y"] := (List.map_inj_right fun _ _ => Option.some.inj).mp only
  apply unchanged.mpr
  intro _ row member _
  rw [listed, ids row member]
  decide

/-- An import that brings the same id takes the finding away. -/
theorem addFindings_takes_same_id :
    (findFindings "b" none none heldStore).1.toOption.map List.length = some 1 ∧
      (findFindings "b" none none (addFindings "a" [scanned "x"] "" heldStore).2).1.toOption.map
        List.length = some 0 := by
  constructor
  · decide +kernel
  · decide +kernel

end Store

end ChangeImpact
