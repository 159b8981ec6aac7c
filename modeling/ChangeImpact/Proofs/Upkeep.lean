import ChangeImpact.Proofs.StoredRows
import ChangeImpact.Store.Findings

/-!
What questions, deletions, records and findings do to a store at rest: it stays at rest, and either all of what was
asked is done or the tables are as before.
-/

set_option autoImplicit false

namespace ChangeImpact.Store

variable {α : Type}

/-! ### Questions -/

def OnlyReads {ε : Type} (action : Action ε α) : Prop := ∀ store, (action store).2 = store

theorem OnlyReads.bind {ε β : Type} {first : Action ε α} {next : α → Action ε β}
    (one : OnlyReads first) (two : ∀ value, OnlyReads (next value)) : OnlyReads (first >>= next) :=
  Operation.bind_keeps (fun before after => after = before) (fun one two => two.trans one) one two

theorem onlyReads_query (refusal : Fault) (parameters : List String) (read : Image → α) :
    OnlyReads (query refusal parameters read) := by
  intro store
  unfold query
  split
  · rfl
  split <;> rfl

theorem query_ok {refusal : Fault} {parameters : List String} {read : Image → α}
    {store after : Store} {value : α}
    (done : query refusal parameters read store = (.ok value, after)) :
    value = read store.visible ∧ after = store ∧
      parameters.findSome? Text.encodeFault? = none := by
  unfold query at done
  split at done
  · cases done
  split at done
  · cases done
  · rename_i written
    cases done
    exact ⟨rfl, rfl, written⟩

theorem Settled.query_run {store : Store} (settled : Settled store) {refusal : Fault}
    {parameters : List String} {read : Image → α}
    (written : parameters.findSome? Text.encodeFault? = none) :
    query refusal parameters read store = (.ok (read store.visible), store) := by
  unfold query
  rw [settled.isClosed, written]
  rfl

def Image.graphOf (analysis : String) (image : Image) : Graph :=
  { analysis, nodes := image.nodesOf analysis, edges := image.edgesOf analysis }

theorem fullGraph_ok {analysis : String} {store after : Store} {graph : Graph}
    (done : fullGraph analysis store = (.ok graph, after)) :
    graph = store.visible.graphOf analysis ∧ after = store ∧
      [analysis].findSome? Text.encodeFault? = none := by
  obtain ⟨nodes, one, foundNodes, remaining⟩ := Operation.bind_ok done
  obtain ⟨edges, two, foundEdges, same⟩ := Operation.bind_ok remaining
  obtain ⟨rfl, rfl, written⟩ := query_ok foundNodes
  obtain ⟨rfl, rfl, _⟩ := query_ok foundEdges
  cases same
  refine ⟨?_, rfl, written⟩
  simp [Image.graphOf, asks]

theorem Settled.fullGraph_run {store : Store} (settled : Settled store) {analysis : String}
    (written : [analysis].findSome? Text.encodeFault? = none) :
    fullGraph analysis store = (.ok (store.visible.graphOf analysis), store) := by
  have nodes : findNodes analysis none none store = (.ok _, store) := settled.query_run written
  have edges : findEdges analysis none store = (.ok _, store) := settled.query_run written
  unfold fullGraph
  rw [Operation.bind_of_ok nodes, Operation.bind_of_ok edges]
  simp only [Image.graphOf, asks, Bool.and_self, List.filter_true]
  rfl

theorem onlyReads_fullGraph (analysis : String) : OnlyReads (fullGraph analysis) :=
  (onlyReads_query _ _ _).bind fun _ => (onlyReads_query _ _ _).bind fun _ => fun _ => rfl

theorem onlyReads_findRecord (analysis : String) : OnlyReads (findRecord analysis) :=
  onlyReads_query _ _ _

/-! ### All or nothing -/

/-- How an operation on a store at rest ends: the store is at rest again, and unless all went well its tables are
as before. -/
def Ends {ε : Type} (store : Store) (outcome : Except ε α × Store) : Prop :=
  ∃ image next, store.nextId ≤ next ∧ outcome.2 = store.holding image next ∧
    ∀ fault, outcome.1 = .error fault → image = store.visible

section

variable {ε : Type} {store after : Store}

theorem Ends.settled (settled : Settled store) {outcome : Except ε α × Store}
    (ends : Ends store outcome) : Settled outcome.2 := by
  obtain ⟨image, next, _, same, _⟩ := ends
  rw [same]
  exact settled.holding image next

theorem Ends.of_ok {value : α} (ends : Ends store ((.ok value, after) : Except ε α × Store)) :
    after = store.holding after.visible after.nextId ∧ store.nextId ≤ after.nextId := by
  obtain ⟨image, next, later, same, _⟩ := ends
  cases same
  exact ⟨rfl, later⟩

theorem Ends.of_error {fault : ε} (ends : Ends store ((.error fault, after) : Except ε α × Store)) :
    ∃ next, store.nextId ≤ next ∧ after = store.holding store.visible next := by
  obtain ⟨image, next, later, same, unchanged⟩ := ends
  cases unchanged fault rfl
  exact ⟨next, later, same⟩

theorem Settled.ends_unchanged (settled : Settled store) (result : Except ε α) :
    Ends store (result, store) :=
  ⟨store.visible, store.nextId, Nat.le_refl _, settled.holding_self.symm, fun _ _ => rfl⟩

theorem Settled.ends_transaction (settled : Settled store) {body : Action Fault α}
    (steady : Steady body) : Ends store (transaction body store) := by
  have kept := steady store.enter
  cases outcome : body store.enter with
  | mk answer after =>
      rw [outcome] at kept
      cases answer with
      | ok value =>
          rw [settled.transaction_of_ok steady outcome]
          exact ⟨_, _, kept.nextId, rfl, fun _ failed => by cases failed⟩
      | error fault =>
          rw [settled.transaction_of_error steady outcome]
          exact ⟨_, _, kept.nextId, rfl, fun _ _ => rfl⟩

end

/-! ### Deletions -/

def Image.without (analysis : String) (image : Image) : Image :=
  (image.dropEdges analysis).dropNodes analysis

def Image.forget (analysis : String) (image : Image) : Image :=
  { image.without analysis with
    findings := image.findings.filter fun found => found.analysis ≠ analysis
    records := image.records.filter fun record => record.id ≠ some analysis }

theorem Image.nodesOf_without (analysis : String) (image : Image) :
    (image.without analysis).nodesOf analysis = [] := by
  unfold Image.without Image.dropNodes Image.nodesOf
  dsimp only
  rw [List.filter_filter, List.filter_eq_nil_iff]
  intro node _ kept
  simp at kept

theorem Image.edgesOf_without (analysis : String) (image : Image) :
    (image.without analysis).edgesOf analysis = [] := by
  unfold Image.without Image.dropNodes Image.dropEdges Image.edgesOf
  dsimp only
  rw [List.filter_filter, List.filter_filter, List.filter_eq_nil_iff]
  intro edge _ kept
  simp only [Bool.and_eq_true, beq_iff_eq, decide_eq_true_eq] at kept
  exact kept.2 kept.1.1

theorem Image.graphOf_without_self (analysis : String) (image : Image) :
    (image.without analysis).graphOf analysis = { analysis, nodes := [], edges := [] } := by
  unfold Image.graphOf
  rw [Image.nodesOf_without, Image.edgesOf_without]

theorem remove_ok {activity : Activity} {analysis : String} {change : Image → Image}
    {store after : Store} (done : remove activity analysis change store = (.ok (), after)) :
    after = { store with visible := change store.visible } ∧
      [analysis].findSome? Text.encodeFault? = none := by
  obtain ⟨image, changed, rfl⟩ := execute_ok done
  obtain ⟨_, bound, same⟩ := Outcome.bind_ok changed
  cases same
  unfold Cell.bindTexts at bound
  split at bound
  · cases bound
  · rename_i written
    exact ⟨rfl, written⟩

theorem deleteGraph_ok {analysis : String} {store after : Store}
    (done : deleteGraph analysis store = (.ok (), after)) :
    after.visible = store.visible.without analysis ∧ after.nextId = store.nextId ∧
      [analysis].findSome? Text.encodeFault? = none := by
  obtain ⟨inner, run, visible, nextId⟩ := transaction_ok done
  obtain ⟨_, between, edges, nodes⟩ := Operation.bind_ok run
  obtain ⟨rfl, written⟩ := remove_ok edges
  obtain ⟨rfl, _⟩ := remove_ok nodes
  exact ⟨visible, nextId, written⟩

theorem steady_deleteGraph (analysis : String) : Steady (deleteGraph analysis) :=
  steady_transaction ((steady_remove _ _ _).bind fun _ => steady_remove _ _ _)

theorem deleteAnalysis_ok {analysis : String} {store after : Store} {known : Bool}
    (done : deleteAnalysis analysis store = (.ok known, after)) :
    after.visible = store.visible.forget analysis ∧ after.nextId = store.nextId := by
  obtain ⟨inner, run, visible, nextId⟩ := transaction_ok done
  obtain ⟨_, one, graph, run⟩ := Operation.bind_ok run
  obtain ⟨_, two, findings, run⟩ := Operation.bind_ok run
  obtain ⟨_, three, asked, run⟩ := Operation.bind_ok run
  obtain ⟨_, four, records, same⟩ := Operation.bind_ok run
  cases same
  obtain ⟨cleared, kept, _⟩ := deleteGraph_ok graph
  obtain ⟨_, rfl, _⟩ := query_ok asked
  obtain ⟨rfl, _⟩ := remove_ok findings
  obtain ⟨rfl, _⟩ := remove_ok records
  rw [visible, nextId]
  dsimp only
  rw [cleared, kept]
  exact ⟨rfl, rfl⟩

/-- An operation that goes well on every open store, which it leaves open. -/
def Succeeds {ε : Type} (action : Action ε α) : Prop :=
  ∀ store : Store, store.isClosed = false →
    ∃ value after, action store = (.ok value, after) ∧ after.isClosed = false

theorem succeeds_pure {ε : Type} (value : α) : Succeeds (pure value : Action ε α) :=
  fun store isOpen => ⟨value, store, rfl, isOpen⟩

theorem Succeeds.bind {ε β : Type} {first : Action ε α} {next : α → Action ε β} (one : Succeeds first)
    (two : ∀ value, Succeeds (next value)) : Succeeds (first >>= next) := by
  intro store isOpen
  obtain ⟨value, between, done, isOpen⟩ := one store isOpen
  rw [Operation.bind_of_ok done]
  exact two value between isOpen

theorem succeeds_commitIfOutside : Succeeds commitIfOutside := by
  intro store isOpen
  unfold commitIfOutside commit
  rw [isOpen]
  split
  · exact ⟨(), _, rfl, rfl⟩
  · exact ⟨(), store, rfl, isOpen⟩

theorem succeeds_leave : Succeeds leave :=
  fun _ isOpen => succeeds_commitIfOutside _ isOpen

theorem Succeeds.transaction {body : Action Fault α} (goes : Succeeds body) :
    Succeeds (transaction body) := by
  intro store isOpen
  obtain ⟨value, after, done, isOpen⟩ := goes store.enter isOpen
  obtain ⟨_, last, left, isOpen⟩ := succeeds_leave after isOpen
  rw [transaction_of_ok done, left]
  exact ⟨value, last, rfl, isOpen⟩

theorem succeeds_query {refusal : Fault} {parameters : List String} {read : Image → α}
    (written : parameters.findSome? Text.encodeFault? = none) :
    Succeeds (query refusal parameters read) := by
  intro store isOpen
  unfold query
  rw [isOpen, written]
  exact ⟨_, store, rfl, isOpen⟩

theorem succeeds_remove {analysis : String} (written : [analysis].findSome? Text.encodeFault? = none)
    (activity : Activity) (change : Image → Image) : Succeeds (remove activity analysis change) := by
  intro store isOpen
  unfold remove execute Cell.bindTexts
  rw [isOpen, written]
  exact ⟨(), _, rfl, rfl⟩

/-- A graph can be deleted whenever the name of its analysis can be written. -/
theorem succeeds_deleteGraph {analysis : String}
    (written : [analysis].findSome? Text.encodeFault? = none) : Succeeds (deleteGraph analysis) :=
  Succeeds.transaction ((succeeds_remove written _ _).bind fun _ => succeeds_remove written _ _)

/-- An analysis can be deleted whenever its name can be written. -/
theorem succeeds_deleteAnalysis {analysis : String}
    (written : [analysis].findSome? Text.encodeFault? = none) : Succeeds (deleteAnalysis analysis) := by
  have removes := succeeds_remove written
  exact Succeeds.transaction <| (succeeds_deleteGraph written).bind fun _ => (removes _ _).bind fun _ =>
    (succeeds_query rfl).bind fun _ => (removes _ _).bind fun _ => succeeds_pure _

theorem Settled.ends_deleteGraph {store : Store} (settled : Settled store) (analysis : String) :
    Ends store (deleteGraph analysis store) :=
  settled.ends_transaction ((steady_remove _ _ _).bind fun _ => steady_remove _ _ _)

theorem Settled.ends_deleteAnalysis {store : Store} (settled : Settled store) (analysis : String) :
    Ends store (deleteAnalysis analysis store) :=
  settled.ends_transaction <| (steady_deleteGraph analysis).bind fun _ =>
    (steady_remove _ _ _).bind fun _ => (steady_query _ _ _).bind fun _ =>
      (steady_remove _ _ _).bind fun _ => steady_pure _

/-! ### Records and findings -/

open ChangeImpact.Json (Value)

/-- One statement that is committed at once. -/
theorem Settled.execute_commit {store : Store} (settled : Settled store) (activity : Activity)
    (statement : Image → Except Cause Image) :
    (do execute activity statement; commitIfOutside : Action Fault Unit) store =
      match statement store.visible with
      | .ok image => (.ok (), store.holding image store.nextId)
      | .error cause => (.error (.during activity cause), store) := by
  have executed : execute activity statement store = match statement store.visible with
      | .ok image => (.ok (), { store with visible := image })
      | .error cause => (.error (.during activity cause), store) := by
    unfold execute
    rw [settled.isClosed]
    rfl
  cases changed : statement store.visible with
  | error cause =>
      rw [changed] at executed
      exact Operation.bind_of_error executed
  | ok image =>
      rw [changed] at executed
      rw [Operation.bind_of_ok executed]
      unfold commitIfOutside commit Store.holding
      simp only [settled.depth, settled.isClosed, if_true, Bool.false_eq_true, if_false]

theorem Settled.ends_recordAnalysis {store : Store} (settled : Settled store) (analysis path : Value)
    (now : String) : Ends store (recordAnalysis analysis path now store) := by
  unfold recordAnalysis
  rw [settled.execute_commit]
  split
  · exact ⟨_, _, Nat.le_refl _, rfl, fun _ failed => by cases failed⟩
  · exact settled.ends_unchanged _

/-- A record that is kept is put among the others under the text of its id. -/
theorem Settled.recordAnalysis_ok {store after : Store} (settled : Settled store)
    {analysis path : Value} {now : String}
    (done : recordAnalysis analysis path now store = (.ok (), after)) :
    ∃ cell record, Cell.bind 1 analysis = .ok cell ∧ record.id = cell.asText ∧
      after = store.holding (store.visible.putRecord record) store.nextId := by
  unfold recordAnalysis at done
  rw [settled.execute_commit] at done
  split at done
  · rename_i image changed
    obtain ⟨cell, bound, changed⟩ := Outcome.bind_ok changed
    obtain ⟨place, _, changed⟩ := Outcome.bind_ok changed
    obtain ⟨text, _, same⟩ := Outcome.bind_ok changed
    cases same
    cases done
    exact ⟨cell, _, bound, rfl, rfl⟩
  · cases done

/-- Nothing is done to graphs, and the store stays at rest if it was. -/
def KeepsGraphs (before after : Store) : Prop :=
  Settled before → Settled after ∧ before.nextId ≤ after.nextId ∧
    after.visible.nodes = before.visible.nodes ∧ after.visible.edges = before.visible.edges

theorem KeepsGraphs.refl (store : Store) : KeepsGraphs store store :=
  fun settled => ⟨settled, Nat.le_refl _, rfl, rfl⟩

theorem KeepsGraphs.trans {one two three : Store} (first : KeepsGraphs one two)
    (second : KeepsGraphs two three) : KeepsGraphs one three := by
  intro settled
  obtain ⟨between, later, nodes, edges⟩ := first settled
  obtain ⟨last, latest, sameNodes, sameEdges⟩ := second between
  exact ⟨last, Nat.le_trans later latest, sameNodes.trans nodes, sameEdges.trans edges⟩

def LeavesGraphs {ε : Type} (action : Action ε α) : Prop := ∀ store, KeepsGraphs store (action store).2

theorem leavesGraphs_pure {ε : Type} (value : α) : LeavesGraphs (pure value : Action ε α) :=
  KeepsGraphs.refl

theorem LeavesGraphs.bind {ε β : Type} {first : Action ε α} {next : α → Action ε β}
    (one : LeavesGraphs first) (two : ∀ value, LeavesGraphs (next value)) :
    LeavesGraphs (first >>= next) :=
  Operation.bind_keeps KeepsGraphs KeepsGraphs.trans one two

theorem leavesGraphs_recordAnalysis (analysis path : Value) (now : String) :
    LeavesGraphs (recordAnalysis analysis path now) := by
  intro store settled
  have ends := settled.ends_recordAnalysis analysis path now
  cases outcome : recordAnalysis analysis path now store with
  | mk answer after =>
      rw [outcome] at ends
      cases answer with
      | error fault =>
          obtain ⟨next, later, rfl⟩ := ends.of_error
          exact ⟨settled.holding _ _, later, rfl, rfl⟩
      | ok _ =>
          obtain ⟨_, record, _, _, rfl⟩ := settled.recordAnalysis_ok outcome
          refine ⟨settled.holding _ _, Nat.le_refl _, ?_⟩
          unfold Store.holding Image.putRecord
          dsimp only
          split <;> exact ⟨rfl, rfl⟩

theorem leavesGraphs_freshId : LeavesGraphs (freshId : Action Fault String) := fun _ settled =>
  ⟨⟨settled.depth, settled.isClosed, settled.committed⟩, Nat.le_succ _, rfl, rfl⟩

theorem leavesGraphs_identified (analysis : String) (findings : List Finding) :
    LeavesGraphs (identified analysis findings) := by
  induction findings with
  | nil => exact leavesGraphs_pure []
  | cons finding rest ih =>
      have others : ∀ id, LeavesGraphs (do
          let others ← identified analysis rest
          pure ({ finding with id, analysis } :: others) : Action Fault (List Finding)) :=
        fun id => ih.bind fun others => leavesGraphs_pure _
      unfold identified
      split
      · dsimp only
        split
        · exact (leavesGraphs_pure finding.id).bind others
        · exact leavesGraphs_freshId.bind fun id => (leavesGraphs_pure (Value.str id)).bind others
      · exact KeepsGraphs.refl

theorem insertFinding_ok {now : String} {finding : Finding} {image changed : Image}
    (done : image.insertFinding now finding = .ok changed) :
    changed.nodes = image.nodes ∧ changed.edges = image.edges := by
  obtain ⟨row, _, same⟩ := Outcome.bind_ok done
  cases same
  exact ⟨rfl, rfl⟩

theorem executeEach_insertFinding {now : String} {items : List Finding} {store after : Store}
    (done : executeEach .insertFindings (Image.insertFinding now) items store = (.ok (), after)) :
    after.visible.nodes = store.visible.nodes ∧ after.visible.edges = store.visible.edges := by
  induction items generalizing store with
  | nil =>
      cases done
      exact ⟨rfl, rfl⟩
  | cons item rest ih =>
      obtain ⟨_, between, first, remaining⟩ := Operation.bind_ok done
      obtain ⟨image, inserted, rfl⟩ := execute_ok first
      obtain ⟨nodes, edges⟩ := insertFinding_ok inserted
      obtain ⟨sameNodes, sameEdges⟩ := ih remaining
      exact ⟨sameNodes.trans nodes, sameEdges.trans edges⟩

theorem leavesGraphs_addFindings (analysis : String) (findings : List Finding) (now : String) :
    LeavesGraphs (addFindings analysis findings now) := by
  refine (leavesGraphs_identified analysis findings).bind fun stored =>
    LeavesGraphs.bind ?_ fun _ => leavesGraphs_pure stored
  intro store settled
  have ends := settled.ends_transaction ((steady_execute .insertFindings .ok).bind fun _ =>
    steady_executeEach .insertFindings (Image.insertFinding now) stored)
  refine ⟨ends.settled settled, ?_⟩
  generalize ran : transaction _ store = outcome at ends ⊢
  rcases outcome with ⟨_ | _, after⟩
  · obtain ⟨next, later, rfl⟩ := ends.of_error
    exact ⟨later, rfl, rfl⟩
  · obtain ⟨inner, body, visible, _⟩ := transaction_ok ran
    obtain ⟨_, between, begun, inserted⟩ := Operation.bind_ok body
    obtain ⟨_, same, rfl⟩ := execute_ok begun
    cases same
    obtain ⟨nodes, edges⟩ := executeEach_insertFinding inserted
    refine ⟨ends.of_ok.2, ?_⟩
    rw [visible]
    exact ⟨nodes, edges⟩

end ChangeImpact.Store
