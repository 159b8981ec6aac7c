import ChangeImpact.Proofs.Integrity

/-!
What a failed batch leaves behind. The rows before the refused one are seen at once; the next transaction that goes well
commits them, and the next one that fails takes them away. Only a batch whose first row is refused changes nothing.
-/

set_option autoImplicit false

namespace ChangeImpact.Store

/-! ### Questions -/

/-- An operation whose answer rests on what is seen alone, if the store can be asked at all. -/
def AnswersSeen {α : Type} (action : Action Fault α) : Prop :=
  ∀ one two : Store, one.visible = two.visible → one.isClosed = two.isClosed → (action one).1 = (action two).1

theorem answersSeen_query {α : Type} (refusal : Fault) (parameters : List String) (read : Image → α) :
    AnswersSeen (query refusal parameters read) := by
  intro one two visible isClosed
  unfold query
  rw [visible, isClosed]
  split
  · rfl
  split <;> rfl

theorem AnswersSeen.bind {α β : Type} {first : Action Fault α} {next : α → Action Fault β}
    (asked : AnswersSeen first) (reads : OnlyReads first) (after : ∀ value, AnswersSeen (next value)) :
    AnswersSeen (first >>= next) := by
  intro one two visible isClosed
  have same := asked one two visible isClosed
  have left := reads one
  have right := reads two
  rcases here : first one with ⟨answer, oneAfter⟩
  rcases there : first two with ⟨other, twoAfter⟩
  rw [here] at same left
  rw [there] at same right
  cases same
  cases left
  cases right
  cases answer with
  | error fault => rw [Operation.bind_of_error here, Operation.bind_of_error there]
  | ok value =>
      rw [Operation.bind_of_ok here, Operation.bind_of_ok there]
      exact after value _ _ visible isClosed

theorem answersSeen_fullGraph (analysis : String) : AnswersSeen (fullGraph analysis) := by
  refine (answersSeen_query _ _ _).bind (onlyReads_query _ _ _) fun nodes => ?_
  refine (answersSeen_query _ _ _).bind (onlyReads_query _ _ _) fun edges => ?_
  exact fun _ _ _ _ => rfl

structure ReadsAlike (before after : Store) : Prop where
  nodes : ∀ analysis kind file, (findNodes analysis kind file after).1 = (findNodes analysis kind file before).1
  edges : ∀ analysis kind, (findEdges analysis kind after).1 = (findEdges analysis kind before).1
  graphs : ∀ analysis, (fullGraph analysis after).1 = (fullGraph analysis before).1
  records : (listRecords after).1 = (listRecords before).1

/-- Rows with these ids are neither seen nor committed, whatever happens. -/
def NeverHolds (store : Store) (ids : List String) : Prop :=
  ∀ steps, ∀ id ∈ ids, id ∉ (store.walk steps).visible.rowIds ∧ id ∉ (store.walk steps).committed.rowIds

namespace Batch

variable {batch : Batch} {store after : Store} {fault : Fault}

/-- How many rows of a batch are taken before one is refused. A closed store takes none. -/
def accepted (store : Store) (batch : Batch) : Nat :=
  if store.isClosed then 0 else (batch.progress store).accepted

theorem accepted_le (store : Store) (batch : Batch) : batch.accepted store ≤ batch.size := by
  unfold accepted
  split
  · exact Nat.zero_le _
  · exact batch.progress_accepted_le store

theorem create_error (failed : batch.create store = (.error fault, after)) :
    after = { store with visible := after.visible, nextId := store.nextId + batch.size } ∧
      store.visible.Grows store.nextId (batch.accepted store) after.visible := by
  by_cases empty : batch.size = 0
  · rw [create_run, if_pos empty] at failed
    cases failed
  rcases Bool.eq_false_or_eq_true store.isClosed with closed | isOpen
  · have count : batch.accepted store = 0 := if_pos closed
    rw [create_of_closed closed empty] at failed
    cases failed
    rw [count]
    exact ⟨rfl, Image.grows_zero_iff.mpr rfl⟩
  · cases outcome : (batch.progress store).refusal with
    | none =>
        obtain ⟨ids, created⟩ := create_of_accepted isOpen outcome
        rw [created] at failed
        cases failed
    | some cause =>
        have count : batch.accepted store = (batch.progress store).accepted := by simp [accepted, isOpen]
        rw [create_of_refusal isOpen outcome] at failed
        cases failed
        rw [count]
        exact ⟨rfl, batch.grows store⟩

theorem readsAlike_of_none (failed : batch.create store = (.error fault, after))
    (none : batch.accepted store = 0) : ReadsAlike store after := by
  obtain ⟨same, grown⟩ := create_error failed
  rw [none, Image.grows_zero_iff] at grown
  have isClosed : after.isClosed = store.isClosed := by rw [same]
  constructor
  · exact fun analysis kind file => answersSeen_query _ _ _ _ _ grown isClosed
  · exact fun analysis kind => answersSeen_query _ _ _ _ _ grown isClosed
  · exact fun analysis => answersSeen_fullGraph analysis _ _ grown isClosed
  · exact answersSeen_query _ _ _ _ _ grown isClosed

/-- Ids of a batch of which no row was taken are lost: later rows have later ids. -/
theorem neverHolds_of_none (orderly : Orderly (fun _ => True) store)
    (failed : batch.create store = (.error fault, after)) (none : batch.accepted store = 0) :
    NeverHolds after (idsFrom store.nextId batch.size) := by
  obtain ⟨same, grown⟩ := create_error failed
  rw [none, Image.grows_zero_iff] at grown
  let spared (number : Nat) : Prop := number < store.nextId ∨ store.nextId + batch.size ≤ number
  have keeps : ∀ {image : Image}, image.Orderly (fun _ => True) store.nextId →
      image.Orderly spared (store.nextId + batch.size) := by
    intro image old
    refine ⟨old.toLinked, ?_⟩
    intro id member
    obtain ⟨number, before, _, given⟩ := old.taken id member
    exact ⟨number, by omega, Or.inl before, given⟩
  have start : Orderly spared after := by
    rw [same, grown]
    exact ⟨fun number later => Or.inr later, keeps orderly.visible, keeps orderly.committed⟩
  intro steps id member
  obtain ⟨number, least, most, rfl⟩ := mem_idsFrom.mp member
  have unused : ∀ {image : Image} {next : Nat}, image.Orderly spared next → idText number ∉ image.rowIds := by
    intro image next kept present
    obtain ⟨other, _, given, equal⟩ := kept.taken _ present
    cases idText_injective equal
    rcases given with before | later
    · omega
    · omega
  have later := start.walk steps
  exact ⟨unused later.visible, unused later.committed⟩

theorem mem_rowIds_of_grows {image grown : Image} {first count : Nat} (grows : image.Grows first count grown)
    (some : count ≠ 0) : idText first ∈ grown.rowIds := by
  obtain ⟨nodes, edges, rfl, ids, _⟩ := grows
  have first : idText first ∈ nodes.map Node.id ++ edges.map Edge.id := by
    rw [ids]
    exact mem_idsFrom.mpr ⟨first, by omega, by omega, rfl⟩
  simp only [Image.rowIds, Image.addRows, List.map_append, List.mem_append] at first ⊢
  tauto

theorem none_of_neverHolds (failed : batch.create store = (.error fault, after))
    (never : NeverHolds after (idsFrom store.nextId batch.size)) : batch.accepted store = 0 := by
  by_contra some
  obtain ⟨_, grown⟩ := create_error failed
  have within := batch.accepted_le store
  have own : idText store.nextId ∈ idsFrom store.nextId batch.size :=
    mem_idsFrom.mpr ⟨store.nextId, by omega, by omega, rfl⟩
  exact (never [] _ own).1 (mem_rowIds_of_grows grown some)

/-- A batch that fails outside of a transaction leaves its rows up to the refused one. It changes nothing, now and later,
if and only if there are none of these. Otherwise they wait for the next transaction. -/
theorem create_error_leaves (steps : List StoreStep) (batch : Batch) {fault : Fault} {after : Store}
    (outside : (walk {} steps).depth = 0) (failed : batch.create (walk {} steps) = (.error fault, after)) :
    (walk {} steps).visible.Grows (walk {} steps).nextId (batch.accepted (walk {} steps)) after.visible ∧
    (ReadsAlike (walk {} steps) after ∧
        NeverHolds after (idsFrom (walk {} steps).nextId batch.size) ↔
      batch.accepted (walk {} steps) = 0) ∧
    (after.isClosed = false →
      (after.walk [.enter, .leave]).committed = after.visible ∧
        (after.walk [.enter, .abandon]).visible = (walk {} steps).committed) := by
  have orderly := orderly_initial.walk steps
  generalize walk {} steps = store at outside failed orderly ⊢
  obtain ⟨same, grown⟩ := create_error failed
  refine ⟨grown, ⟨fun unchanged => none_of_neverHolds failed unchanged.2, fun none => ?_⟩, ?_⟩
  · exact ⟨readsAlike_of_none failed none, neverHolds_of_none orderly failed none⟩
  · intro isOpen
    have depth : after.depth = 0 := by
      rw [same]
      exact outside
    have committed : after.committed = store.committed := by rw [same]
    rw [← committed]
    constructor
    · simp [walk, StoreStep.take, enter, Store.leave, commitIfOutside, commit, depth, isOpen]
    · simp [walk, StoreStep.take, enter, Store.abandon, rollback, depth, isOpen]

/-! ### A batch of two edges -/

def oneNode : List StoreStep :=
  [.call (.createNodes [{ analysis := .str "a", kind := .str "module", name := .str "m" }])]

/-- An edge from the node to itself, and one to a node that is not there. -/
def halfGood : Batch :=
  .edges
    [{ analysis := .str "a", source := .str "id-1", target := .str "id-1", kind := .str "calls" },
      { analysis := .str "a", source := .str "id-1", target := .str "id-9", kind := .str "calls" }]

theorem halfGood_fails : (halfGood.create (walk {} oneNode)).1 = .error (.failed .insertEdges .foreignKey) := rfl

theorem create_error_leaves_halfGood :
    (walk {} oneNode).depth = 0 ∧
      halfGood.create (walk {} oneNode) =
        (.error (.failed .insertEdges .foreignKey), (halfGood.create (walk {} oneNode)).2) ∧
      ¬ (ReadsAlike (walk {} oneNode) (halfGood.create (walk {} oneNode)).2 ∧
        NeverHolds (halfGood.create (walk {} oneNode)).2
          (idsFrom (walk {} oneNode).nextId halfGood.size)) := by
  have outside : (walk {} oneNode).depth = 0 := rfl
  have failed : halfGood.create (walk {} oneNode) =
      (.error (.failed .insertEdges .foreignKey), (halfGood.create (walk {} oneNode)).2) :=
    Prod.ext halfGood_fails rfl
  have one : halfGood.accepted (walk {} oneNode) = 1 := rfl
  refine ⟨outside, failed, ?_⟩
  rw [(create_error_leaves oneNode halfGood outside failed).2.1, one]
  exact Nat.one_ne_zero

/-- The first edge is there after the batch failed, and a transaction in which nothing is done commits it. -/
theorem halfGood_leaves_edge :
    (findEdges "a" none (walk {} oneNode)).1.toOption.map List.length = some 0 ∧
      (halfGood.create (walk {} oneNode)).1.isOk = false ∧
      (findEdges "a" none (halfGood.create (walk {} oneNode)).2).1.toOption.map (List.map Edge.id) =
        some ["id-2"] ∧
      (((halfGood.create (walk {} oneNode)).2.walk [.enter, .leave]).committed.edges.map Edge.id) = ["id-2"] := by
  refine ⟨?_, ?_, ?_, ?_⟩
  · decide +kernel
  · decide +kernel
  · decide +kernel
  · decide +kernel

end Batch

end ChangeImpact.Store
