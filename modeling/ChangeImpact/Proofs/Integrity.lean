import ChangeImpact.Proofs.Batches
import ChangeImpact.Proofs.FindingScope

/-!
Edges end at nodes and no two nodes share an id, in what is seen and in what is committed, whatever is done to a store
and in whatever order.
-/

set_option autoImplicit false

namespace ChangeImpact.Store

/-! ### Images -/

/-- An image whose nodes have ids of their own and whose edges end at nodes. -/
structure Image.Linked (image : Image) : Prop where
  distinct : (image.nodes.map Node.id).Nodup
  ends : ∀ edge ∈ image.edges, edge.source ∈ image.nodes.map Node.id ∧ edge.target ∈ image.nodes.map Node.id

def Image.rowIds (image : Image) : List String := image.nodes.map Node.id ++ image.edges.map Edge.id

/-- A linked image with ids that were given out before a number; which numbers were given out can be restricted. -/
structure Image.Orderly (given : Nat → Prop) (next : Nat) (image : Image) : Prop extends image.Linked where
  taken : ∀ id ∈ image.rowIds, ∃ number < next, given number ∧ idText number = id

namespace Image

variable {given : Nat → Prop} {next : Nat} {image : Image}

theorem orderly_initial (given : Nat → Prop) (next : Nat) : Orderly given next {} :=
  ⟨⟨List.nodup_nil, List.forall_mem_nil _⟩, List.forall_mem_nil _⟩

theorem Orderly.later (orderly : image.Orderly given next) {more : Nat} (later : next ≤ more) :
    image.Orderly given more := by
  refine ⟨orderly.toLinked, ?_⟩
  intro id member
  obtain ⟨number, before, rest⟩ := orderly.taken id member
  exact ⟨number, by omega, rest⟩

theorem Orderly.of_same (orderly : image.Orderly given next) {other : Image} (nodes : other.nodes = image.nodes)
    (edges : other.edges = image.edges) : other.Orderly given next := by
  refine ⟨⟨?_, ?_⟩, ?_⟩
  · rw [nodes]
    exact orderly.distinct
  · rw [nodes, edges]
    exact orderly.ends
  · rw [rowIds, nodes, edges]
    exact orderly.taken

theorem Orderly.dropEdges (orderly : image.Orderly given next) (analysis : String) :
    (image.dropEdges analysis).Orderly given next := by
  refine ⟨⟨orderly.distinct, ?_⟩, ?_⟩
  · intro edge member
    exact orderly.ends edge (List.mem_filter.mp member).1
  · intro id member
    apply orderly.taken id
    rcases List.mem_append.mp member with node | edge
    · exact List.mem_append_left _ node
    · exact List.mem_append_right _ ((List.filter_sublist.map Edge.id).subset edge)

theorem Orderly.dropNodes (orderly : image.Orderly given next) (analysis : String) :
    (image.dropNodes analysis).Orderly given next := by
  refine ⟨⟨?_, ?_⟩, ?_⟩
  · exact (List.filter_sublist.map Node.id).nodup orderly.distinct
  · intro edge member
    obtain ⟨stored, uncut⟩ := List.mem_filter.mp member
    -- Both ends were there, so an end that is not cut off is still there.
    obtain ⟨source, target⟩ := orderly.ends edge stored
    rw [← hasNode_iff] at source target
    simp only [source, target, Bool.true_and, Bool.not_not, Bool.and_eq_true] at uncut
    exact ⟨hasNode_iff.mp uncut.1, hasNode_iff.mp uncut.2⟩
  · intro id member
    apply orderly.taken id
    rcases List.mem_append.mp member with node | edge
    · exact List.mem_append_left _ ((List.filter_sublist.map Node.id).subset node)
    · exact List.mem_append_right _ ((List.filter_sublist.map Edge.id).subset edge)

/-- New rows keep an image in order if all ids from the next on may be given out. -/
theorem Orderly.grows (orderly : image.Orderly given next) (free : ∀ number, next ≤ number → given number)
    {count size : Nat} (within : count ≤ size) {after : Image} (grown : image.Grows next count after) :
    after.Orderly given (next + size) := by
  obtain ⟨nodes, edges, rfl, ids, ends⟩ := grown
  have fresh : ∀ id ∈ nodes.map Node.id ++ edges.map Edge.id,
      ∃ number, next ≤ number ∧ number < next + count ∧ idText number = id := by
    intro id member
    rw [ids] at member
    exact mem_idsFrom.mp member
  have distinct : (nodes.map Node.id).Nodup := by
    apply List.Nodup.of_append_left
    rw [ids]
    exact idsFrom_nodup next count
  refine ⟨⟨?_, ?_⟩, ?_⟩
  · rw [addRows, List.map_append]
    refine orderly.distinct.append distinct ?_
    intro id old new
    obtain ⟨number, before, _, rfl⟩ := orderly.taken id (List.mem_append_left _ old)
    obtain ⟨other, later, _, same⟩ := fresh _ (List.mem_append_left _ new)
    have := idText_injective same
    omega
  · intro edge member
    rw [addRows, List.map_append]
    rcases List.mem_append.mp member with old | new
    · obtain ⟨source, target⟩ := orderly.ends edge old
      exact ⟨List.mem_append_left _ source, List.mem_append_left _ target⟩
    · obtain ⟨source, target⟩ := ends edge new
      exact ⟨List.mem_append_left _ source, List.mem_append_left _ target⟩
  · intro id member
    have split : id ∈ image.rowIds ∨ id ∈ nodes.map Node.id ++ edges.map Edge.id := by
      simp only [rowIds, addRows, List.map_append, List.mem_append] at member ⊢
      tauto
    rcases split with old | new
    · obtain ⟨number, before, rest⟩ := orderly.taken id old
      exact ⟨number, by omega, rest⟩
    · obtain ⟨number, later, before, same⟩ := fresh id new
      exact ⟨number, by omega, free number later, same⟩

end Image

/-! ### Operations -/

/-- A store in order: both images are, and every id that is still to come may be given out. -/
structure Orderly (given : Nat → Prop) (store : Store) : Prop where
  free : ∀ number, store.nextId ≤ number → given number
  visible : store.visible.Orderly given store.nextId
  committed : store.committed.Orderly given store.nextId

theorem orderly_initial : Orderly (fun _ => True) {} :=
  ⟨fun _ _ => trivial, Image.orderly_initial _ _, Image.orderly_initial _ _⟩

def KeepsOrder {ε α : Type} (action : Action ε α) : Prop :=
  ∀ given store, Orderly given store → Orderly given (action store).2

section

variable {α β : Type} {given : Nat → Prop} {store : Store}

theorem keepsOrder_pure (value : α) : KeepsOrder (pure value : Action Fault α) := fun _ _ orderly => orderly

theorem keepsOrder_of_onlyReads {action : Action Fault α} (reads : OnlyReads action) : KeepsOrder action := by
  intro given store orderly
  rw [reads store]
  exact orderly

theorem KeepsOrder.bind {first : Action Fault α} {next : α → Action Fault β} (one : KeepsOrder first)
    (two : ∀ value, KeepsOrder (next value)) : KeepsOrder (first >>= next) := fun given =>
  Operation.bind_keeps (fun before after => Orderly given before → Orderly given after)
    (fun first second orderly => second (first orderly)) (one given) fun value => two value given

theorem keepsOrder_execute {activity : Activity} {statement : Image → Except Cause Image}
    (keeps : ∀ {given next image changed}, statement image = .ok changed → image.Orderly given next →
      changed.Orderly given next) :
    KeepsOrder (execute activity statement) := by
  intro given store orderly
  rcases outcome : execute activity statement store with ⟨fault | _, after⟩
  · cases execute_error outcome
    exact orderly
  · obtain ⟨image, changed, rfl⟩ := execute_ok outcome
    exact ⟨orderly.free, keeps changed orderly.visible, orderly.committed⟩

theorem keepsOrder_remove {change : Image → Image}
    (keeps : ∀ {given next image}, image.Orderly given next → (change image).Orderly given next)
    (activity : Activity) (analysis : String) : KeepsOrder (remove activity analysis change) := by
  refine keepsOrder_execute ?_
  intro given next image changed done orderly
  obtain ⟨_, _, same⟩ := Outcome.bind_ok done
  cases same
  exact keeps orderly

theorem Orderly.commitIfOutside (orderly : Orderly given store) : Orderly given (commitIfOutside store).2 := by
  unfold Store.commitIfOutside commit
  split
  · split
    · exact orderly
    · exact ⟨orderly.free, orderly.visible, orderly.visible⟩
  · exact orderly

theorem Orderly.enter (orderly : Orderly given store) : Orderly given store.enter :=
  ⟨orderly.free, orderly.visible, orderly.committed⟩

theorem Orderly.leave (orderly : Orderly given store) : Orderly given (leave store).2 := by
  apply Orderly.commitIfOutside
  exact ⟨orderly.free, orderly.visible, orderly.committed⟩

theorem Orderly.abandon (orderly : Orderly given store) : Orderly given (abandon store).2 := by
  unfold Store.abandon rollback
  dsimp only
  split
  · split
    · exact ⟨orderly.free, orderly.visible, orderly.committed⟩
    · exact ⟨orderly.free, orderly.committed, orderly.committed⟩
  · exact ⟨orderly.free, orderly.visible, orderly.committed⟩

theorem Orderly.reopen (orderly : Orderly given store) : Orderly given store.reopen :=
  ⟨orderly.free, orderly.committed, orderly.committed⟩

/-- A transaction is entered, and it is left or abandoned. -/
theorem transaction_ends (body : Action Fault α) (store : Store) :
    (transaction body store).2 = (leave (body store.enter).2).2 ∨
      (transaction body store).2 = (abandon (body store.enter).2).2 := by
  rcases outcome : body store.enter with ⟨fault | value, inner⟩
  · right
    rw [transaction_of_error outcome]
    rcases abandon inner with ⟨_ | _, last⟩ <;> rfl
  · left
    rw [transaction_of_ok outcome]
    rcases leave inner with ⟨_ | _, last⟩ <;> rfl

theorem KeepsOrder.transaction {body : Action Fault α} (keeps : KeepsOrder body) :
    KeepsOrder (transaction body) := by
  intro given store orderly
  have inner := keeps given store.enter orderly.enter
  rcases transaction_ends body store with left | abandoned
  · rw [left]
    exact inner.leave
  · rw [abandoned]
    exact inner.abandon

theorem Batch.keepsOrder_create (batch : Batch) : KeepsOrder batch.create := by
  intro given store orderly
  obtain ⟨count, image, within, grown, ended⟩ := batch.create_writes store
  have written : Orderly given { store with visible := image, nextId := store.nextId + batch.size } := by
    refine ⟨?_, orderly.visible.grows orderly.free within grown, orderly.committed.later (Nat.le_add_right _ _)⟩
    intro number later
    exact orderly.free number (Nat.le_trans (Nat.le_add_right _ _) later)
  rcases ended with same | same
  · rw [same]
    exact written
  · rw [same]
    exact written.commitIfOutside

theorem keepsOrder_deleteGraph (analysis : String) : KeepsOrder (deleteGraph analysis) :=
  KeepsOrder.transaction <|
    (keepsOrder_remove (fun orderly => orderly.dropEdges analysis) _ _).bind fun _ =>
      keepsOrder_remove (fun orderly => orderly.dropNodes analysis) _ _

theorem keepsOrder_deleteAnalysis (analysis : String) : KeepsOrder (deleteAnalysis analysis) := by
  refine KeepsOrder.transaction ((keepsOrder_deleteGraph analysis).bind fun _ => ?_)
  refine (keepsOrder_remove ?_ _ _).bind fun _ => ?_
  · exact fun orderly => orderly.of_same rfl rfl
  refine (keepsOrder_of_onlyReads (onlyReads_query _ _ _)).bind fun known => ?_
  refine (keepsOrder_remove ?_ _ _).bind fun _ => keepsOrder_pure known
  exact fun orderly => orderly.of_same rfl rfl

theorem keepsOrder_recordAnalysis (analysis path : Json.Value) (now : String) :
    KeepsOrder (recordAnalysis analysis path now) := by
  refine (keepsOrder_execute ?_).bind fun _ => fun _ _ orderly => orderly.commitIfOutside
  intro given next image changed done orderly
  obtain ⟨_, _, done⟩ := Outcome.bind_ok done
  obtain ⟨_, _, done⟩ := Outcome.bind_ok done
  obtain ⟨_, _, same⟩ := Outcome.bind_ok done
  cases same
  unfold Image.putRecord
  split
  · exact orderly.of_same rfl rfl
  · exact orderly.of_same rfl rfl

theorem keepsOrder_freshId : KeepsOrder (freshId : Action Fault String) := by
  intro given store orderly
  have later : store.nextId ≤ store.nextId + 1 := Nat.le_succ _
  refine ⟨?_, orderly.visible.later later, orderly.committed.later later⟩
  intro number least
  exact orderly.free number (Nat.le_trans later least)

theorem keepsOrder_identified (analysis : String) (findings : List Finding) :
    KeepsOrder (identified analysis findings) := by
  induction findings with
  | nil => exact keepsOrder_pure []
  | cons finding rest ih =>
      have others : ∀ id, KeepsOrder (do
          let others ← identified analysis rest
          pure ({ finding with id, analysis } :: others) : Action Fault (List Finding)) :=
        fun id => ih.bind fun others => keepsOrder_pure _
      unfold identified
      split
      · dsimp only
        split
        · exact others finding.id
        · exact keepsOrder_freshId.bind fun id => others (.str id)
      · exact fun _ _ orderly => orderly

theorem keepsOrder_insertFindings (now : String) (findings : List Finding) :
    KeepsOrder (executeEach .insertFindings (Image.insertFinding now) findings) := by
  induction findings with
  | nil => exact keepsOrder_pure ()
  | cons finding rest ih =>
      refine (keepsOrder_execute ?_).bind fun _ => ih
      intro given next image changed done orderly
      obtain ⟨_, _, same⟩ := Outcome.bind_ok done
      cases same
      exact orderly.of_same rfl rfl

theorem keepsOrder_addFindings (analysis : String) (findings : List Finding) (now : String) :
    KeepsOrder (addFindings analysis findings now) := by
  refine (keepsOrder_identified analysis findings).bind fun stored => ?_
  refine (KeepsOrder.transaction ?_).bind fun _ => keepsOrder_pure stored
  refine (keepsOrder_execute ?_).bind fun _ => keepsOrder_insertFindings now stored
  intro given next image changed done orderly
  cases done
  exact orderly

theorem Service.keepsOrder (call : Service α) : KeepsOrder call.perform := by
  cases call with
  | createNodes batch => exact (Batch.nodes batch).keepsOrder_create
  | createEdges batch => exact (Batch.edges batch).keepsOrder_create
  | recordAnalysis analysis path now => exact keepsOrder_recordAnalysis analysis path now
  | deleteGraph analysis => exact keepsOrder_deleteGraph analysis
  | deleteAnalysis analysis => exact keepsOrder_deleteAnalysis analysis
  | addFindings analysis findings now => exact keepsOrder_addFindings analysis findings now
  | findNodes analysis kind file => exact keepsOrder_of_onlyReads (onlyReads_query _ _ _)
  | findEdges analysis kind => exact keepsOrder_of_onlyReads (onlyReads_query _ _ _)
  | findNode id => exact keepsOrder_of_onlyReads (onlyReads_query _ _ _)
  | fullGraph analysis => exact keepsOrder_of_onlyReads (onlyReads_fullGraph analysis)
  | findRecord analysis => exact keepsOrder_of_onlyReads (onlyReads_findRecord analysis)
  | listRecords => exact keepsOrder_of_onlyReads (onlyReads_query _ _ _)
  | findFindings analysis held severity =>
      exact keepsOrder_of_onlyReads (onlyReads_findFindings analysis held severity)
  | close => exact fun _ _ orderly => ⟨orderly.free, orderly.visible, orderly.committed⟩

end

/-! ### Runs -/

/-- What may happen to a store. A call may fail, and a transaction may begin and end, well or not, at any point. -/
inductive StoreStep where
  | call {α : Type} (operation : Service α)
  | enter
  | leave
  | abandon
  | reopen

namespace StoreStep

def take (store : Store) : StoreStep → Store
  | .call operation => (operation.perform store).2
  | .enter => store.enter
  | .leave => (Store.leave store).2
  | .abandon => (Store.abandon store).2
  | .reopen => store.reopen

theorem take_orderly {given : Nat → Prop} {store : Store} (orderly : Orderly given store) (step : StoreStep) :
    Orderly given (step.take store) := by
  cases step with
  | call operation => exact operation.keepsOrder given store orderly
  | enter => exact orderly.enter
  | leave => exact orderly.leave
  | abandon => exact orderly.abandon
  | reopen => exact orderly.reopen

end StoreStep

def walk (store : Store) (steps : List StoreStep) : Store := steps.foldl StoreStep.take store

theorem Orderly.walk {given : Nat → Prop} {store : Store} (orderly : Orderly given store) (steps : List StoreStep) :
    Orderly given (store.walk steps) := by
  induction steps generalizing store with
  | nil => exact orderly
  | cons step rest ih => exact ih (StoreStep.take_orderly orderly step)

theorem walk_linked (steps : List StoreStep) :
    (walk {} steps).visible.Linked ∧ (walk {} steps).committed.Linked := by
  have orderly := orderly_initial.walk steps
  exact ⟨orderly.visible.toLinked, orderly.committed.toLinked⟩

end ChangeImpact.Store
