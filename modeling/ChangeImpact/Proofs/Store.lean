import ChangeImpact.Proofs.Action
import ChangeImpact.Proofs.Outcome
import ChangeImpact.Store.Basic
import Mathlib.Data.List.Basic

/-!
What operations of the store may change. Inside a transaction nothing is committed, ids are only ever taken, and
every operation leaves the depth as it found it. A transaction that begins outside of all others therefore either
commits what it did or leaves nothing behind but the ids it took.
-/

set_option autoImplicit false

namespace ChangeImpact.Store

variable {ε α β : Type}

/-! ### What stays -/

structure Within (before after : Store) : Prop where
  depth : after.depth = before.depth
  isClosed : after.isClosed = before.isClosed
  committed : 0 < before.depth → after.committed = before.committed
  nextId : before.nextId ≤ after.nextId

theorem Within.refl (store : Store) : Within store store :=
  ⟨rfl, rfl, fun _ => rfl, Nat.le_refl _⟩

theorem Within.trans {one two three : Store} (first : Within one two) (second : Within two three) :
    Within one three where
  depth := second.depth.trans first.depth
  isClosed := second.isClosed.trans first.isClosed
  committed := fun inside =>
    (second.committed (by rw [first.depth]; exact inside)).trans (first.committed inside)
  nextId := Nat.le_trans first.nextId second.nextId

def Steady (action : Action ε α) : Prop := ∀ store, Within store (action store).2

theorem steady_pure (value : α) : Steady (pure value : Action ε α) := Within.refl

theorem Steady.bind {first : Action ε α} {next : α → Action ε β} (one : Steady first)
    (two : ∀ value, Steady (next value)) : Steady (first >>= next) :=
  Operation.bind_keeps Within Within.trans one two

theorem steady_execute (activity : Activity) (statement : Image → Except Cause Image) :
    Steady (execute activity statement) := by
  intro store
  unfold execute
  split
  · exact Within.refl store
  split
  · exact ⟨rfl, rfl, fun _ => rfl, Nat.le_refl _⟩
  · exact Within.refl store

theorem steady_executeEach (activity : Activity) (statement : α → Image → Except Cause Image)
    (items : List α) : Steady (executeEach activity statement items) := by
  induction items with
  | nil => exact steady_pure ()
  | cons item rest ih => exact (steady_execute activity (statement item)).bind fun _ => ih

theorem steady_query (refusal : Fault) (parameters : List String) (read : Image → α) :
    Steady (query refusal parameters read) := by
  intro store
  unfold query
  split
  · exact Within.refl store
  split
  · exact Within.refl store
  · exact Within.refl store

theorem steady_remove (activity : Activity) (analysis : String) (change : Image → Image) :
    Steady (remove activity analysis change) :=
  steady_execute activity _

theorem steady_commitIfOutside : Steady commitIfOutside := by
  intro store
  unfold commitIfOutside
  split
  · rename_i outside
    unfold commit
    split
    · exact Within.refl store
    · exact ⟨rfl, rfl, fun inside => by omega, Nat.le_refl _⟩
  · exact Within.refl store

theorem commitIfOutside_ok {store after : Store} (done : commitIfOutside store = (.ok (), after)) :
    after.visible = store.visible ∧ after.nextId = store.nextId := by
  unfold commitIfOutside commit at done
  split at done
  · split at done
    · cases done
    · cases done
      exact ⟨rfl, rfl⟩
  · cases done
    exact ⟨rfl, rfl⟩

theorem steady_freshId : Steady (freshId : Action ε String) := fun _ =>
  ⟨rfl, rfl, fun _ => rfl, Nat.le_succ _⟩

theorem steady_numbered (items : List α) : Steady (numbered items : Action ε (List (String × α))) := by
  induction items with
  | nil => exact steady_pure []
  | cons item rest ih => exact steady_freshId.bind fun _ => ih.bind fun _ => steady_pure _

/-! ### Transactions -/

/-- What the end of a transaction leaves alone; it is one level less deep. -/
structure StepsOut (before after : Store) : Prop where
  depth : after.depth = before.depth - 1
  isClosed : after.isClosed = before.isClosed
  committed : 1 < before.depth → after.committed = before.committed
  nextId : after.nextId = before.nextId

theorem leave_stepsOut (store : Store) : StepsOut store (leave store).2 := by
  unfold leave commitIfOutside commit
  dsimp only
  split
  · rename_i outside
    split
    · exact ⟨rfl, rfl, fun _ => rfl, rfl⟩
    · exact ⟨rfl, rfl, fun inside => by omega, rfl⟩
  · exact ⟨rfl, rfl, fun _ => rfl, rfl⟩

theorem abandon_stepsOut (store : Store) : StepsOut store (abandon store).2 := by
  unfold abandon rollback
  dsimp only
  split
  · split
    · exact ⟨rfl, rfl, fun _ => rfl, rfl⟩
    · exact ⟨rfl, rfl, fun _ => rfl, rfl⟩
  · exact ⟨rfl, rfl, fun _ => rfl, rfl⟩

theorem transaction_of_ok {body : Action Fault α} {store after : Store} {value : α}
    (done : body store.enter = (.ok value, after)) :
    transaction body store =
      match leave after with
      | (.ok (), last) => (.ok value, last)
      | (.error fault, last) => (.error fault, last) := by
  rcases left : leave after with ⟨fault | _, last⟩
  · simp only [transaction, done, left]
  · simp only [transaction, done, left]

theorem transaction_of_error {body : Action Fault α} {store after : Store} {fault : Fault}
    (failed : body store.enter = (.error fault, after)) :
    transaction body store =
      match abandon after with
      | (.ok (), last) => (.error fault, last)
      | (.error worse, last) => (.error worse, last) := by
  rcases left : abandon after with ⟨worse | _, last⟩
  · simp only [transaction, failed, left]
  · simp only [transaction, failed, left]

/-- What is seen after a transaction that goes well is what its operation left. -/
theorem transaction_ok {body : Action Fault α} {store last : Store} {value : α}
    (done : transaction body store = (.ok value, last)) :
    ∃ after, body store.enter = (.ok value, after) ∧ last.visible = after.visible ∧
      last.nextId = after.nextId := by
  cases outcome : body store.enter with
  | mk answer after =>
      cases answer with
      | error fault =>
          rw [transaction_of_error outcome] at done
          split at done <;> cases done
      | ok result =>
          rw [transaction_of_ok outcome] at done
          split at done
          · rename_i left
            cases done
            obtain ⟨visible, nextId⟩ := commitIfOutside_ok left
            exact ⟨after, rfl, visible, nextId⟩
          · cases done

theorem transaction_stepsOut (body : Action Fault α) (store : Store) :
    StepsOut (body store.enter).2 (transaction body store).2 := by
  cases outcome : body store.enter with
  | mk answer after =>
      cases answer with
      | ok value =>
          rw [transaction_of_ok outcome]
          have ended := leave_stepsOut after
          generalize leave after = ending at ended
          rcases ending with ⟨_ | _, last⟩ <;> exact ended
      | error fault =>
          rw [transaction_of_error outcome]
          have ended := abandon_stepsOut after
          generalize abandon after = ending at ended
          rcases ending with ⟨_ | _, last⟩ <;> exact ended

theorem steady_transaction {body : Action Fault α} (steady : Steady body) :
    Steady (transaction body) := by
  intro store
  have inner := steady store.enter
  have outer := transaction_stepsOut body store
  constructor
  · rw [outer.depth, inner.depth]
    exact Nat.add_sub_cancel store.depth 1
  · exact outer.isClosed.trans inner.isClosed
  · intro inside
    have deep : 1 < (body store.enter).2.depth := by
      rw [inner.depth]
      exact Nat.succ_lt_succ inside
    exact (outer.committed deep).trans (inner.committed (Nat.succ_pos _))
  · rw [outer.nextId]
    exact inner.nextId

/-! ### Between transactions -/

/-- A store at rest: it is open, no transaction is, and all that is seen is committed. -/
structure Settled (store : Store) : Prop where
  depth : store.depth = 0
  isClosed : store.isClosed = false
  committed : store.committed = store.visible

theorem settled_initial : Settled {} := ⟨rfl, rfl, rfl⟩

def holding (store : Store) (image : Image) (next : Nat) : Store :=
  { store with visible := image, committed := image, nextId := next }

theorem Settled.holding {store : Store} (settled : Settled store) (image : Image) (next : Nat) :
    Settled (store.holding image next) :=
  ⟨settled.depth, settled.isClosed, rfl⟩

theorem Settled.holding_self {store : Store} (settled : Settled store) :
    store.holding store.visible store.nextId = store := by
  obtain ⟨_, _, committed⟩ := settled
  cases store
  cases committed
  rfl

/-- A transaction on a store at rest that goes well keeps what it did. -/
theorem Settled.transaction_of_ok {store after : Store} (settled : Settled store)
    {body : Action Fault α} (steady : Steady body) {value : α}
    (done : body store.enter = (.ok value, after)) :
    transaction body store = (.ok value, store.holding after.visible after.nextId) := by
  have kept : Within store.enter after := by
    have inner := steady store.enter
    rwa [done] at inner
  have depth : after.depth = 1 := by
    rw [kept.depth]
    exact congrArg (· + 1) settled.depth
  have isOpen : after.isClosed = false := kept.isClosed.trans settled.isClosed
  rw [Store.transaction_of_ok done]
  unfold leave commitIfOutside commit Store.holding
  simp only [depth, isOpen, settled.depth, settled.isClosed, Nat.sub_self, if_true,
    Bool.false_eq_true, if_false]

/-- A transaction on a store at rest that fails leaves nothing but the ids it took. -/
theorem Settled.transaction_of_error {store after : Store} (settled : Settled store)
    {body : Action Fault α} (steady : Steady body) {fault : Fault}
    (failed : body store.enter = (.error fault, after)) :
    transaction body store = (.error fault, store.holding store.visible after.nextId) := by
  have kept : Within store.enter after := by
    have inner := steady store.enter
    rwa [failed] at inner
  have depth : after.depth = 1 := by
    rw [kept.depth]
    exact congrArg (· + 1) settled.depth
  have isOpen : after.isClosed = false := kept.isClosed.trans settled.isClosed
  have committed : after.committed = store.visible :=
    (kept.committed (Nat.succ_pos _)).trans settled.committed
  rw [Store.transaction_of_error failed]
  unfold abandon rollback Store.holding
  simp only [depth, isOpen, committed, settled.depth, settled.isClosed, Nat.sub_self, if_true,
    Bool.false_eq_true, if_false]

end ChangeImpact.Store
