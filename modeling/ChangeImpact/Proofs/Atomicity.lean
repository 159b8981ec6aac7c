import ChangeImpact.Proofs.Script

/-!
Transactions are atomic, however deep they are nested. Inside an open transaction the blocks of a script make no
difference: its instructions are done one after the other, and nothing is committed. The end of the outermost block
alone decides whether what they did is kept.
-/

set_option autoImplicit false

namespace ChangeImpact.Store

variable {α β : Type}

/-! ### Inside a transaction -/

/-- What a script inside a transaction leaves alone. -/
structure Inside (before after : Store) : Prop where
  depth : after.depth = before.depth
  committed : after.committed = before.committed

theorem Inside.refl (store : Store) : Inside store store := ⟨rfl, rfl⟩

theorem Inside.trans {one two three : Store} (first : Inside one two) (second : Inside two three) :
    Inside one three :=
  ⟨second.depth.trans first.depth, second.committed.trans first.committed⟩

theorem Within.inside {before after : Store} (within : Within before after)
    (deep : 0 < before.depth) : Inside before after :=
  ⟨within.depth, within.committed deep⟩

theorem Instruction.perform_inside (instruction : Instruction α) {store : Store} (deep : 0 < store.depth) :
    Inside store (instruction.perform store).2 := by
  cases instruction with
  | execute activity statement => exact (steady_execute activity statement store).inside deep
  | look refusal parameters => exact (steady_query refusal parameters id store).inside deep
  | takeId => exact ⟨rfl, rfl⟩
  | commitIfOutside => exact (steady_commitIfOutside store).inside deep
  | close => exact ⟨rfl, rfl⟩

theorem execute_enter (activity : Activity) (statement : Image → Except Cause Image) (store : Store) :
    execute activity statement store.enter =
      ((execute activity statement store).1, (execute activity statement store).2.enter) := by
  have closed : store.enter.isClosed = store.isClosed := rfl
  have visible : store.enter.visible = store.visible := rfl
  unfold execute
  rw [closed, visible]
  cases store.isClosed with
  | true => rfl
  | false => cases statement store.visible <;> rfl

theorem query_enter (refusal : Fault) (parameters : List String) (read : Image → α) (store : Store) :
    query refusal parameters read store.enter =
      ((query refusal parameters read store).1, (query refusal parameters read store).2.enter) := by
  have closed : store.enter.isClosed = store.isClosed := rfl
  unfold query
  rw [closed]
  cases store.isClosed with
  | true => rfl
  | false => cases parameters.findSome? Text.encodeFault? <;> rfl

theorem commitIfOutside_deep {store : Store} (deep : 0 < store.depth) :
    commitIfOutside store = (.ok (), store) :=
  if_neg (Nat.ne_of_gt deep)

/-- How deep a transaction is makes no difference to a instruction inside it. -/
theorem Instruction.perform_enter (instruction : Instruction α) {store : Store} (deep : 0 < store.depth) :
    instruction.perform store.enter = ((instruction.perform store).1, (instruction.perform store).2.enter) := by
  cases instruction with
  | execute activity statement => exact execute_enter activity statement store
  | look refusal parameters => exact query_enter refusal parameters id store
  | takeId => rfl
  | commitIfOutside =>
      have deeper : 0 < store.enter.depth := Nat.succ_pos store.depth
      change Store.commitIfOutside store.enter = _
      rw [commitIfOutside_deep deeper]
      exact congrArg (fun outcome => (outcome.1, outcome.2.enter)) (commitIfOutside_deep deep).symm
  | close => rfl

namespace Script

theorem plainly_inside (script : Script α) {store : Store} (deep : 0 < store.depth) :
    Inside store (script.plainly store).2 := by
  induction script generalizing store with
  | done value => exact Inside.refl store
  | raise fault => exact Inside.refl store
  | step instruction next ih =>
      have first := instruction.perform_inside deep
      exact first.trans (ih _ (first.depth ▸ deep))
  | block body next ihBody ihNext =>
      have first := ihBody deep
      exact first.trans (ihNext _ (first.depth ▸ deep))

theorem plainly_enter (script : Script α) {store : Store} (deep : 0 < store.depth) :
    script.plainly store.enter = ((script.plainly store).1, (script.plainly store).2.enter) := by
  induction script generalizing store with
  | done value => rfl
  | raise fault => rfl
  | step instruction next ih =>
      have first := instruction.perform_inside deep
      simp only [plainly, instruction.perform_enter deep]
      exact ih _ (first.depth ▸ deep)
  | block body next ihBody ihNext =>
      have first := body.plainly_inside deep
      simp only [plainly, ihBody deep]
      exact ihNext _ (first.depth ▸ deep)

end Script

theorem leave_enter {store : Store} (deep : 0 < store.depth) : leave store.enter = (.ok (), store) :=
  if_neg (Nat.ne_of_gt deep)

theorem abandon_enter {store : Store} (deep : 0 < store.depth) :
    abandon store.enter = (.ok (), store) :=
  if_neg (Nat.ne_of_gt deep)

/-- A transaction inside another is nothing but its operation. -/
theorem transaction_nested {body : Action Fault α} {store after : Store} {reply : Except Fault α}
    (ran : body store.enter = (reply, after.enter)) (deep : 0 < after.depth) :
    transaction body store = (reply, after) := by
  cases reply with
  | error fault => rw [transaction_of_error ran, abandon_enter deep]
  | ok value => rw [transaction_of_ok ran, leave_enter deep]

namespace Script

/-- Inside a transaction the blocks of a script make no difference. -/
theorem run_eq_plainly (script : Script α) {store : Store} (deep : 0 < store.depth) :
    script.run store = script.plainly store := by
  induction script generalizing store with
  | done value => rfl
  | raise fault => rfl
  | step instruction next ih => exact ih _ ((instruction.perform_inside deep).depth ▸ deep)
  | block body next ihBody ihNext =>
      have first := body.plainly_inside deep
      have ended : transaction body.run store = body.plainly store := by
        refine transaction_nested ?_ (first.depth ▸ deep)
        rw [ihBody (Nat.succ_pos store.depth), body.plainly_enter deep]
      simp only [run, plainly, ended]
      exact ihNext _ (first.depth ▸ deep)

theorem run_inside (script : Script α) {store : Store} (deep : 0 < store.depth) :
    Inside store (script.run store).2 := by
  rw [script.run_eq_plainly deep]
  exact script.plainly_inside deep

/-- Nothing is committed at any moment of a run inside a transaction. -/
theorem committed_of_mem_states (script : Script α) {store between : Store} (deep : 0 < store.depth)
    (passed : between ∈ script.states store) : between.committed = store.committed := by
  induction script generalizing store with
  | done value => rw [List.mem_singleton.mp passed]
  | raise fault => rw [List.mem_singleton.mp passed]
  | step instruction next ih =>
      have first := instruction.perform_inside deep
      rcases List.mem_cons.mp passed with rfl | later
      · rfl
      · exact (ih _ (first.depth ▸ deep) later).trans first.committed
  | block body next ihBody ihNext =>
      rcases List.mem_cons.mp passed with rfl | later
      · rfl
      rcases List.mem_append.mp later with inner | after
      · have deeper : 0 < store.enter.depth := Nat.succ_pos store.depth
        have kept := ihBody deeper inner
        exact kept
      · have nested := (Script.block body ofReply).run_inside deep
        rw [run_block] at nested
        exact (ihNext _ (nested.depth ▸ deep) after).trans nested.committed

end Script

/-! ### The outermost transaction -/

/-- What there is to be seen; a closed store shows what is found when it is opened again. -/
def seen (store : Store) : Image := if store.isClosed then store.reopen.visible else store.visible

theorem Settled.seen {store : Store} (settled : Settled store) : store.seen = store.visible := by
  rw [Store.seen, settled.isClosed]
  rfl

section

variable {body : Action Fault α} {store after : Store}

/-- The outermost transaction commits what it did when all went well. -/
theorem transaction_kept {value : α} (ran : body store.enter = (.ok value, after))
    (depth : after.depth = 1) (isOpen : after.isClosed = false) :
    transaction body store =
      (.ok value, { after with depth := 0, committed := after.visible }) := by
  rw [transaction_of_ok ran]
  unfold leave commitIfOutside commit
  simp only [depth, isOpen, Nat.sub_self, if_true, Bool.false_eq_true, if_false]

/-- The outermost transaction goes back when something failed. -/
theorem transaction_undone {fault : Fault} (ran : body store.enter = (.error fault, after))
    (depth : after.depth = 1) (isOpen : after.isClosed = false) :
    transaction body store =
      (.error fault, { after with depth := 0, visible := after.committed }) := by
  rw [transaction_of_error ran]
  unfold abandon rollback
  simp only [depth, isOpen, Nat.sub_self, if_true, Bool.false_eq_true, if_false]

/-- A store that was closed inside the outermost transaction can neither commit nor go back. -/
theorem transaction_lost {reply : Except Fault α} (ran : body store.enter = (reply, after))
    (depth : after.depth = 1) (closed : after.isClosed = true) :
    ∃ fault, transaction body store = (.error fault, { after with depth := 0 }) := by
  cases reply with
  | ok value =>
      refine ⟨.failed .commit .closed, ?_⟩
      rw [transaction_of_ok ran]
      unfold leave commitIfOutside commit
      simp only [depth, closed, Nat.sub_self, if_true]
  | error fault =>
      refine ⟨.closed, ?_⟩
      rw [transaction_of_error ran]
      unfold abandon rollback
      simp only [depth, closed, Nat.sub_self, if_true]

end

/-- How an outermost transaction ends when its instructions, done one after the other, lead to a reply and a store. -/
structure EndsAs (before : Store) (reply : Except Fault α) (after : Store)
    (ended : Except Fault α × Store) : Prop where
  answers : after.isClosed = false → ended.1 = reply
  undone : ∀ fault, ended.1 = .error fault →
    ended.2.committed = before.committed ∧ ended.2.seen = before.committed
  kept : ∀ value, ended.1 = .ok value →
    ended.2.isClosed = false ∧ ended.2.committed = after.visible ∧ ended.2.seen = after.visible
  depth : ended.2.depth = before.depth

theorem Script.transaction_endsAs (script : Script α) {store : Store} (outside : store.depth = 0) :
    EndsAs store (script.plainly store.enter).1 (script.plainly store.enter).2
      (transaction script.run store) := by
  have deep : 0 < store.enter.depth := Nat.succ_pos store.depth
  have inside := script.plainly_inside deep
  have ran := script.run_eq_plainly deep
  generalize script.plainly store.enter = outcome at ran inside ⊢
  obtain ⟨reply, after⟩ := outcome
  have depth : after.depth = 1 := inside.depth.trans (congrArg (· + 1) outside)
  have committed : after.committed = store.committed := inside.committed
  cases closed : after.isClosed with
  | true =>
      obtain ⟨fault, ended⟩ := transaction_lost ran depth closed
      rw [ended]
      refine ⟨fun isOpen => ?_, fun _ _ => ⟨committed, ?_⟩, fun _ done => ?_, outside.symm⟩
      · exact absurd (closed.symm.trans isOpen) (by decide)
      · simp only [seen, closed, if_true, reopen, committed]
      · cases done
  | false =>
      cases reply with
      | error fault =>
          rw [transaction_undone ran depth closed]
          refine ⟨fun _ => rfl, fun _ _ => ⟨committed, ?_⟩, fun _ done => ?_, outside.symm⟩
          · simp only [seen, closed, committed, Bool.false_eq_true, if_false]
          · cases done
      | ok value =>
          rw [transaction_kept ran depth closed]
          refine ⟨fun _ => rfl, fun _ failed => ?_, fun _ _ => ⟨closed, rfl, ?_⟩, outside.symm⟩
          · cases failed
          · simp only [seen, closed, Bool.false_eq_true, if_false]

theorem EndsAs.settled {before after : Store} {reply : Except Fault α} {ended : Except Fault α × Store}
    (ends : EndsAs before reply after ended) (outside : before.depth = 0) {value : α}
    (done : ended.1 = .ok value) : Settled ended.2 := by
  obtain ⟨isOpen, committed, shown⟩ := ends.kept value done
  refine ⟨ends.depth.trans outside, isOpen, committed.trans ?_⟩
  rw [← shown, seen, isOpen]
  rfl

/-- Every call of the store is a script, and every script is atomic in a transaction that begins outside of all others:
nothing is committed at any moment before its end, a failure leaves what was committed before, and else all that was
done is committed, whatever blocks it was done in. Each time the depth is as before. -/
theorem transactions_atomic :
    (∀ {β : Type} (call : Service β), IsScript call.perform) ∧
    ∀ {α : Type} (script : Script α) (store : Store), store.depth = 0 →
      (∀ between ∈ script.states store.enter, between.committed = store.committed) ∧
      EndsAs store (script.plainly store.enter).1 (script.plainly store.enter).2
        (transaction script.run store) := by
  refine ⟨fun call => call.isScript, fun script store outside => ⟨?_, ?_⟩⟩
  · intro between passed
    have deep : 0 < store.enter.depth := Nat.succ_pos store.depth
    have kept := script.committed_of_mem_states deep passed
    exact kept
  · exact script.transaction_endsAs outside

def addModule (id name : String) : Instruction Unit :=
  .execute .insertNodes (Image.insertNode (id, { analysis := .str "a", kind := .str "module", name := .str name }))

/-- A node is added, another one in a block that then fails, and the failure is caught. -/
def caughtScript : Script Unit :=
  .step (addModule "one" "x.py") fun _ =>
    .block (.step (addModule "two" "y.py") fun _ => .raise (.unknownSeverity "" "") : Script Unit) fun _ =>
      .done ()

def failingScript : Script Unit :=
  .step (addModule "one" "x.py") fun _ =>
    .block (.step (addModule "two" "y.py") fun _ => .raise (.unknownSeverity "" "") : Script Unit) .ofReply

theorem transactions_atomic_caught :
    ((transaction caughtScript.run {}).1 = .ok () ∧
      (transaction caughtScript.run {}).2.committed.nodes.map Node.name = ["x.py", "y.py"] ∧
      (transaction caughtScript.run {}).2.depth = 0) ∧
    (failingScript.plainly ({} : Store).enter).2.visible.nodes.length = 2 ∧
      (transaction failingScript.run {}).1 = .error (.unknownSeverity "" "") ∧
      (transaction failingScript.run {}).2.seen.nodes.length = 0 ∧
      (transaction failingScript.run {}).2.depth = 0 := by
  constructor
  · obtain ⟨_, ends⟩ := transactions_atomic.2 caughtScript {} rfl
    have isOpen : (caughtScript.plainly ({} : Store).enter).2.isClosed = false := by decide +kernel
    have done : (caughtScript.plainly ({} : Store).enter).1 = .ok () := by decide +kernel
    have answered := (ends.answers isOpen).trans done
    refine ⟨answered, ?_, ends.depth⟩
    rw [(ends.kept () answered).2.1]
    decide +kernel
  · obtain ⟨_, ends⟩ := transactions_atomic.2 failingScript {} rfl
    have isOpen : (failingScript.plainly ({} : Store).enter).2.isClosed = false := by decide +kernel
    have failed : (failingScript.plainly ({} : Store).enter).1 = .error (.unknownSeverity "" "") := by
      decide +kernel
    have answered := (ends.answers isOpen).trans failed
    refine ⟨by decide +kernel, answered, ?_, ends.depth⟩
    rw [(ends.undone _ answered).2]
    rfl

end ChangeImpact.Store
