import ChangeImpact.Proofs.Upkeep
import Mathlib.Tactic.Choose

/-!
Programs that work on a store. A script gives one instruction after the other. What it does next may depend on each
answer and on each failure, so that failures can be caught anywhere, and its blocks are transactions, which may stand
inside each other. All operations of the store are scripts.
-/

set_option autoImplicit false

namespace ChangeImpact.Store

open ChangeImpact.Json (Value)

/-- What a script asks of the store at once; the index is the type of the answer. -/
inductive Instruction : Type → Type where
  | execute (activity : Activity) (statement : Image → Except Cause Image) : Instruction Unit
  | look (refusal : Fault) (parameters : List String) : Instruction Image
  | takeId : Instruction String
  | commitIfOutside : Instruction Unit
  | close : Instruction Unit

def Instruction.perform {α : Type} : Instruction α → Action Fault α
  | .execute activity statement => Store.execute activity statement
  | .look refusal parameters => query refusal parameters id
  | .takeId => freshId
  | .commitIfOutside => Store.commitIfOutside
  | .close => fun store => (.ok (), store.close)

/-- A program on the store. The failure of an instruction or of a block is an answer like any other. -/
inductive Script : Type → Type 1 where
  | done {α : Type} (value : α) : Script α
  | raise {α : Type} (fault : Fault) : Script α
  | step {α β : Type} (instruction : Instruction β) (next : Except Fault β → Script α) : Script α
  | block {α β : Type} (body : Script β) (next : Except Fault β → Script α) : Script α

namespace Script

def run {α : Type} : Script α → Action Fault α
  | .done value => fun store => (.ok value, store)
  | .raise fault => fun store => (.error fault, store)
  | .step instruction next => fun store =>
      (next (instruction.perform store).1).run (instruction.perform store).2
  | .block body next => fun store =>
      (next (transaction body.run store).1).run (transaction body.run store).2

/-- The instructions one after the other, as if the blocks were not there. -/
def plainly {α : Type} : Script α → Action Fault α
  | .done value => fun store => (.ok value, store)
  | .raise fault => fun store => (.error fault, store)
  | .step instruction next => fun store =>
      (next (instruction.perform store).1).plainly (instruction.perform store).2
  | .block body next => fun store =>
      (next (body.plainly store).1).plainly (body.plainly store).2

/-- The states that a run passes through, those inside its blocks among them. -/
def states {α : Type} : Script α → Store → List Store
  | .done _, store => [store]
  | .raise _, store => [store]
  | .step instruction next, store =>
      store :: (next (instruction.perform store).1).states (instruction.perform store).2
  | .block body next, store =>
      store :: (body.states store.enter ++
        (next (transaction body.run store).1).states (transaction body.run store).2)

/-! ### Scripts one after the other -/

def ofReply {α : Type} : Except Fault α → Script α
  | .ok value => .done value
  | .error fault => .raise fault

def follow {α β : Type} : Script β → (Except Fault β → Script α) → Script α
  | .done value, next => next (.ok value)
  | .raise fault, next => next (.error fault)
  | .step instruction rest, next => .step instruction fun reply => (rest reply).follow next
  | .block body rest, next => .block body fun reply => (rest reply).follow next

def andThen {α β : Type} (first : Script β) (next : β → Script α) : Script α :=
  first.follow fun reply =>
    match reply with
    | .ok value => next value
    | .error fault => .raise fault

theorem run_follow {α β : Type} (first : Script β) (next : Except Fault β → Script α)
    (store : Store) :
    (first.follow next).run store = (next (first.run store).1).run (first.run store).2 := by
  induction first generalizing store with
  | done value => rfl
  | raise fault => rfl
  | step instruction rest ih => exact ih _ next _
  | block body rest _ ih => exact ih _ next _

theorem run_andThen {α β : Type} (first : Script β) (next : β → Script α) :
    (first.andThen next).run = first.run >>= fun value => (next value).run := by
  funext store
  rw [andThen, run_follow]
  rcases outcome : first.run store with ⟨fault | value, after⟩
  · rw [Operation.bind_of_error outcome]
    rfl
  · rw [Operation.bind_of_ok outcome]

theorem run_ask {α : Type} (instruction : Instruction α) :
    (Script.step instruction ofReply).run = instruction.perform := by
  funext store
  rcases outcome : instruction.perform store with ⟨fault | value, after⟩
  · simp only [run, outcome, ofReply]
  · simp only [run, outcome, ofReply]

theorem run_block {α : Type} (body : Script α) :
    (Script.block body ofReply).run = transaction body.run := by
  funext store
  rcases outcome : transaction body.run store with ⟨fault | value, after⟩
  · simp only [run, outcome, ofReply]
  · simp only [run, outcome, ofReply]

end Script

/-! ### Operations as scripts -/

def IsScript {α : Type} (action : Action Fault α) : Prop := ∃ script : Script α, script.run = action

section

variable {α β : Type}

theorem isScript_pure (value : α) : IsScript (pure value) := ⟨.done value, rfl⟩

theorem isScript_throw (fault : Fault) : IsScript (throw fault : Action Fault α) :=
  ⟨.raise fault, rfl⟩

theorem IsScript.bind {first : Action Fault β} {next : β → Action Fault α} (one : IsScript first)
    (two : ∀ value, IsScript (next value)) : IsScript (first >>= next) := by
  obtain ⟨script, rfl⟩ := one
  choose scripts performed using two
  refine ⟨script.andThen scripts, ?_⟩
  rw [Script.run_andThen]
  simp only [performed]

theorem IsScript.transaction {body : Action Fault α} (performed : IsScript body) :
    IsScript (transaction body) := by
  obtain ⟨script, rfl⟩ := performed
  exact ⟨.block script .ofReply, Script.run_block script⟩

theorem isScript_execute (activity : Activity) (statement : Image → Except Cause Image) :
    IsScript (execute activity statement) :=
  ⟨_, Script.run_ask (.execute activity statement)⟩

theorem isScript_commitIfOutside : IsScript commitIfOutside :=
  ⟨_, Script.run_ask .commitIfOutside⟩

theorem isScript_freshId : IsScript (freshId : Action Fault String) :=
  ⟨_, Script.run_ask .takeId⟩

theorem query_eq_look (refusal : Fault) (parameters : List String) (read : Image → α) :
    query refusal parameters read =
      query refusal parameters id >>= fun image => pure (read image) := by
  funext store
  have mapped : query refusal parameters read store =
      ((query refusal parameters id store).1.map read, (query refusal parameters id store).2) := by
    unfold query
    split
    · rfl
    split <;> rfl
  rcases outcome : query refusal parameters id store with ⟨fault | image, after⟩
  · rw [mapped, outcome, Operation.bind_of_error outcome]
    rfl
  · rw [mapped, outcome, Operation.bind_of_ok outcome]
    rfl

theorem isScript_query (refusal : Fault) (parameters : List String) (read : Image → α) :
    IsScript (query refusal parameters read) := by
  have looked : IsScript (query refusal parameters id) :=
    ⟨_, Script.run_ask (.look refusal parameters)⟩
  rw [query_eq_look]
  exact looked.bind fun image => isScript_pure (read image)

theorem isScript_executeEach (activity : Activity) (statement : α → Image → Except Cause Image)
    (items : List α) : IsScript (executeEach activity statement items) := by
  induction items with
  | nil => exact isScript_pure ()
  | cons item rest ih => exact (isScript_execute activity (statement item)).bind fun _ => ih

theorem isScript_remove (activity : Activity) (analysis : String) (change : Image → Image) :
    IsScript (remove activity analysis change) :=
  isScript_execute activity _

theorem isScript_numbered (items : List α) :
    IsScript (numbered items : Action Fault (List (String × α))) := by
  induction items with
  | nil => exact isScript_pure []
  | cons item rest ih => exact isScript_freshId.bind fun _ => ih.bind fun _ => isScript_pure _

end

theorem isScript_createNodes (batch : List NodeDraft) : IsScript (createNodes batch) := by
  refine (isScript_numbered batch).bind fun items => ?_
  split
  · exact isScript_pure []
  · exact (isScript_executeEach _ _ items).bind fun _ =>
      isScript_commitIfOutside.bind fun _ => isScript_pure _

theorem isScript_createEdges (batch : List EdgeDraft) : IsScript (createEdges batch) := by
  refine (isScript_numbered batch).bind fun items => ?_
  split
  · exact isScript_pure []
  · exact (isScript_executeEach _ _ items).bind fun _ =>
      isScript_commitIfOutside.bind fun _ => isScript_pure _

theorem isScript_deleteGraph (analysis : String) : IsScript (deleteGraph analysis) :=
  IsScript.transaction ((isScript_remove _ _ _).bind fun _ => isScript_remove _ _ _)

theorem isScript_deleteAnalysis (analysis : String) : IsScript (deleteAnalysis analysis) :=
  IsScript.transaction <| (isScript_deleteGraph analysis).bind fun _ =>
    (isScript_remove _ _ _).bind fun _ => (isScript_query _ _ _).bind fun _ =>
      (isScript_remove _ _ _).bind fun _ => isScript_pure _

theorem isScript_recordAnalysis (analysis path : Value) (now : String) :
    IsScript (recordAnalysis analysis path now) :=
  (isScript_execute _ _).bind fun _ => isScript_commitIfOutside

theorem isScript_identified (analysis : String) (findings : List Finding) :
    IsScript (identified analysis findings) := by
  induction findings with
  | nil => exact isScript_pure []
  | cons finding rest ih =>
      have others : ∀ id, IsScript (do
          let others ← identified analysis rest
          pure ({ finding with id, analysis } :: others) : Action Fault (List Finding)) :=
        fun id => ih.bind fun others => isScript_pure _
      unfold identified
      split
      · dsimp only
        split
        · exact (isScript_pure finding.id).bind others
        · exact isScript_freshId.bind fun id => (isScript_pure (Value.str id)).bind others
      · exact isScript_throw _

theorem isScript_addFindings (analysis : String) (findings : List Finding) (now : String) :
    IsScript (addFindings analysis findings now) :=
  (isScript_identified analysis findings).bind fun stored =>
    (IsScript.transaction ((isScript_execute _ _).bind fun _ => isScript_executeEach _ _ stored)).bind
      fun _ => isScript_pure stored

theorem isScript_findFindings (analysis : String) (held severity : Option String) :
    IsScript (findFindings analysis held severity) := by
  refine (isScript_query _ _ _).bind fun rows => ?_
  split
  · exact isScript_pure rows
  split
  · exact isScript_throw _
  · exact isScript_pure _

inductive Service : Type → Type where
  | createNodes (batch : List NodeDraft) : Service (List String)
  | createEdges (batch : List EdgeDraft) : Service (List String)
  | recordAnalysis (analysis path : Value) (now : String) : Service Unit
  | deleteGraph (analysis : String) : Service Unit
  | deleteAnalysis (analysis : String) : Service Bool
  | addFindings (analysis : String) (findings : List Finding) (now : String) : Service (List Finding)
  | findNodes (analysis : String) (kind file : Option String) : Service (List Node)
  | findEdges (analysis : String) (kind : Option String) : Service (List Edge)
  | findNode (id : String) : Service (Option Node)
  | fullGraph (analysis : String) : Service Graph
  | findRecord (analysis : String) : Service (Option Record)
  | listRecords : Service (List RecordSummary)
  | findFindings (analysis : String) (held severity : Option String) : Service (List StoredFinding)
  | close : Service Unit

def Service.perform {α : Type} : Service α → Action Fault α
  | .createNodes batch => Store.createNodes batch
  | .createEdges batch => Store.createEdges batch
  | .recordAnalysis analysis path now => Store.recordAnalysis analysis path now
  | .deleteGraph analysis => Store.deleteGraph analysis
  | .deleteAnalysis analysis => Store.deleteAnalysis analysis
  | .addFindings analysis findings now => Store.addFindings analysis findings now
  | .findNodes analysis kind file => Store.findNodes analysis kind file
  | .findEdges analysis kind => Store.findEdges analysis kind
  | .findNode id => Store.findNode id
  | .fullGraph analysis => Store.fullGraph analysis
  | .findRecord analysis => Store.findRecord analysis
  | .listRecords => Store.listRecords
  | .findFindings analysis held severity => Store.findFindings analysis held severity
  | .close => fun store => (.ok (), store.close)

theorem Service.isScript {α : Type} (call : Service α) : IsScript call.perform := by
  cases call with
  | createNodes batch => exact isScript_createNodes batch
  | createEdges batch => exact isScript_createEdges batch
  | recordAnalysis analysis path now => exact isScript_recordAnalysis analysis path now
  | deleteGraph analysis => exact isScript_deleteGraph analysis
  | deleteAnalysis analysis => exact isScript_deleteAnalysis analysis
  | addFindings analysis findings now => exact isScript_addFindings analysis findings now
  | findNodes analysis kind file =>
      unfold perform Store.findNodes
      exact isScript_query _ _ _
  | findEdges analysis kind =>
      unfold perform Store.findEdges
      exact isScript_query _ _ _
  | findNode id =>
      unfold perform Store.findNode
      exact isScript_query _ _ _
  | fullGraph analysis =>
      exact (isScript_query _ _ _).bind fun _ => (isScript_query _ _ _).bind fun _ => isScript_pure _
  | findRecord analysis =>
      unfold perform Store.findRecord
      exact isScript_query _ _ _
  | listRecords =>
      unfold perform Store.listRecords
      exact isScript_query _ _ _
  | findFindings analysis held severity => exact isScript_findFindings analysis held severity
  | close => exact ⟨_, Script.run_ask .close⟩

end ChangeImpact.Store
