import ChangeImpact.Finding
import ChangeImpact.Graph.Basic
import ChangeImpact.Store.Cell

/-!
The store: four tables, of which there is what all readers of the store see and what has been committed.
Statements change what is seen. A transaction counts how deep it is nested: only the outermost one commits,
or goes back to what was committed.
-/

set_option autoImplicit false

namespace ChangeImpact

open ChangeImpact.Json (Value)

namespace Store

structure Record where
  id : Option String
  path : String
  createdAt : String
  updatedAt : String
  deriving DecidableEq, Repr

structure StoredFinding where
  id : String
  analysis : String
  scanner : String
  severity : String
  title : String
  description : Option String
  file : Option String
  line : Value
  ruleId : Option String
  createdAt : String

/-- The rows of the tables, in the order of insertion. -/
structure Image where
  records : List Record := []
  nodes : List Node := []
  edges : List Edge := []
  findings : List StoredFinding := []

/-- What the store was doing when a statement was refused. -/
inductive Activity where
  | insertNodes
  | insertEdges
  | insertFindings
  | readNodes (analysis : String)
  | readEdges (analysis : String)
  | readFindings (analysis : String)
  | record (analysis : String)
  | deleteAnalysis (analysis : String)
  | deleteGraph (analysis : String)
  | commit
  deriving DecidableEq, Repr

def Activity.failure : Activity → String
  | .insertNodes => "Batch node insert failed"
  | .insertEdges => "Batch edge insert failed"
  | .insertFindings => "Cannot store findings"
  | .readNodes analysis => s!"Cannot read nodes for {analysis}"
  | .readEdges analysis => s!"Cannot read edges for {analysis}"
  | .readFindings analysis => s!"Cannot read findings for {analysis}"
  | .record analysis => s!"Cannot record analysis {analysis}"
  | .deleteAnalysis analysis => s!"Cannot delete analysis {analysis}"
  | .deleteGraph analysis => s!"Cannot delete graph for {analysis}"
  | .commit => "Commit failed"

inductive Fault where
  | failed (activity : Activity) (cause : Cause)
  | closed
  | integerTooLarge
  | unencodable (fault : Text.EncodeFault)
  | unknownSeverity (severity title : String)
  deriving DecidableEq, Repr

def Fault.message : Fault → String
  | .failed activity cause => s!"{activity.failure}: {cause.message}"
  | .closed => Cause.closed.message
  | .integerTooLarge => Cause.integerTooLarge.message
  | .unencodable fault => fault.message
  | .unknownSeverity severity title => s!"Unknown severity '{severity}' for finding '{title}'"

/-- The fault of a refused statement; a number that is too large and a text that cannot be written are
faults of their own. -/
def Fault.during (activity : Activity) : Cause → Fault
  | .integerTooLarge => .integerTooLarge
  | .unencodable fault => .unencodable fault
  | cause => .failed activity cause

end Store

structure Store where
  visible : Store.Image := {}
  committed : Store.Image := {}
  depth : Nat := 0
  isClosed : Bool := false
  nextId : Nat := 1

namespace Store

/-- An operation on the store. What it did before it failed stays done. -/
abbrev Action (ε α : Type) := ExceptT ε (StateM Store) α

def execute (activity : Activity) (statement : Image → Except Cause Image) : Action Fault Unit :=
  fun store =>
    if store.isClosed then (.error (.failed activity .closed), store)
    else
      match statement store.visible with
      | .ok image => (.ok (), { store with visible := image })
      | .error cause => (.error (.during activity cause), store)

def executeEach {α : Type} (activity : Activity) (statement : α → Image → Except Cause Image) :
    List α → Action Fault Unit
  | [] => pure ()
  | item :: rest => do
      execute activity (statement item)
      executeEach activity statement rest

def query {α : Type} (refusal : Fault) (parameters : List String) (read : Image → α) :
    Action Fault α :=
  fun store =>
    if store.isClosed then (.error refusal, store)
    else
      match parameters.findSome? Text.encodeFault? with
      | some fault => (.error (.unencodable fault), store)
      | none => (.ok (read store.visible), store)

def remove (activity : Activity) (analysis : String) (change : Image → Image) : Action Fault Unit :=
  execute activity fun image => do
    Cell.bindTexts [analysis]
    .ok (change image)

def commit : Action Fault Unit := fun store =>
  if store.isClosed then (.error (.failed .commit .closed), store)
  else (.ok (), { store with committed := store.visible })

def rollback : Action Fault Unit := fun store =>
  if store.isClosed then (.error .closed, store)
  else (.ok (), { store with visible := store.committed })

def commitIfOutside : Action Fault Unit := fun store =>
  if store.depth = 0 then commit store else (.ok (), store)

def enter (store : Store) : Store := { store with depth := store.depth + 1 }

def leave : Action Fault Unit := fun store =>
  commitIfOutside { store with depth := store.depth - 1 }

def abandon : Action Fault Unit := fun store =>
  let outside := { store with depth := store.depth - 1 }
  if outside.depth = 0 then rollback outside else (.ok (), outside)

/-- An operation inside a transaction. When going back fails, that is the fault. -/
def transaction {α : Type} (body : Action Fault α) : Action Fault α := fun store =>
  match body store.enter with
  | (.ok value, after) =>
      match leave after with
      | (.ok (), last) => (.ok value, last)
      | (.error fault, last) => (.error fault, last)
  | (.error fault, after) =>
      match abandon after with
      | (.ok (), last) => (.error fault, last)
      | (.error worse, last) => (.error worse, last)

def idText (number : Nat) : String := s!"id-{number}"

def freshId {ε : Type} : Action ε String := fun store =>
  (.ok (idText store.nextId), { store with nextId := store.nextId + 1 })

def numbered {ε α : Type} : List α → Action ε (List (String × α))
  | [] => pure []
  | item :: rest => do
      let id ← freshId
      let others ← numbered rest
      pure ((id, item) :: others)

def close (store : Store) : Store := { store with isClosed := true }

def reopen (store : Store) : Store :=
  { store with visible := store.committed, depth := 0, isClosed := false }

end Store

end ChangeImpact
