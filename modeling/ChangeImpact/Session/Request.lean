import ChangeImpact.Store.Graphs
import ChangeImpact.Workbench

/-!
What can be asked of a session and what it answers.
-/

set_option autoImplicit false

namespace ChangeImpact.Session

open ChangeImpact.Json (Value)

inductive Feed where
  | absent
  | store
  | broken
  deriving DecidableEq, Repr

inductive Format where
  | dot
  | document
  deriving DecidableEq, Repr

inductive Reading where
  | parsed
  | given (results : List Extraction)

inductive Request where
  | record (analysis path : Value)
  | findRecord (analysis : String)
  | listRecords
  | deleteAnalysis (analysis : String)
  | createNodes (batch : List Store.NodeDraft)
  | createEdges (batch : List Store.EdgeDraft)
  | findNodes (analysis : String) (kind file : Option String)
  | findEdges (analysis : String) (kind : Option String)
  | findNode (id : String)
  | graph (analysis : String)
  | deleteGraph (analysis : String)
  | close
  | addFindings (analysis : String) (findings : List Finding)
  | findFindings (analysis : String) (pattern severity : Option String)
  | useFeed (feed : Feed)
  | load (analysis : String)
  | loaded
  | impact (analysis file : String) (function : Option String) (maxDepth : Int)
  | deadNodes (analysis : String)
  | chain (id : String) (maxDepth : Int)
  | dependents (id : String)
  | dependencies (id : String)
  | named (name : String) (file : Option String)
  | write (files : List (String × Entry))
  | remove (paths : List String)
  | build (options : BuildOptions) (policy : Value) (workers : Int) (reading : Reading)
      (cancel : Cancellation) (graphOnly : Bool)
  | benchBuild (request : BuildRequest) (cancel : Cancellation)
  | benchGraph (analysis : String)
  | benchImpact (analysis file : String) (function : Option String) (maxDepth : Int)
  | benchDeadNodes (analysis : String)
  | benchChain (analysis id : String) (maxDepth : Int)
  | benchNamed (analysis name : String) (file : Option String)
  | export (analysis : String) (format : Format) (focus : String)
  /-- Steps inside a transaction. A step that is caught fails on its own; the transaction may be told
  to fail at its end, and to pass a failure on. -/
  | transaction (steps : List (Bool × Request)) (failsAtEnd passesOn : Bool)
  deriving Inhabited

inductive Fault where
  | core (fault : ChangeImpact.Fault)
  | unknownPolicy (value : Value)
  | rolledBack

def Fault.message : Fault → String
  | .core fault => fault.message
  | .unknownPolicy value => s!"{value.quoted} is not a valid ResolutionPolicy"
  | .rolledBack => "rollback"

inductive Answer where
  | nothing
  | flag (value : Bool)
  | text (value : Option String)
  | texts (values : List String)
  | record (record : Option Store.Record)
  | records (records : List Store.RecordSummary)
  | node (node : Option Node)
  | nodes (nodes : List Node)
  | edges (edges : List Edge)
  | graph (graph : Graph)
  | neighbours (graph : Graph)
  | stored (findings : List Finding)
  | impact (result : Impact.Result)
  | report (report : BuildReport)
  | failed (fault : Fault)
  | transaction (steps : List Answer) (failure : Option Fault)

end ChangeImpact.Session
