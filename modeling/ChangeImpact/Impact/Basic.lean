import ChangeImpact.Graph.Adjacency
import ChangeImpact.Impact.Score
import ChangeImpact.Store.Findings

/-!
What a change touches. The dependents of a file are found step by step against the edges; direct ones are one
step away. The same graph answers what nothing depends on and what a declaration leads to.
-/

set_option autoImplicit false

namespace ChangeImpact.Impact

inductive Fault where
  | notLoaded (requested : String)
  | otherLoaded (requested loaded : String)
  | missingNode (id : String)
  | score (fault : ScoreFault)
  deriving DecidableEq, Repr

def Fault.message : Fault → String
  | .notLoaded requested => s!"Graph not loaded. Call load_graph('{requested}') first."
  | .otherLoaded requested loaded =>
      s!"Loaded graph belongs to analysis '{loaded}', not '{requested}'. " ++
        s!"Call load_graph('{requested}') first."
  | .missingNode id => Json.quotedText id
  | .score fault => fault.message

structure Propagation where
  finding : String
  severity : String
  path : List String
  deriving DecidableEq, Repr

structure Result where
  targetFile : String
  targetFunction : Option String
  directFiles : List String := []
  transitiveFiles : List String := []
  affectedFiles : List String := []
  score : Nat := 0
  propagation : List Propagation := []
  directNodes : List String := []
  transitiveNodes : List String := []
  deriving Repr

def defaultDepth : Int := 5

def defaultChainDepth : Int := 10

def targets (graph : Graph) (file : String) (function : Option String) : List String :=
  let ofFile := graph.nodes.filter fun node => node.file? == some file
  let chosen :=
    match function.filter (· ≠ "") with
    | none => ofFile
    | some name => ofFile.filter fun node => node.kind == NodeKind.functionKind && node.name == name
  chosen.map Node.id

def directNodes (graph : Graph) (targets : List String) : List String :=
  fresh targets (targets.flatMap graph.sourcesOf)

/-- The nodes at most so many steps from the direct ones, which wait in the queue first. -/
def transitiveNodes (graph : Graph) (targets direct : List String) (maxDepth : Int) : List String :=
  graph.spread maxDepth (targets ++ direct) (direct.map fun id => (id, 1))

/-- The nodes of ids, all of which must be there. -/
def nodesOf (graph : Graph) : List String → Except Fault (List Node)
  | [] => .ok []
  | id :: rest =>
      match graph.node? id with
      | none => .error (.missingNode id)
      | some node => do .ok (node :: (← nodesOf graph rest))

def filesOf (graph : Graph) (ids leftOut : List String) : Except Fault (List String) := do
  let nodes ← nodesOf graph ids
  let files := distinct (nodes.filterMap Node.file?)
  .ok (Text.sorted (files.filter fun file => !leftOut.contains file))

def propagatingSeverities : List String := ["critical", "high"]

/-- How many files a propagation names after the changed one. -/
def maxPropagationFiles : Nat := 5

def propagation (findings : List Store.StoredFinding) (file : String) (directFiles : List String) :
    List Propagation :=
  let reaches := fun (found : Store.StoredFinding) =>
    propagatingSeverities.contains found.severity && sameFile found.file file
  (findings.filter reaches).map fun found =>
    { finding := found.title
      severity := found.severity
      path := file :: directFiles.take maxPropagationFiles }

def analyze (graph : Graph) (findings : List Store.StoredFinding) (file : String)
    (function : Option String) (maxDepth : Int) : Except Fault Result :=
  let chosen := targets graph file function
  if chosen.isEmpty then .ok { targetFile := file, targetFunction := function }
  else do
    let direct := directNodes graph chosen
    let transitive := transitiveNodes graph chosen direct maxDepth
    let directFiles ← filesOf graph direct [file]
    let transitiveFiles ← filesOf graph transitive (file :: directFiles)
    let percent ←
      (score (Int.ofNat (direct.length + transitive.length)) (Int.ofNat graph.nodes.length)).mapError
        Fault.score
    .ok
      { targetFile := file
        targetFunction := function
        directFiles
        transitiveFiles
        affectedFiles := Text.sorted (distinct (directFiles ++ transitiveFiles))
        score := percent
        propagation := propagation findings file directFiles
        directNodes := direct
        transitiveNodes := transitive }

def lastingKinds : List NodeKind := [.moduleKind, .importKind, .exportKind]

def deadNodes (graph : Graph) : List Node :=
  graph.nodes.filter fun node =>
    !lastingKinds.contains node.kind && !node.isExported && (graph.sourcesOf node.id).isEmpty

def chain (graph : Graph) (id : String) (maxDepth : Int) : List String :=
  ((graph.visits maxDepth [] [(id, 0)]).filterMap graph.node?).map Node.label

def dependents (graph : Graph) (id : String) : Except Fault (List Node) :=
  nodesOf graph (graph.sourcesOf id)

def dependencies (graph : Graph) (id : String) : Except Fault (List Node) :=
  nodesOf graph (graph.targetsOf id)

def named (graph : Graph) (name : String) (file : Option String) : List Node :=
  graph.nodes.filter fun node =>
    node.name == name && (match file with | none => true | some path => node.file == some path)

def require (loaded : Option Graph) (analysis : Option String) : Except Fault Graph :=
  match loaded with
  | none => .error (.notLoaded ((analysis.filter (· ≠ "")).getD "<analysis>"))
  | some graph =>
      match analysis with
      | none => .ok graph
      | some requested =>
          if graph.analysis = requested then .ok graph
          else .error (.otherLoaded requested graph.analysis)

end ChangeImpact.Impact
