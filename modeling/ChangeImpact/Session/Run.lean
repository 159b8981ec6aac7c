import ChangeImpact.Export.Document
import ChangeImpact.Export.Dot
import ChangeImpact.Session.Request

/-!
Running a session: a workspace, a store, an analyzer with its own loaded graph, and a workbench with
another.
-/

set_option autoImplicit false

namespace ChangeImpact

structure Session where
  workspace : Workspace
  store : Store := {}
  settings : Settings := {}
  benchLoaded : Option Graph := none
  loaded : Option Graph := none
  feed : Session.Feed := .store

namespace Session

abbrev Action (α : Type) := ExceptT Fault (StateM Session) α

def storing {α : Type} (action : Store.Action Store.Fault α) : Action α := fun session =>
  let (result, store) := action session.store
  (result.mapError fun fault => .core (.store fault), { session with store })

def building {α : Type} (action : Store.Action ChangeImpact.Fault α) : Action α := fun session =>
  let (result, store) := action session.store
  (result.mapError .core, { session with store })

def atBench {α : Type} (action : Workbench.Action α) : Action α := fun session =>
  let bench : Workbench :=
    { store := session.store, settings := session.settings, loaded := session.benchLoaded }
  let (result, after) := action bench
  (result.mapError .core, { session with store := after.store, benchLoaded := after.loaded })

def asking {α : Type} (question : Session → Except Impact.Fault α) : Action α := fun session =>
  ((question session).mapError fun fault => .core (.impact fault), session)

def aboutGraph {α : Type} (analysis : Option String) (question : Graph → Except Impact.Fault α) :
    Action α :=
  asking fun session => do question (← Impact.require session.loaded analysis)

def findingsAbout (session : Session) (analysis file : String) : List Store.StoredFinding :=
  match session.feed with
  | .store => Workbench.findingsAbout session.store analysis file
  | _ => []

def policyOf (value : Json.Value) : Action Policy :=
  match Settings.policy? value with
  | some policy => pure policy
  | none => throw (.unknownPolicy value)

def extractorOf : Reading → Extractor
  | .parsed => .ofTable .standard
  | .given results => .ofResults .standard results

def Format.write (format : Format) (graph : Graph) (focus : String) : String :=
  match format with
  | .dot => graph.toDot focus
  | .document => graph.toDocument focus

mutual

def run (now : String) : Request → Action Answer
  | .record analysis path => do
      storing (Store.recordAnalysis analysis path now)
      pure .nothing
  | .findRecord analysis => do pure (.record (← storing (Store.findRecord analysis)))
  | .listRecords => do pure (.records (← storing Store.listRecords))
  | .deleteAnalysis analysis => do pure (.flag (← storing (Store.deleteAnalysis analysis)))
  | .createNodes batch => do pure (.texts (← storing (Store.createNodes batch)))
  | .createEdges batch => do pure (.texts (← storing (Store.createEdges batch)))
  | .findNodes analysis kind file => do
      pure (.nodes (← storing (Store.findNodes analysis kind file)))
  | .findEdges analysis kind => do pure (.edges (← storing (Store.findEdges analysis kind)))
  | .findNode id => do pure (.node (← storing (Store.findNode id)))
  | .graph analysis => do pure (.graph (← storing (Store.fullGraph analysis)))
  | .deleteGraph analysis => do
      storing (Store.deleteGraph analysis)
      pure .nothing
  | .close => do
      modify fun session => { session with store := session.store.close }
      pure .nothing
  | .addFindings analysis findings => do
      pure (.stored (← storing (Store.addFindings analysis findings now)))
  | .findFindings analysis pattern severity => do
      let rows ← storing (Store.findFindings analysis pattern severity)
      pure (.stored (rows.map Store.StoredFinding.finding))
  | .useFeed feed => do
      modify fun session => { session with feed, loaded := none }
      pure .nothing
  | .load analysis => do
      let graph ← storing (Store.fullGraph analysis)
      modify fun session => { session with loaded := some graph }
      pure (.neighbours graph)
  | .loaded => do pure (.text ((← get).loaded.map Graph.analysis))
  | .impact analysis file function maxDepth => do
      let findings := findingsAbout (← get) analysis file
      let result ← aboutGraph (some analysis) fun graph =>
        Impact.analyze graph findings file function maxDepth
      pure (.impact result)
  | .deadNodes analysis => do
      let dead ← aboutGraph (some analysis) fun graph => .ok (Impact.deadNodes graph)
      pure (.texts (dead.map Node.id))
  | .chain id maxDepth => do
      pure (.texts (← aboutGraph none fun graph => .ok (Impact.chain graph id maxDepth)))
  | .dependents id => do
      let nodes ← aboutGraph none fun graph => Impact.dependents graph id
      pure (.texts (nodes.map Node.id))
  | .dependencies id => do
      let nodes ← aboutGraph none fun graph => Impact.dependencies graph id
      pure (.texts (nodes.map Node.id))
  | .named name file => do
      let nodes ← aboutGraph none fun graph => .ok (Impact.named graph name file)
      pure (.texts (nodes.map Node.id))
  | .write files => do
      modify fun session =>
        { session with
          workspace := files.foldl (fun workspace file => workspace.put file.1 file.2)
            session.workspace }
      pure .nothing
  | .remove paths => do
      modify fun session => { session with workspace := paths.foldl Workspace.drop session.workspace }
      pure .nothing
  | .build options policy workers reading cancel graphOnly => do
      let policy ← policyOf policy
      let builder : Builder := { extractor := extractorOf reading, policy, workers }
      let workspace := (← get).workspace
      let report ← building (builder.build workspace options cancel)
      pure (if graphOnly then .graph report.graph else .report report)
  | .benchBuild request cancel => do
      let workspace := (← get).workspace
      pure (.report (← atBench (Workbench.build workspace request cancel now)))
  | .benchGraph analysis => do pure (.graph (← atBench (Workbench.graph analysis)))
  | .benchImpact analysis file function maxDepth => do
      pure (.impact (← atBench (Workbench.impact analysis file function maxDepth)))
  | .benchDeadNodes analysis => do
      let dead ← atBench (Workbench.deadNodes analysis)
      pure (.texts (dead.map Node.id))
  | .benchChain analysis id maxDepth => do
      pure (.texts (← atBench (Workbench.chain analysis id maxDepth)))
  | .benchNamed analysis name file => do
      let nodes ← atBench (Workbench.named analysis name file)
      pure (.texts (nodes.map Node.id))
  | .export analysis format focus => do
      let graph ← storing (Store.fullGraph analysis)
      pure (.text (some (format.write graph focus)))
  | .transaction steps failsAtEnd passesOn => fun session =>
      let opened := { session with store := session.store.enter }
      let (answers, failure, after) := runSteps now steps opened
      let fault := failure.or (if failsAtEnd then some .rolledBack else none)
      let (ending, last) := (storing (if fault.isSome then Store.abandon else Store.leave)) after
      let outcome := match ending with | .error worse => some worse | .ok () => fault
      match outcome with
      | none => (.ok (.transaction answers none), last)
      | some fault =>
          if passesOn then (.error fault, last)
          else (.ok (.transaction answers (some fault)), last)

/-- Steps one after another, up to the first failure that is not caught: their answers, the failure,
and the session afterwards. -/
def runSteps (now : String) : List (Bool × Request) → Session → List Answer × Option Fault × Session
  | [], session => ([], none, session)
  | (caught, request) :: rest, session =>
      match run now request session with
      | (.ok answer, after) =>
          let (answers, failure, last) := runSteps now rest after
          (answer :: answers, failure, last)
      | (.error fault, after) =>
          if caught then
            let (answers, failure, last) := runSteps now rest after
            (.failed fault :: answers, failure, last)
          else ([], some fault, after)

end

/-- Steps of a session, each at its time; a failure ends only its own step. -/
def runAll : List (String × Request) → Session → List Answer
  | [], _ => []
  | (now, request) :: rest, session =>
      match run now request session with
      | (.ok answer, after) => answer :: runAll rest after
      | (.error fault, after) => .failed fault :: runAll rest after

end Session

end ChangeImpact
