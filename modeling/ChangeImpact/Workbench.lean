import ChangeImpact.Build
import ChangeImpact.Settings.Basic

/-!
A store with the graph that is loaded from it. A question about an analysis loads its graph, unless it is
loaded already; a build loads the graph of its analysis again, if that was the one loaded.
-/

set_option autoImplicit false

namespace ChangeImpact

structure Workbench where
  store : Store
  settings : Settings := {}
  loaded : Option Graph := none

structure BuildRequest where
  path : String
  analysis : Option String := none
  includePatterns : List String := []
  exclude : List String := []
  maxFileSize : Option Int := none
  maxFiles : Option Int := none

namespace Workbench

/-- An operation at the workbench. What it did before it failed stays done. -/
abbrev Action (α : Type) := ExceptT Fault (StateM Workbench) α

def withStore {α : Type} (action : Store.Action Fault α) : Action α := fun bench =>
  let (result, store) := action bench.store
  (result, { bench with store })

def storing {α : Type} (action : Store.Action Store.Fault α) : Action α :=
  withStore (ExceptT.adapt Fault.store action)

def answering {α : Type} (result : Except Impact.Fault α) : Action α :=
  match result with
  | .ok value => pure value
  | .error fault => throw (.impact fault)

def load (analysis : String) : Action Graph := do
  let graph ← storing (Store.fullGraph analysis)
  modify fun bench => { bench with loaded := some graph }
  pure graph

def requireRecord (analysis : String) : Action Unit := do
  let record ← storing (Store.findRecord analysis)
  if record.isNone then throw (.unknownAnalysis analysis)

def loadedAnalysis (bench : Workbench) : Option String := bench.loaded.map Graph.analysis

def ensureLoaded (analysis : String) : Action Unit := do
  let bench ← get
  if bench.loadedAnalysis ≠ some analysis then
    requireRecord analysis
    let _ ← load analysis

def projectPath (workspace : Workspace) (path : String) : Except Fault String := do
  let project ← (workspace.realPath path).mapError Fault.realPath
  let shown := workspace.shownPath project
  match workspace.locate project with
  | .ok (_, .directory _) => .ok project
  | .error .nameTooLong => .error (.badPath shown .nameTooLong)
  | _ => .error (.notADirectory shown)

def orSetting (asked : Option Int) (setting : Int) : Int :=
  match asked with
  | some number => if number = 0 then setting else number
  | none => setting

def optionsOf (settings : Settings) (workspace : Workspace) (request : BuildRequest)
    (project : String) : BuildOptions :=
  { analysis :=
      (request.analysis.filter (· ≠ "")).getD (Path.fileName (workspace.shownPath project))
    project
    scope :=
      { includePatterns := request.includePatterns
        excludePatterns := settings.exclude ++ request.exclude
        maxFileSize := orSetting request.maxFileSize settings.maxFileSize
        maxFiles := orSetting request.maxFiles settings.maxFiles } }

def builderOf (settings : Settings) : Builder :=
  { policy := settings.policy, workers := settings.workers }

/-- Builds the graph of a project that was located, and loads it again if it was the one loaded. -/
def buildAt (workspace : Workspace) (options : BuildOptions) (cancel : Cancellation) (now : String) :
    Action BuildReport := do
  let settings := (← get).settings
  storing (Store.recordAnalysis (.str options.analysis) (.str (workspace.shownPath options.project)) now)
  let report ← withStore ((builderOf settings).build workspace options cancel)
  if (← get).loadedAnalysis = some options.analysis then
    let _ ← load options.analysis
  pure report

def build (workspace : Workspace) (request : BuildRequest) (cancel : Cancellation) (now : String) :
    Action BuildReport := do
  let project ← projectPath workspace request.path
  let settings := (← get).settings
  buildAt workspace (optionsOf settings workspace request project) cancel now

def graph (analysis : String) : Action Graph := do
  requireRecord analysis
  storing (Store.fullGraph analysis)

/-- The findings that a file may be in; if they cannot be read there are none. -/
def findingsAbout (store : Store) (analysis file : String) : List Store.StoredFinding :=
  match (Store.findFindings analysis (some file) none store).1 with
  | .ok findings => findings
  | .error _ => []

def impact (analysis file : String) (function : Option String) (maxDepth : Int) :
    Action Impact.Result := do
  ensureLoaded analysis
  let bench ← get
  let graph ← answering (Impact.require bench.loaded (some analysis))
  answering (Impact.analyze graph (findingsAbout bench.store analysis file) file function maxDepth)

def deadNodes (analysis : String) : Action (List Node) := do
  ensureLoaded analysis
  let graph ← answering (Impact.require (← get).loaded (some analysis))
  pure (Impact.deadNodes graph)

def chain (analysis id : String) (maxDepth : Int) : Action (List String) := do
  ensureLoaded analysis
  let graph ← answering (Impact.require (← get).loaded none)
  pure (Impact.chain graph id maxDepth)

def named (analysis name : String) (file : Option String) : Action (List Node) := do
  ensureLoaded analysis
  let graph ← answering (Impact.require (← get).loaded none)
  pure (Impact.named graph name file)

end Workbench

end ChangeImpact
