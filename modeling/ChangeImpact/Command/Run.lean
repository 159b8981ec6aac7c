import ChangeImpact.Command.Basic
import ChangeImpact.Command.Station
import ChangeImpact.Export.Document
import ChangeImpact.Session.Run

/-!
Running commands. Every command that needs the store opens it anew on what was committed.
-/

set_option autoImplicit false

namespace ChangeImpact.Command

open ChangeImpact.Json (Value)

def tableLine (title : String) (columns : List String) (rows : List (List String)) : String :=
  let texts := fun (cells : List String) => Value.list (cells.map .str)
  let table : Value :=
    .object [("columns", texts columns), ("rows", .list (rows.map texts)), ("title", .str title)]
  "TABLE " ++ table.write .openLine

def echoTable (title : String) (columns : List String) (rows : List (List String)) : Action Unit :=
  echo (tableLine title columns rows)

def echoCounts (graph : Graph) : Action Unit := do
  let rows := fun (counts : List (String × Nat)) =>
    counts.map fun count => [count.1, toString count.2]
  echoTable "Nodes by type" ["Type", "Count"] (rows graph.nodesByKind)
  echoTable "Edges by type" ["Type", "Count"] (rows graph.edgesByKind)

def location (node : Node) : String :=
  match node.file? with
  | none => "(external)"
  | some file =>
      if node.lineStart.isTruthy then file ++ ":" ++ node.lineStart.plain else file

def runBuild (request : BuildRequest) (workers : Option Int) (now : String) : Action Unit := do
  let known ← settings
  let settings := { known with workers := workers.getD known.workers }
  openStore
  let report ← atBench settings (Workbench.build (← workspace) request {} now)
  echo s!"Built graph '{report.analysis}' from {report.filesParsed} files in 0ms."
  echo s!"Nodes: {report.graph.nodes.length} | Edges: {report.graph.edges.length}"
  if report.placeholders ≠ 0 || report.dropped ≠ 0 then
    echo s!"External placeholders: {report.placeholders} | Dropped edges: {report.dropped}"
  if !report.discovery.skippedLarge.isEmpty then
    echo s!"Skipped {report.discovery.skippedLarge.length} oversized files."
  each (fun warning => warn s!"Warning: {warning}") (report.discovery.warnings report.scope)
  if !report.parseErrors.isEmpty then
    warn s!"{report.parseErrors.length} files had parse errors:"
    let sorted := report.parseErrors.mergeSort fun left right => decide (left.1 ≤ right.1)
    each (fun item => warn ("  " ++ item.1 ++ ": " ++ Text.join "; " item.2)) sorted
  echoCounts report.graph

def runStats (analysis : String) : Action Unit := do
  openStore
  let graph ← atBench (← settings) (Workbench.graph analysis)
  echo s!"Analysis '{analysis}': {graph.nodes.length} nodes, {graph.edges.length} edges"
  echoCounts graph

def impactDocument (result : Impact.Result) : Value :=
  let texts := fun (items : List String) => Value.list (items.map .str)
  let propagation := fun (item : Impact.Propagation) =>
    Value.object
      [("finding", .str item.finding), ("severity", .str item.severity),
        ("propagation_path", texts item.path)]
  .object
    [("target_file", .str result.targetFile), ("target_function", .ofOption result.targetFunction),
      ("direct_dependents", texts result.directFiles),
      ("transitive_dependents", texts result.transitiveFiles),
      ("affected_files", texts result.affectedFiles), ("impact_score", .ofNat result.score),
      ("vulnerability_propagation", .list (result.propagation.map propagation)),
      ("direct_dependent_nodes", texts result.directNodes),
      ("transitive_dependent_nodes", texts result.transitiveNodes)]

def echoFiles (heading : String) (files : List String) : Action Unit := do
  echo heading
  each (fun file => echo ("- " ++ file)) (if files.isEmpty then ["(none)"] else files)

def runImpact (analysis file : String) (function : Option String) (depth : Int)
    (asDocument : Bool) : Action Unit := do
  openStore
  let result ← atBench (← settings) (Workbench.impact analysis file function depth)
  if asDocument then echo ((impactDocument result).write .page)
  else
    let target :=
      match function.filter (· ≠ "") with
      | some name => file ++ "::" ++ name
      | none => file
    echo s!"Target: {target}"
    echo s!"Impact score: {result.score}/100"
    echoFiles "Direct dependents:" result.directFiles
    echoFiles "Transitive dependents:" result.transitiveFiles
    if !result.propagation.isEmpty then
      echoTable "Vulnerability propagation" ["Severity", "Finding", "Path"]
        (result.propagation.map fun item =>
          [item.severity, item.finding, Text.join " -> " item.path])

def runDeadCode (analysis : String) : Action Unit := do
  openStore
  let nodes ← atBench (← settings) (Workbench.deadNodes analysis)
  if nodes.isEmpty then echo "No dead code candidates found."
  else
    echoTable s!"Dead code candidates ({nodes.length})" ["Type", "Name", "Location"]
      (nodes.map fun node => [node.kind.name, node.name, location node])

/-- Where a chain starts: at the node of an id in the analysis, or at the first node of a name. The
other part is what to tell about the choice. -/
def chainStart (analysis node : String) (file : Option String) :
    Workbench.Action (Option (Node × Option String)) := do
  let byId ← Workbench.storing (Store.findNode node)
  match byId.filter fun found => found.analysis == analysis with
  | some found => pure (some (found, none))
  | none =>
      match ← Workbench.named analysis node file with
      | [] => pure none
      | [only] => pure (some (only, none))
      | first :: more =>
          pure (some (first,
            some s!"{more.length + 1} nodes named '{node}'; using {location first}."))

def runChain (analysis node : String) (file : Option String) (depth : Int) : Action Unit := do
  openStore
  let known ← settings
  match ← atBench known (chainStart analysis node file) with
  | none => throw (.refused s!"Node '{node}' not found in analysis '{analysis}'.")
  | some (start, remark) =>
      each warn remark.toList
      match ← atBench known (Workbench.chain analysis start.id depth) with
      | [] => pure ()
      | first :: rest =>
          echo first
          each (fun label => echo ("  -> " ++ label)) rest

def formatName : Session.Format → String
  | .dot => "dot"
  | .document => "json"

def runExport (analysis : String) (format : Session.Format) (output : Option String)
    (focus : String) : Action Unit := do
  openStore
  let graph ← atBench (← settings) (Workbench.graph analysis)
  let path := output.getD (analysis ++ "_graph." ++ formatName format)
  let known ← workspace
  let shown := if output.isSome then Path.plain path else known.shownPath path
  writeFile path shown (format.write graph focus)
  echo s!"Exported graph to {shown}"

def runAnalyses : Action Unit := do
  openStore
  let records ← storing Store.listRecords
  if records.isEmpty then echo "No analyses yet. Run 'ig build <path>'."
  else
    echoTable "Analyses" ["ID", "Project", "Nodes", "Edges", "Updated"]
      (records.map fun item =>
        [item.record.id.getD "", item.record.path, toString item.nodeCount,
          toString item.edgeCount, item.record.updatedAt])

def runDelete (analysis : String) : Action Unit := do
  openStore
  if ← storing (Store.deleteAnalysis analysis) then echo s!"Deleted analysis '{analysis}'."
  else throw .misused

def findingsEnding (fault : Finding.FileFault) : Ending :=
  if fault.escapes then .escaped (.findings fault) else .refused fault.message

def runImport (analysis path now : String) : Action Unit := do
  openStore
  atBench {} (Workbench.requireRecord analysis)
  match Finding.ofFile (← workspace) (Path.plain path) with
  | .error fault => throw (findingsEnding fault)
  | .ok findings => do
      let stored ← storing (Store.addFindings analysis findings now)
      echo s!"Imported {stored.length} findings into '{analysis}'."

def findingLocation (row : Store.StoredFinding) : String :=
  let file := row.file.getD ""
  if file ≠ "" && row.line.isTruthy then file ++ ":" ++ row.line.plain else file

def runList (analysis : String) (file severity : Option String) : Action Unit := do
  openStore
  let rows ← storing (Store.findFindings analysis file severity)
  if rows.isEmpty then echo "No findings."
  else
    echoTable s!"Findings ({rows.length})" ["Severity", "Title", "Location", "Scanner"]
      (rows.map fun row => [row.severity, row.title, findingLocation row, row.scanner])

def settingText : Value → String
  | .list items =>
      let joined := Text.join ", " (items.map Value.plain)
      if joined = "" then "(none)" else joined
  | other => other.plain

def runShow : Action Unit := do
  let known ← settings
  each (fun field => echo (field.1 ++ " = " ++ settingText field.2)) known.toFields
  echo ("config file: " ++ (← workspace).shownPath settingsPath)

def runSet (key raw : String) : Action Unit := do
  let change ← settingsResult (Settings.Change.ofText (← settingsText) key raw (← host))
  writeSettings change.document
  let _ ← settingsResult (change.settings (← host))
  echo s!"Set {key}."

def runReset : Action Unit := do
  let rest ← settingsResult
    ((Settings.withoutSection? (← settingsText) (← host)).mapError Settings.ChangeFault.document)
  each writeSettings rest.toList
  echo "Reset [graph] settings to defaults."

def versionText : String := "impactgraph v0.1.0"

def run (now : String) : Command → Action Unit
  | .build request workers => runBuild request workers now
  | .stats analysis => runStats analysis
  | .impact analysis file function depth asDocument =>
      runImpact analysis file function depth asDocument
  | .deadCode analysis => runDeadCode analysis
  | .chain analysis node file depth => runChain analysis node file depth
  | .export analysis format output focus => runExport analysis format output focus
  | .analyses => runAnalyses
  | .delete analysis => runDelete analysis
  | .importFindings analysis path => runImport analysis path now
  | .listFindings analysis file severity => runList analysis file severity
  | .showSettings => runShow
  | .setSetting key raw => runSet key raw
  | .resetSettings => runReset

structure Outcome where
  ending : Ending
  output : Output := {}

def Ending.exitCode : Ending → Nat
  | .done => 0
  | .misused => 2
  | .refused _ => 1
  | .escaped _ => 1

def runWords (now : String) (words : List String) : Action Unit := do
  match lineOf? words with
  | none => throw .misused
  | some .version => echo versionText
  | some (.named name rest) =>
      lookAtSettings
      match commands (← workspace) name rest with
      | none => throw .misused
      | some command => run now command

/-- The channels after a command has ended: an error that is told goes to the second. -/
def Output.close (ending : Ending) (output : Output) : Output :=
  let told := match ending with | .refused message => output.warn ("Error: " ++ message) | _ => output
  { out := Text.singleLineEnds told.out, err := Text.singleLineEnds told.err }

def runLine (now : String) (words : List String) (station : Station) : Outcome × Station :=
  let (result, after, output) := runWords now words (station, {})
  let ending := match result with | .ok () => .done | .error ending => ending
  ({ ending, output := output.close ending }, after)

def Station.fileText? (station : Station) (path : String) : Option String :=
  match station.workspace.readFile path with
  | .ok (octets, _) => some (Text.decodeTolerant octets.toList)
  | .error _ => none

end ChangeImpact.Command
