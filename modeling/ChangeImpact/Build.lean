import ChangeImpact.Fault
import ChangeImpact.Project.Discovery
import ChangeImpact.Project.Sources
import ChangeImpact.Resolution
import ChangeImpact.Store.Graphs

/-!
Building the graph of a project. The old graph goes first; then the files are found and read, and nodes,
placeholders and edges are stored in one transaction.
-/

set_option autoImplicit false

namespace ChangeImpact

open ChangeImpact.Store (Action NodeDraft EdgeDraft)

structure BuildOptions where
  analysis : String
  project : String
  scope : Scope := {}

/-- How it is to be built. No workers means as many as usual. -/
structure Builder where
  extractor : Extractor := .ofTable .standard
  policy : Policy := .firstDeclared
  workers : Int := 0

structure BuildReport where
  analysis : String
  graph : Graph
  scope : Scope
  discovery : Discovery
  filesParsed : Nat
  parseErrors : List (String × List String)
  placeholders : Nat
  dropped : Nat

namespace Builder

def storing {α : Type} (action : Action Store.Fault α) : Action Fault α :=
  ExceptT.adapt Fault.store action

def nodesOf (analysis : String) (extraction : Extraction) : List Node :=
  extraction.declarations.map fun declaration =>
    { id := ""
      analysis
      kind := declaration.kind
      name := declaration.name
      file := some extraction.file
      lineStart := declaration.lineStart
      lineEnd := declaration.lineEnd
      metadata := Json.Fields.set "language" (.str extraction.language) declaration.metadata }

def nodeDraft (node : Node) : NodeDraft :=
  { analysis := .str node.analysis
    kind := .str node.kind.name
    name := .str node.name
    file := .ofOption node.file
    lineStart := node.lineStart
    lineEnd := node.lineEnd
    metadata := node.metadata }

def edgeDraft (edge : Edge) : EdgeDraft :=
  { analysis := .str edge.analysis
    source := .str edge.source
    target := .str edge.target
    kind := .str edge.kind.name
    metadata := edge.metadata }

def keepNodes (nodes : List Node) : Action Store.Fault (List Node) := do
  let ids ← Store.createNodes (nodes.map nodeDraft)
  pure (List.zipWith (fun id (node : Node) => { node with id }) ids nodes)

/-- Turns the references of extractions into edges, without ids. What has no node gets a placeholder, which is stored.
The answer also tells how many placeholders there are and how many references were dropped. -/
def resolveEdges (index : NameIndex) (analysis : String) (extractions : List Extraction) :
    Action Store.Fault (List Edge × Nat × Nat) := do
  let resolution := Resolution.ofExtractions index extractions
  let placeholders ← keepNodes (resolution.missing.map (Resolution.placeholder analysis))
  let ids := placeholders.map fun node => (node.name, node.id)
  pure (resolution.pending.map (Resolution.edge analysis ids), placeholders.length, resolution.dropped)

def persist (policy : Policy) (analysis : String) (extractions : List Extraction) :
    Action Store.Fault (Nat × Nat) :=
  Store.transaction do
    let nodes ← keepNodes (extractions.flatMap (nodesOf analysis))
    let (edges, counts) ← resolveEdges (({ policy } : NameIndex).add nodes) analysis extractions
    let _ ← Store.createEdges (edges.map edgeDraft)
    pure counts

def parseErrors (extractions : List Extraction) : List (String × List String) :=
  Json.Fields.merge []
    ((extractions.filter fun extraction => !extraction.isClean).map fun extraction =>
      (extraction.file, extraction.errors))

def extract (builder : Builder) (workspace : Workspace) (options : BuildOptions)
    (cancel : Cancellation) (files : List String) : Except Fault (List Extraction) :=
  if builder.workers < 0 then .error .noWorkers
  else
    match Sources.extractAll builder.extractor workspace options.project cancel files with
    | .error .cancelled => .error (.cancelled options.analysis)
    | .error (.path path fault) => .error (.badPath path fault)
    | .ok extractions => .ok extractions

def discoveryOf (builder : Builder) (workspace : Workspace) (options : BuildOptions) : Discovery :=
  Discovery.ofProject builder.extractor.table options.scope workspace options.project

def buildBy (builder : Builder) (keep : List Extraction → Action Store.Fault (Nat × Nat))
    (workspace : Workspace) (options : BuildOptions) (cancel : Cancellation) :
    Action Fault BuildReport := do
  storing (Store.deleteGraph options.analysis)
  if Text.hasNull options.project then throw .nullInFolder
  let discovery := builder.discoveryOf workspace options
  let extractions ← builder.extract workspace options cancel discovery.files
  let (placeholders, dropped) ← storing (keep extractions)
  let graph ← storing (Store.fullGraph options.analysis)
  pure
    { analysis := options.analysis
      graph
      scope := options.scope
      discovery
      filesParsed := (extractions.filter fun extraction => !extraction.isSkipped).length
      parseErrors := parseErrors extractions
      placeholders
      dropped }

def build (builder : Builder) (workspace : Workspace) (options : BuildOptions)
    (cancel : Cancellation) : Action Fault BuildReport :=
  builder.buildBy (persist builder.policy options.analysis) workspace options cancel

end Builder

end ChangeImpact
