import ChangeImpact.Store.Basic

/-!
Graphs and analyses in the store.
-/

set_option autoImplicit false

namespace ChangeImpact.Store

open ChangeImpact.Json (Value)

/-- A node to be stored; its columns may hold any values. -/
structure NodeDraft where
  analysis : Value
  kind : Value
  name : Value
  file : Value := .null
  lineStart : Value := .null
  lineEnd : Value := .null
  metadata : Metadata := []
  deriving Inhabited

structure EdgeDraft where
  analysis : Value
  source : Value
  target : Value
  kind : Value
  metadata : Metadata := []
  deriving Inhabited

/-- The row of a node: the values must fit, then the columns that may not be empty are looked at. -/
def NodeDraft.row (id : String) (draft : NodeDraft) : Except Cause Node := do
  let analysis ← Cell.bind 2 draft.analysis
  let kind ← Cell.bind 3 draft.kind
  let name ← Cell.bind 4 draft.name
  let file ← Cell.bind 5 draft.file
  let lineStart ← Cell.bind 6 draft.lineStart
  let lineEnd ← Cell.bind 7 draft.lineEnd
  let analysisText ← analysis.required "graph_nodes.analysis_id"
  let kindText ← kind.required "graph_nodes.type"
  let nameText ← name.required "graph_nodes.name"
  .ok
    { id
      analysis := analysisText
      kind := ⟨kindText⟩
      name := nameText
      file := file.asText
      lineStart := lineStart.asNumber
      lineEnd := lineEnd.asNumber
      metadata := draft.metadata }

def EdgeDraft.row (id : String) (draft : EdgeDraft) : Except Cause Edge := do
  let analysis ← Cell.bind 2 draft.analysis
  let source ← Cell.bind 3 draft.source
  let target ← Cell.bind 4 draft.target
  let kind ← Cell.bind 5 draft.kind
  let analysisText ← analysis.required "graph_edges.analysis_id"
  let sourceText ← source.required "graph_edges.source_id"
  let targetText ← target.required "graph_edges.target_id"
  let kindText ← kind.required "graph_edges.type"
  .ok
    { id
      analysis := analysisText
      source := sourceText
      target := targetText
      kind := ⟨kindText⟩
      metadata := draft.metadata }

namespace Image

def hasNode (image : Image) (id : String) : Bool :=
  image.nodes.any fun node => node.id == id

def insertNode (item : String × NodeDraft) (image : Image) : Except Cause Image := do
  let node ← item.2.row item.1
  .ok { image with nodes := image.nodes ++ [node] }

def insertEdge (item : String × EdgeDraft) (image : Image) : Except Cause Image := do
  let edge ← item.2.row item.1
  if image.hasNode edge.source && image.hasNode edge.target then
    .ok { image with edges := image.edges ++ [edge] }
  else .error .foreignKey

def dropEdges (analysis : String) (image : Image) : Image :=
  { image with edges := image.edges.filter fun edge => edge.analysis ≠ analysis }

def dropNodes (analysis : String) (image : Image) : Image :=
  let nodes := image.nodes.filter fun node => node.analysis ≠ analysis
  let kept : Image := { image with nodes }
  let isCut := fun (id : String) => image.hasNode id && !kept.hasNode id
  { kept with
    edges := image.edges.filter fun edge => !isCut edge.source && !isCut edge.target }

def nodesOf (analysis : String) (image : Image) : List Node :=
  image.nodes.filter fun node => node.analysis == analysis

def edgesOf (analysis : String) (image : Image) : List Edge :=
  image.edges.filter fun edge => edge.analysis == analysis

/-- A record set in its place, or added at the end. A record without an id is always added. -/
def putRecord (record : Record) (image : Image) : Image :=
  if record.id.isSome && image.records.any fun known => known.id == record.id then
    let update := fun (known : Record) =>
      if known.id == record.id then
        { known with path := record.path, updatedAt := record.updatedAt }
      else known
    { image with records := image.records.map update }
  else { image with records := image.records ++ [record] }

def hasRecord (analysis : String) (image : Image) : Bool :=
  image.records.any fun record => record.id == some analysis

end Image

def createNodes (batch : List NodeDraft) : Action Fault (List String) := do
  let items ← numbered batch
  if items.isEmpty then pure []
  else
    executeEach .insertNodes Image.insertNode items
    commitIfOutside
    pure (items.map Prod.fst)

def createEdges (batch : List EdgeDraft) : Action Fault (List String) := do
  let items ← numbered batch
  if items.isEmpty then pure []
  else
    executeEach .insertEdges Image.insertEdge items
    commitIfOutside
    pure (items.map Prod.fst)

/-- A condition on a column that counts only when it is given. -/
def asks (condition : Option String) (column : Option String) : Bool :=
  match condition with
  | none => true
  | some text => text.isEmpty || column == some text

def findNodes (analysis : String) (kind file : Option String) : Action Fault (List Node) :=
  query (.failed (.readNodes analysis) .closed) (analysis :: kind.toList ++ file.toList) fun image =>
    (image.nodesOf analysis).filter fun node =>
      asks kind (some node.kind.name) && asks file node.file

def findEdges (analysis : String) (kind : Option String) : Action Fault (List Edge) :=
  query (.failed (.readEdges analysis) .closed) (analysis :: kind.toList) fun image =>
    (image.edgesOf analysis).filter fun edge => asks kind (some edge.kind.name)

def findNode (id : String) : Action Fault (Option Node) :=
  query .closed [id] fun image => image.nodes.find? fun node => node.id == id

def fullGraph (analysis : String) : Action Fault Graph := do
  let nodes ← findNodes analysis none none
  let edges ← findEdges analysis none
  pure { analysis, nodes, edges }

def deleteGraph (analysis : String) : Action Fault Unit :=
  transaction do
    remove (.deleteGraph analysis) analysis (Image.dropEdges analysis)
    remove (.deleteGraph analysis) analysis (Image.dropNodes analysis)

def recordAnalysis (analysis path : Value) (now : String) : Action Fault Unit := do
  execute (.record analysis.plain) fun image => do
    let id ← Cell.bind 1 analysis
    let path ← Cell.bind 2 path
    let pathText ← path.required "analyses.project_path"
    .ok (image.putRecord { id := id.asText, path := pathText, createdAt := now, updatedAt := now })
  commitIfOutside

def findRecord (analysis : String) : Action Fault (Option Record) :=
  query .closed [analysis] fun image => image.records.find? fun record => record.id == some analysis

structure RecordSummary where
  record : Record
  nodeCount : Nat
  edgeCount : Nat

/-- All records, the one touched last first. -/
def listRecords : Action Fault (List RecordSummary) :=
  query .closed [] fun image =>
    (image.records.mergeSort fun left right => decide (right.updatedAt ≤ left.updatedAt)).map
      fun record =>
        { record
          nodeCount := (image.nodes.filter fun node => some node.analysis == record.id).length
          edgeCount := (image.edges.filter fun edge => some edge.analysis == record.id).length }

/-- Deletes an analysis with its graph and findings, and tells whether it had a record. -/
def deleteAnalysis (analysis : String) : Action Fault Bool :=
  transaction do
    deleteGraph analysis
    remove (.deleteAnalysis analysis) analysis fun image =>
      { image with findings := image.findings.filter fun found => found.analysis ≠ analysis }
    let known ← query (.failed (.deleteAnalysis analysis) .closed) [] (Image.hasRecord analysis)
    remove (.deleteAnalysis analysis) analysis fun image =>
      { image with records := image.records.filter fun record => record.id ≠ some analysis }
    pure known

end ChangeImpact.Store
