import ChangeImpact.Export.Focus
import ChangeImpact.Json.Writer

/-!
Graphs as documents: counts of the whole graph, then the nodes and edges that are shown.
-/

set_option autoImplicit false

namespace ChangeImpact.Graph

open ChangeImpact.Json (Value)

def countFields (counts : List (String × Nat)) : Value :=
  .object (counts.map fun count => (count.1, .ofNat count.2))

def nodeDocument (node : Node) : Value :=
  .object
    [("id", .str node.id), ("type", .str node.kind.name), ("name", .str node.name),
      ("file", .ofOption node.file), ("lineStart", node.lineStart), ("lineEnd", node.lineEnd),
      ("metadata", .object node.metadata)]

def edgeDocument (edge : Edge) : Value :=
  .object
    [("id", .str edge.id), ("sourceId", .str edge.source), ("targetId", .str edge.target),
      ("type", .str edge.kind.name), ("metadata", .object edge.metadata)]

def document (graph : Graph) (focus : String) : Value :=
  let shown := graph.around focus
  .object
    [("analysisId", .str graph.analysis),
      ("stats",
        .object
          [("totalNodes", .ofNat graph.nodes.length), ("totalEdges", .ofNat graph.edges.length),
            ("nodesByType", countFields graph.nodesByKind),
            ("edgesByType", countFields graph.edgesByKind)]),
      ("nodes", .list (shown.nodes.map nodeDocument)), ("edges", .list (shown.edges.map edgeDocument))]

def toDocument (graph : Graph) (focus : String) : String :=
  (graph.document focus).write .page

end ChangeImpact.Graph
