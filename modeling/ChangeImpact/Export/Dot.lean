import ChangeImpact.Export.Focus

/-!
Graphs in the DOT language: a statement for each node and each edge.
-/

set_option autoImplicit false

namespace ChangeImpact.Graph

def escapeQuotes (text : String) : String :=
  String.ofList (text.toList.flatMap fun c => if c = '"' then ['\\', '"'] else [c])

def dotNode (node : Node) : String :=
  let label := escapeQuotes (node.kind.name ++ "\\n" ++ node.name)
  let style := if node.isExternal then ", style=dashed" else ""
  "  \"" ++ node.id ++ "\" [label=\"" ++ label ++ "\"" ++ style ++ "];"

def dotEdge (edge : Edge) : String :=
  "  \"" ++ edge.source ++ "\" -> \"" ++ edge.target ++ "\" [label=\"" ++
    escapeQuotes edge.kind.name ++ "\"];"

def toDot (graph : Graph) (focus : String) : String :=
  let shown := graph.around focus
  Text.join "\n"
    (["digraph KnowledgeGraph \x7b", "  rankdir=LR;"] ++ shown.nodes.map dotNode ++
      shown.edges.map dotEdge ++ ["\x7d"])

end ChangeImpact.Graph
