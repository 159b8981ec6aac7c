import ChangeImpact.Graph.Basic

/-!
The part of a graph around a focus: the nodes that a text occurs in, with their neighbours.
-/

set_option autoImplicit false

namespace ChangeImpact.Graph

def isFocus (focus : String) (node : Node) : Bool :=
  Text.occursIn focus node.name ||
    (match node.file? with
      | none => false
      | some file => Text.occursIn focus file)

def focusIds (graph : Graph) (focus : String) : List String :=
  (graph.nodes.filter (isFocus focus)).map Node.id

/-- The nodes that a text occurs in with the edges at them and the other ends of these. Without such
nodes it is the whole graph. -/
def around (graph : Graph) (focus : String) : Graph :=
  let chosen := if focus = "" then [] else graph.focusIds focus
  if chosen.isEmpty then graph
  else
    let edges := graph.edges.filter fun edge =>
      chosen.contains edge.source || chosen.contains edge.target
    let kept := chosen ++ edges.flatMap fun edge => [edge.source, edge.target]
    { graph with nodes := graph.nodes.filter fun node => kept.contains node.id, edges }

end ChangeImpact.Graph
