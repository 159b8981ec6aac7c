import ChangeImpact.Extraction.Basic

/-!
The graph of one analysis: nodes for what its files declare, edges for who depends on whom. Nodes and
edges stand in the order in which they were stored.
-/

set_option autoImplicit false

namespace ChangeImpact

/-- A declaration with an identity. The lines are whole numbers unless something else was stored. -/
structure Node where
  id : String
  analysis : String
  kind : NodeKind
  name : String
  file : Option String := none
  lineStart : Json.Value := .null
  lineEnd : Json.Value := .null
  metadata : Metadata := []
  deriving Inhabited

structure Edge where
  id : String
  analysis : String
  source : String
  target : String
  kind : EdgeKind
  metadata : Metadata := []
  deriving Inhabited

namespace Node

/-- The file of a node, unless it is absent or has no name. -/
def file? (node : Node) : Option String :=
  node.file.filter (· ≠ "")

def isExternal (node : Node) : Bool :=
  match node.metadata.lookup "external" with
  | some (.bool mark) => mark
  | _ => false

def isExported (node : Node) : Bool :=
  match node.metadata.lookup "exported" with
  | some mark => mark.isTruthy
  | none => false

def label (node : Node) : String :=
  match node.file? with
  | some file => s!"{node.kind.name}:{node.name} ({file})"
  | none => s!"{node.kind.name}:{node.name}"

end Node

structure Graph where
  analysis : String
  nodes : List Node
  edges : List Edge
  deriving Inhabited

namespace Graph

/-- How often each name occurs: the expected names first, then the others as they come. -/
def tally (expected names : List String) : List (String × Nat) :=
  names.foldl
    (fun counts name => Json.Fields.set name ((counts.lookup name).getD 0 + 1) counts)
    (expected.map fun name => (name, 0))

def nodesByKind (graph : Graph) : List (String × Nat) :=
  tally (NodeKind.known.map NodeKind.name) (graph.nodes.map (·.kind.name))

def edgesByKind (graph : Graph) : List (String × Nat) :=
  tally (EdgeKind.known.map EdgeKind.name) (graph.edges.map (·.kind.name))

def Closed (graph : Graph) : Prop :=
  ∀ edge ∈ graph.edges,
    edge.source ∈ graph.nodes.map Node.id ∧ edge.target ∈ graph.nodes.map Node.id

end Graph

end ChangeImpact
