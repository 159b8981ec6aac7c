import ChangeImpact.Graph.Basic

/-!
Nodes by name. A node is listed under its name and, when it has a file, under the file and the name
together; a policy chooses among the nodes of one key.
-/

set_option autoImplicit false

namespace ChangeImpact

inductive Policy where
  | firstDeclared
  | lastWriter
  deriving DecidableEq, Repr, Inhabited

namespace Policy

def name : Policy → String
  | .firstDeclared => "first_declared"
  | .lastWriter => "last_writer"

def all : List Policy := [.firstDeclared, .lastWriter]

def ofName? (text : String) : Option Policy :=
  all.find? fun policy => policy.name == text

def choose {α : Type} : Policy → List α → Option α
  | .firstDeclared, candidates => candidates.head?
  | .lastWriter, candidates => candidates.getLast?

end Policy

/-- Nodes with the keys that they are listed under, in the order of addition. -/
structure NameIndex where
  policy : Policy
  entries : List (String × Node) := []

namespace NameIndex

def qualified (file name : String) : String := file ++ ":" ++ name

def keysOf (node : Node) : List String :=
  match node.file? with
  | some file => [node.name, qualified file node.name]
  | none => [node.name]

def add (index : NameIndex) (nodes : List Node) : NameIndex :=
  { index with
    entries := index.entries ++ nodes.flatMap fun node => (keysOf node).map fun key => (key, node) }

def candidates (index : NameIndex) (key : String) : List Node :=
  (index.entries.filter fun entry => entry.1 == key).map Prod.snd

def size (index : NameIndex) : Nat :=
  (index.entries.foldl
    (fun keys entry => if keys.contains entry.1 then keys else entry.1 :: keys)
    ([] : List String)).length

def permits (allowed : Option (List NodeKind)) (kind : NodeKind) : Bool :=
  match allowed with
  | none => true
  | some kinds => kinds.contains kind

/-- The node of a key that the policy chooses among those of an allowed kind. -/
def lookup (index : NameIndex) (key : String) (allowed : Option (List NodeKind)) : Option Node :=
  index.policy.choose ((index.candidates key).filter fun node => permits allowed node.kind)

/-- The node that a name means in a file: one of that file if there is any. -/
def resolve (index : NameIndex) (name file : String) (allowed : Option (List NodeKind)) :
    Option Node :=
  (index.lookup (qualified file name) allowed).or (index.lookup name allowed)

end NameIndex

end ChangeImpact
