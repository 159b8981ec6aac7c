import ChangeImpact.Text.Utf8

/-!
Syntax trees of source files. A grammar lists the nodes of a tree in the order of their beginnings, each
with its depth and the octets it covers; one pass from the last node to the first puts them together.
-/

set_option autoImplicit false

namespace ChangeImpact.Syntax

/-- What a node says of itself. Lines count from one. -/
structure Label where
  kind : String
  isNamed : Bool
  field : Option String
  text : String
  startLine : Nat
  endLine : Nat
  deriving DecidableEq, Repr, Inhabited

inductive Tree where
  | node (label : Label) (children : List Tree)
  deriving Inhabited, Repr

namespace Tree

mutual

def decideEq : (left right : Tree) → Decidable (left = right)
  | .node label children, .node other others =>
      match decEq label other, decideAllEq children others with
      | .isTrue labels, .isTrue below => .isTrue (labels ▸ below ▸ rfl)
      | .isFalse labels, _ => .isFalse fun same => labels (Tree.node.inj same).1
      | _, .isFalse below => .isFalse fun same => below (Tree.node.inj same).2

def decideAllEq : (left right : List Tree) → Decidable (left = right)
  | [], [] => .isTrue rfl
  | [], _ :: _ => .isFalse nofun
  | _ :: _, [] => .isFalse nofun
  | tree :: rest, other :: others =>
      match decideEq tree other, decideAllEq rest others with
      | .isTrue first, .isTrue later => .isTrue (first ▸ later ▸ rfl)
      | .isFalse first, _ => .isFalse fun same => first (List.cons.inj same).1
      | _, .isFalse later => .isFalse fun same => later (List.cons.inj same).2

end

instance : DecidableEq Tree := decideEq

def label : Tree → Label
  | .node label _ => label

def children : Tree → List Tree
  | .node _ children => children

def kind (tree : Tree) : String := tree.label.kind

def text (tree : Tree) : String := tree.label.text

def startLine (tree : Tree) : Nat := tree.label.startLine

def endLine (tree : Tree) : Nat := tree.label.endLine

def named (tree : Tree) : List Tree :=
  tree.children.filter fun child => child.label.isNamed

def child? (tree : Tree) (field : String) : Option Tree :=
  tree.children.find? fun child => child.label.field == some field

def hasChild (tree : Tree) (kind : String) : Bool :=
  tree.children.any fun child => child.kind == kind

mutual

def size : Tree → Nat
  | .node _ children => 1 + sizes children

def sizes : List Tree → Nat
  | [] => 0
  | tree :: rest => tree.size + sizes rest

end

theorem size_pos (tree : Tree) : 0 < tree.size := by
  cases tree
  simp only [size]
  omega

theorem size_eq (tree : Tree) : tree.size = 1 + sizes tree.children := by
  cases tree
  simp only [size, children]

theorem size_le_sizes {tree : Tree} {trees : List Tree} (member : tree ∈ trees) :
    tree.size ≤ sizes trees := by
  induction trees with
  | nil => cases member
  | cons head tail ih =>
      simp only [sizes]
      rcases List.mem_cons.mp member with rfl | inTail
      · omega
      · have := ih inTail
        omega

theorem size_lt_of_mem {tree child : Tree} (member : child ∈ tree.children) :
    child.size < tree.size := by
  have bound := size_le_sizes member
  have := size_eq tree
  omega

theorem mem_children_of_child? {tree child : Tree} {field : String}
    (found : tree.child? field = some child) : child ∈ tree.children :=
  List.mem_of_find?_eq_some found

theorem mem_children_of_mem_named {tree child : Tree} (member : child ∈ tree.named) :
    child ∈ tree.children :=
  (List.mem_filter.mp member).1

end Tree

/-- A node as a grammar lists it: its depth, and the octets from `start` to before `stop`. -/
structure Row where
  depth : Nat
  kind : String
  isNamed : Bool
  field : Option String
  start : Nat
  stop : Nat
  deriving DecidableEq, Repr

/-- What a grammar finds in a source text: whether it had to skip anything, and the nodes. -/
structure Outline where
  hasError : Bool
  rows : List Row
  deriving DecidableEq, Repr

def lineAt (octets : ByteArray) (offset : Nat) : Nat :=
  (octets.extract 0 offset).foldl (fun line octet => if octet = 10 then line + 1 else line) 1

def Row.label (octets : ByteArray) (row : Row) : Label :=
  { kind := row.kind
    isNamed := row.isNamed
    field := row.field
    text := Text.decodeTolerant (octets.extract row.start row.stop).toList
    startLine := lineAt octets row.start
    endLine := lineAt octets row.stop }

/-- Puts a node before trees that begin after it: those that lie deeper are its children. -/
def Row.attach (octets : ByteArray) (row : Row) (later : List (Nat × Tree)) : List (Nat × Tree) :=
  let below := later.takeWhile fun entry => row.depth < entry.1
  let beside := later.dropWhile fun entry => row.depth < entry.1
  (row.depth, .node (row.label octets) (below.map Prod.snd)) :: beside

def Outline.tree? (outline : Outline) (octets : ByteArray) : Option Tree :=
  ((outline.rows.foldr (Row.attach octets) []).head?).map Prod.snd

def emptyTree : Tree :=
  .node { kind := "", isNamed := true, field := none, text := "", startLine := 1, endLine := 1 } []

end ChangeImpact.Syntax
