import ChangeImpact.Export.Focus
import Mathlib.Data.List.Infix
import Mathlib.Data.List.Nodup

/-!
The part of a graph around a focus is the neighbourhood of the nodes that hold the focus: the edges at these nodes, and
the nodes at the ends of these edges. Both lists keep the order of the graph, and neither refers to what is not shown.
-/

set_option autoImplicit false

namespace ChangeImpact

theorem Text.isPart_iff {part text : List Char} : isPart part text = true ↔ part <:+: text := by
  induction text with
  | nil => rw [isPart, List.isEmpty_iff, List.infix_nil]
  | cons c rest ih => rw [isPart, Bool.or_eq_true, List.isPrefixOf_iff_prefix, ih, List.infix_cons_iff]

def Node.Holds (text : String) (node : Node) : Prop :=
  text.toList <:+: node.name.toList ∨ ∃ file ∈ node.file, text.toList <:+: file.toList

instance (text : String) (node : Node) : Decidable (node.Holds text) := inferInstanceAs (Decidable (_ ∨ _))

def Edge.Ends (edge : Edge) (node : Node) : Prop := edge.source = node.id ∨ edge.target = node.id

instance (edge : Edge) (node : Node) : Decidable (edge.Ends node) := inferInstanceAs (Decidable (_ ∨ _))

def Edge.Joins (edge : Edge) (one other : Node) : Prop :=
  (edge.source = one.id ∧ edge.target = other.id) ∨ (edge.source = other.id ∧ edge.target = one.id)

namespace Graph

variable {graph : Graph} {focus : String}

def AtFocus (graph : Graph) (focus : String) (edge : Edge) : Prop :=
  ∃ node ∈ graph.nodes, node.Holds focus ∧ edge.Ends node

instance (edge : Edge) : Decidable (graph.AtFocus focus edge) :=
  inferInstanceAs (Decidable (∃ node ∈ graph.nodes, _))

/-- A node holds the focus, or is at an end of an edge at the focus. -/
def NearFocus (graph : Graph) (focus : String) (node : Node) : Prop :=
  node.Holds focus ∨ ∃ edge ∈ graph.edges, graph.AtFocus focus edge ∧ edge.Ends node

instance (node : Node) : Decidable (graph.NearFocus focus node) := inferInstanceAs (Decidable (_ ∨ _))

structure IsNeighbourhood (graph : Graph) (focus : String) (shown : Graph) : Prop where
  edges : shown.edges = graph.edges.filter (graph.AtFocus focus ·)
  nodes : shown.nodes = graph.nodes.filter (graph.NearFocus focus ·)
  once : (shown.nodes.map Node.id).Nodup
  closed : shown.Closed
  adjacent : ∀ node ∈ shown.nodes, ¬ node.Holds focus →
    ∃ edge ∈ shown.edges, ∃ held ∈ shown.nodes, held.Holds focus ∧ edge.Joins node held

/-! ### Nodes that hold the focus -/

theorem isFocus_iff (full : focus ≠ "") {node : Node} : isFocus focus node = true ↔ node.Holds focus := by
  have nonempty : focus.toList ≠ [] := fun empty => full (String.toList_eq_nil_iff.mp empty)
  unfold isFocus Node.Holds Node.file? Text.occursIn
  rw [Bool.or_eq_true, Text.isPart_iff]
  rcases node.file with _ | file
  · simp
  · by_cases empty : file = ""
    · -- A file without a name counts as none, and it has no part that is not empty.
      rw [Option.filter_some_neg (by simpa using empty)]
      simp [empty, nonempty]
    · rw [Option.filter_some_pos (by simpa using empty)]
      simp [Text.isPart_iff]

theorem mem_focusIds (full : focus ≠ "") {id : String} :
    id ∈ graph.focusIds focus ↔ ∃ node ∈ graph.nodes, node.Holds focus ∧ node.id = id := by
  unfold focusIds
  simp only [List.mem_map, List.mem_filter, isFocus_iff full, and_assoc]

theorem focusIds_eq_nil (full : focus ≠ "") :
    graph.focusIds focus = [] ↔ ∀ node ∈ graph.nodes, ¬ node.Holds focus := by
  rw [List.eq_nil_iff_forall_not_mem]
  constructor
  · exact fun none node member held => none node.id ((mem_focusIds full).mpr ⟨node, member, held, rfl⟩)
  · intro none id member
    obtain ⟨node, inside, held, _⟩ := (mem_focusIds full).mp member
    exact none node inside held

/-! ### The neighbourhood -/

theorem around_whole (unfocused : focus = "" ∨ ∀ node ∈ graph.nodes, ¬ node.Holds focus) :
    graph.around focus = graph := by
  unfold around
  by_cases empty : focus = ""
  · simp [empty]
  · have none := (focusIds_eq_nil empty).mpr (unfocused.resolve_left empty)
    simp [empty, none]

section

variable (full : focus ≠ "") (held : ∃ node ∈ graph.nodes, node.Holds focus)

include full held

theorem around_eq :
    graph.around focus =
      { graph with
        nodes := graph.nodes.filter fun node =>
          (graph.focusIds focus ++ (graph.edges.filter (graph.AtFocus focus ·)).flatMap fun edge =>
            [edge.source, edge.target]).contains node.id
        edges := graph.edges.filter (graph.AtFocus focus ·) } := by
  have some : graph.focusIds focus ≠ [] := by
    rw [Ne, focusIds_eq_nil full]
    obtain ⟨node, member, holds⟩ := held
    exact fun none => none node member holds
  have touching : (fun edge : Edge =>
      (graph.focusIds focus).contains edge.source || (graph.focusIds focus).contains edge.target) =
        fun edge => decide (graph.AtFocus focus edge) := by
    funext edge
    rw [Bool.eq_iff_iff, Bool.or_eq_true, List.contains_iff_mem, List.contains_iff_mem, mem_focusIds full,
      mem_focusIds full, decide_eq_true_iff, ← exists_or]
    refine exists_congr fun node => ?_
    unfold Edge.Ends
    rw [← and_or_left, ← and_or_left, eq_comm, @eq_comm _ node.id]
  unfold around
  simp only [if_neg full, List.isEmpty_iff, if_neg some, touching]

theorem around_edges : (graph.around focus).edges = graph.edges.filter (graph.AtFocus focus ·) := by
  rw [around_eq full held]

theorem around_nodes (distinct : (graph.nodes.map Node.id).Nodup) :
    (graph.around focus).nodes = graph.nodes.filter (graph.NearFocus focus ·) := by
  rw [around_eq full held]
  apply List.filter_congr
  intro node member
  rw [Bool.eq_iff_iff, List.contains_iff_mem, List.mem_append, mem_focusIds full, decide_eq_true_iff]
  refine or_congr ?_ ?_
  · constructor
    · rintro ⟨other, inside, holds, same⟩
      exact List.inj_on_of_nodup_map distinct inside member same ▸ holds
    · exact fun holds => ⟨node, member, holds, rfl⟩
  · simp only [List.mem_flatMap, List.mem_filter, decide_eq_true_iff, List.mem_cons, List.not_mem_nil, or_false,
      and_assoc, Edge.Ends, @eq_comm _ node.id]

/-- What is shown around a focus of a closed graph is its neighbourhood. -/
theorem around_isNeighbourhood (closed : graph.Closed) (distinct : (graph.nodes.map Node.id).Nodup) :
    graph.IsNeighbourhood focus (graph.around focus) := by
  have edges := around_edges full held
  have nodes := around_nodes full held distinct
  have shown : ∀ {edge node}, edge ∈ (graph.around focus).edges → node ∈ graph.nodes → edge.Ends node →
      node ∈ (graph.around focus).nodes := by
    intro edge node member inside ends
    rw [edges, List.mem_filter, decide_eq_true_iff] at member
    rw [nodes, List.mem_filter, decide_eq_true_iff]
    exact ⟨inside, Or.inr ⟨edge, member.1, member.2, ends⟩⟩
  refine ⟨edges, nodes, ?_, ?_, ?_⟩
  · rw [nodes]
    exact distinct.sublist (List.filter_sublist.map Node.id)
  · intro edge member
    have listed := member
    rw [edges, List.mem_filter] at listed
    obtain ⟨source, target⟩ := closed edge listed.1
    obtain ⟨first, firstInside, isSource⟩ := List.mem_map.mp source
    obtain ⟨last, lastInside, isTarget⟩ := List.mem_map.mp target
    constructor
    · exact List.mem_map.mpr ⟨first, shown member firstInside (Or.inl isSource.symm), isSource⟩
    · exact List.mem_map.mpr ⟨last, shown member lastInside (Or.inr isTarget.symm), isTarget⟩
  · intro node member unheld
    rw [nodes, List.mem_filter, decide_eq_true_iff] at member
    -- The edge that brings the node in has a node with the focus at its other end.
    obtain ⟨edge, inside, ⟨other, otherInside, holds, otherEnds⟩, ends⟩ := member.2.resolve_left unheld
    have listed : edge ∈ (graph.around focus).edges := by
      rw [edges, List.mem_filter, decide_eq_true_iff]
      exact ⟨inside, other, otherInside, holds, otherEnds⟩
    refine ⟨edge, listed, other, shown listed otherInside otherEnds, holds, ?_⟩
    have apart : node.id ≠ other.id := fun same =>
      unheld (List.inj_on_of_nodup_map distinct member.1 otherInside same ▸ holds)
    rcases ends with source | target <;> rcases otherEnds with otherSource | otherTarget
    · exact absurd (source.symm.trans otherSource) apart
    · exact Or.inl ⟨source, otherTarget⟩
    · exact Or.inr ⟨otherSource, target⟩
    · exact absurd (target.symm.trans otherTarget) apart

end

/-- What is shown of a closed graph whose nodes are told by their ids: around a focus that some node holds, just its
neighbourhood, and without such a focus the whole graph. -/
theorem around_exact (graph : Graph) (focus : String) (closed : graph.Closed)
    (distinct : (graph.nodes.map Node.id).Nodup) :
    (focus ≠ "" → (∃ node ∈ graph.nodes, node.Holds focus) →
      graph.IsNeighbourhood focus (graph.around focus)) ∧
    (focus = "" ∨ (∀ node ∈ graph.nodes, ¬ node.Holds focus) → graph.around focus = graph) :=
  ⟨fun full held => around_isNeighbourhood full held closed distinct, around_whole⟩

/-- A node that calls itself, is called twice by a neighbour and calls another; the two neighbours have an edge of their
own, and one of them has a neighbour far from the first node. -/
def calledTwice : Graph :=
  { analysis := "called"
    nodes :=
      [{ id := "near", analysis := "called", kind := .functionKind, name := "near", file := some "" },
        { id := "hub", analysis := "called", kind := .functionKind, name := "hub", file := some "core/hub.py" },
        { id := "far", analysis := "called", kind := .functionKind, name := "far" },
        { id := "next", analysis := "called", kind := .functionKind, name := "next", file := some "next.py" }]
    edges :=
      [{ id := "1", analysis := "called", source := "near", target := "hub", kind := .calls },
        { id := "2", analysis := "called", source := "far", target := "next", kind := .calls },
        { id := "3", analysis := "called", source := "hub", target := "hub", kind := .calls },
        { id := "4", analysis := "called", source := "near", target := "next", kind := .calls },
        { id := "5", analysis := "called", source := "near", target := "hub", kind := .calls },
        { id := "6", analysis := "called", source := "hub", target := "next", kind := .calls }] }

/-- Around the folder of the node are both neighbours, but neither their own edge nor what is beyond them. -/
theorem around_exact_calledTwice :
    calledTwice.Closed ∧ (calledTwice.nodes.map Node.id).Nodup ∧
      calledTwice.IsNeighbourhood "core" (calledTwice.around "core") ∧
      (calledTwice.around "core").nodes.map Node.id = ["near", "hub", "next"] ∧
      (calledTwice.around "core").edges.map Edge.id = ["1", "3", "5", "6"] := by
  have closed : calledTwice.Closed := by
    unfold Graph.Closed calledTwice
    simp
  have distinct : (calledTwice.nodes.map Node.id).Nodup := by decide
  have held : ∃ node ∈ calledTwice.nodes, node.Holds "core" := by decide
  exact ⟨closed, distinct, (around_exact calledTwice "core" closed distinct).1 (by decide) held, by decide, by decide⟩

end Graph

end ChangeImpact
