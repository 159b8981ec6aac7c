import ChangeImpact.Extraction.PythonDeclarations
import ChangeImpact.Proofs.Walk
import Mathlib.Algebra.BigOperators.Group.Multiset.Basic
import Mathlib.Logic.Relation

/-!
Which functions are generators. A body makes one if a yield stands in it that belongs to no definition inside the body.
The search for one keeps a stack of trees; in whatever order it took them up, it would end, and with the same answer.
-/

set_option autoImplicit false

namespace ChangeImpact.Extraction.Python

open ChangeImpact.Syntax (Tree Visit)

/-- A tree with a yield that belongs to what is around the tree: it is one, or it is no definition of its own and one of
its children is such a tree. -/
inductive Yields : Tree → Prop
  | self {tree : Tree} (isYield : tree.kind = "yield") : Yields tree
  | child {tree child : Tree} (plain : tree.kind ∉ nestedKinds) (member : child ∈ tree.children)
      (inside : Yields child) : Yields tree

theorem not_yields_of_nested {tree : Tree} (other : tree.kind ≠ "yield") (nested : tree.kind ∈ nestedKinds) :
    ¬Yields tree := by
  rintro (isYield | ⟨plain, _, _⟩)
  · exact other isYield
  · exact plain nested

theorem yields_iff_of_plain {tree : Tree} (other : tree.kind ≠ "yield") (plain : tree.kind ∉ nestedKinds) :
    Yields tree ↔ ∃ child ∈ tree.children, Yields child := by
  constructor
  · rintro (isYield | ⟨_, member, inside⟩)
    · exact absurd isYield other
    · exact ⟨_, member, inside⟩
  · rintro ⟨child, member, inside⟩
    exact Yields.child plain member inside

/-! ### Searches in any order -/

namespace YieldSearch

/-- One turn of a search that takes up any of the pending trees and does not end with it: a definition is passed by, and
the children of any other tree are pending from then on. -/
inductive Turn : Multiset Tree → Multiset Tree → Prop
  | pass {tree : Tree} {rest : Multiset Tree} (other : tree.kind ≠ "yield") (nested : tree.kind ∈ nestedKinds) :
      Turn (tree ::ₘ rest) rest
  | enter {tree : Tree} {rest : Multiset Tree} (other : tree.kind ≠ "yield") (plain : tree.kind ∉ nestedKinds) :
      Turn (tree ::ₘ rest) (tree.children + rest)

/-- A search ends where it takes up a yield, and where nothing is pending. -/
inductive Ends : Multiset Tree → Bool → Prop
  | found {tree : Tree} {rest : Multiset Tree} (isYield : tree.kind = "yield") : Ends (tree ::ₘ rest) true
  | empty : Ends 0 false

/-- The answers of the searches that begin with pending trees, in whatever order they take them up. -/
def Answers (pending : Multiset Tree) (answer : Bool) : Prop :=
  ∃ last, Relation.ReflTransGen Turn pending last ∧ Ends last answer

def Holds (pending : Multiset Tree) : Prop := ∃ tree ∈ pending, Yields tree

variable {pending next last rest : Multiset Tree} {tree : Tree} {answer : Bool}

theorem holds_cons : Holds (tree ::ₘ rest) ↔ Yields tree ∨ Holds rest := by
  unfold Holds
  simp only [Multiset.mem_cons, or_and_right, exists_or, exists_eq_left]

theorem holds_add : Holds (pending + rest) ↔ Holds pending ∨ Holds rest := by
  unfold Holds
  simp only [Multiset.mem_add, or_and_right, exists_or]

/-- No turn loses a yield, and none comes upon one that was not there. -/
theorem Turn.holds_iff (turn : Turn pending next) : Holds next ↔ Holds pending := by
  cases turn with
  | pass other nested => rw [holds_cons, or_iff_right (not_yields_of_nested other nested)]
  | enter other plain =>
      rw [holds_cons, holds_add, yields_iff_of_plain other plain]
      rfl

theorem holds_iff_of_turns (turns : Relation.ReflTransGen Turn pending last) : Holds last ↔ Holds pending := by
  induction turns with
  | refl => exact Iff.rfl
  | tail _ turn ih => exact turn.holds_iff.trans ih

theorem Ends.holds_iff (ends : Ends pending answer) : answer = true ↔ Holds pending := by
  cases ends with
  | found isYield => exact iff_of_true rfl (holds_cons.mpr (Or.inl (Yields.self isYield)))
  | empty =>
      refine iff_of_false Bool.false_ne_true ?_
      rintro ⟨tree, member, _⟩
      exact Multiset.notMem_zero tree member

/-- Every search that ends tells whether there was something to find. -/
theorem Answers.holds_iff (answers : Answers pending answer) : answer = true ↔ Holds pending := by
  obtain ⟨last, turns, ends⟩ := answers
  exact ends.holds_iff.trans (holds_iff_of_turns turns)

theorem Answers.unique {other : Bool} (one : Answers pending answer) (two : Answers pending other) : answer = other :=
  Bool.eq_iff_iff.mpr (one.holds_iff.trans two.holds_iff.symm)

theorem Answers.of_turn (turn : Turn pending next) (later : Answers next answer) : Answers pending answer := by
  obtain ⟨last, turns, ends⟩ := later
  exact ⟨last, turns.head turn, ends⟩

def load (pending : Multiset Tree) : Nat := (pending.map Tree.size).sum

theorem load_coe (trees : List Tree) : load trees = Tree.sizes trees := by
  induction trees with
  | nil => rfl
  | cons head tail ih =>
      unfold load at ih ⊢
      rw [← Multiset.cons_coe, Multiset.map_cons, Multiset.sum_cons, ih, Tree.sizes]

theorem Turn.load_lt (turn : Turn pending next) : load next < load pending := by
  cases turn with
  | @pass tree rest _ _ =>
      have positive := tree.size_pos
      unfold load
      rw [Multiset.map_cons, Multiset.sum_cons]
      omega
  | @enter tree rest _ _ =>
      have children := load_coe tree.children
      have whole := tree.size_eq
      unfold load at children ⊢
      rw [Multiset.map_add, Multiset.sum_add, Multiset.map_cons, Multiset.sum_cons]
      omega

/-- No search goes on for ever. -/
theorem turn_wellFounded : WellFounded fun next pending => Turn pending next :=
  Subrelation.wf Turn.load_lt (measure load).wf

/-- To take up the trees of a stack from its top is one of the orders. -/
theorem yieldAmong_answers (stack : List Tree) : Answers stack (yieldAmong stack) := by
  fun_induction yieldAmong stack with
  | case1 => exact ⟨0, Relation.ReflTransGen.refl, Ends.empty⟩
  | case2 tree rest isYield =>
      rw [← Multiset.cons_coe]
      exact ⟨_, Relation.ReflTransGen.refl, Ends.found isYield⟩
  | case3 tree rest other nested ih =>
      rw [← Multiset.cons_coe]
      exact ih.of_turn (Turn.pass other (List.contains_iff_mem.mp nested))
  | case4 tree rest other plain ih =>
      -- The children go on the stack in reverse, and a multiset does not tell.
      rw [← Multiset.coe_add, Multiset.coe_reverse] at ih
      rw [← Multiset.cons_coe]
      exact ih.of_turn (Turn.enter other fun nested => plain (List.contains_iff_mem.mpr nested))

theorem answers_iff (body : Tree) : Answers body.children answer ↔ answer = containsYield (some body) := by
  have own : Answers body.children (containsYield (some body)) := by
    have searched := yieldAmong_answers body.children.reverse
    rwa [Multiset.coe_reverse] at searched
  constructor
  · exact fun answers => answers.unique own
  · rintro rfl
    exact own

end YieldSearch

/-! ### Yields by the nodes above them -/

/-- A node below the root of its tree with no definition between the root, which is the last of those above it, and the
node itself. -/
def InReach (visit : Visit) : Prop :=
  visit.ancestors ≠ [] ∧ ∀ between ∈ visit.ancestors.dropLast, between.kind ∉ nestedKinds

theorem inReach_child {visit child : Visit} (member : child ∈ visit.children) :
    InReach child ↔ visit.ancestors = [] ∨ InReach visit ∧ visit.tree.kind ∉ nestedKinds := by
  unfold InReach
  rw [(Syntax.Visit.of_mem_children member).2.1]
  -- Below the root nothing stands between; further down the node above is added to what did.
  by_cases top : visit.ancestors = []
  · simp [top]
  · simp [top, List.dropLast_cons_of_ne_nil top, and_comm]

variable {body : Tree}

/-- A yield that a node in reach has for what is around it is a yield in reach. -/
theorem exists_inReach_of_yields {tree : Tree} (yields : Yields tree) {visit : Visit} (here : Visit.Of body visit)
    (same : visit.tree = tree) (inReach : InReach visit) :
    ∃ found, Visit.Of body found ∧ InReach found ∧ found.tree.kind = "yield" := by
  induction yields generalizing visit with
  | self isYield => exact ⟨visit, here, inReach, same ▸ isYield⟩
  | child plain member _ ih =>
      subst same
      obtain ⟨next, listed, holds⟩ := Syntax.Visit.exists_child member
      exact ih (Visit.Of.child here listed) holds ((inReach_child listed).mpr (Or.inr ⟨inReach, plain⟩))

/-- What a node in reach has for what is around it, a child of the root has, too. -/
theorem exists_child_of_inReach {visit : Visit} (here : Visit.Of body visit) (inReach : InReach visit)
    (yields : Yields visit.tree) : ∃ child ∈ body.children, Yields child := by
  -- From the node up: what it has, the node above it has, until the one above is the root.
  induction here with
  | root => exact absurd rfl inReach.1
  | child parent member ih =>
      have listed := (Syntax.Visit.of_mem_children member).1
      rcases (inReach_child member).mp inReach with top | ⟨above, plain⟩
      · rw [parent.eq_root top] at listed
        exact ⟨_, listed, yields⟩
      · exact ih above (Yields.child plain listed yields)

theorem exists_child_yields_iff :
    (∃ child ∈ body.children, Yields child) ↔
      ∃ visit, Visit.Of body visit ∧ InReach visit ∧ visit.tree.kind = "yield" := by
  constructor
  · rintro ⟨child, member, yields⟩
    have below : child ∈ (Visit.root body).tree.children := member
    obtain ⟨visit, listed, same⟩ := Syntax.Visit.exists_child below
    exact exists_inReach_of_yields yields (Visit.Of.child Visit.Of.root listed) same
      ((inReach_child listed).mpr (Or.inl rfl))
  · rintro ⟨visit, here, inReach, isYield⟩
    exact exists_child_of_inReach here inReach (Yields.self isYield)

/-- A body is that of a generator just if a yield stands in it, at any depth, with no function, class, lambda or
decorated definition between the body and the yield. Every search for one ends, and in whatever order it takes up the
nodes, its answer is this one. -/
theorem generators_respect_scopes (body : Tree) :
    (containsYield (some body) = true ↔
        ∃ visit, Visit.Of body visit ∧ visit ≠ Visit.root body ∧ visit.tree.kind = "yield" ∧
          ∀ between ∈ visit.ancestors.dropLast,
            between.kind ∉ ["function_definition", "class_definition", "lambda", "decorated_definition"]) ∧
      (∀ answer, YieldSearch.Answers body.children answer ↔ answer = containsYield (some body)) ∧
      Acc (fun next pending => YieldSearch.Turn pending next) (body.children : Multiset Tree) := by
  refine ⟨?_, fun answer => YieldSearch.answers_iff body, YieldSearch.turn_wellFounded.apply _⟩
  have own := (YieldSearch.answers_iff body).mpr rfl
  refine (own.holds_iff.trans exists_child_yields_iff).trans (exists_congr fun visit => ?_)
  constructor
  · rintro ⟨here, ⟨proper, free⟩, isYield⟩
    refine ⟨here, ?_, isYield, free⟩
    rintro rfl
    exact proper rfl
  · rintro ⟨here, proper, isYield, free⟩
    exact ⟨here, ⟨fun top => proper (here.eq_root top), free⟩, isYield⟩

end ChangeImpact.Extraction.Python
