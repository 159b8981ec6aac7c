import ChangeImpact.Extraction.Scope
import ChangeImpact.Proofs.Outcome
import ChangeImpact.Proofs.Walk

/-!
The walk with a stack of open scopes, said without the stack: when a node begins, the open scopes are those of the nodes
above it, and when it ends, its own has been added. So each node refers to names from the nearest scope around it.
-/

set_option autoImplicit false

namespace ChangeImpact.Extraction.Dialect

open ChangeImpact.Syntax (Tree Visit Event events preorder preorderFrom eventsFrom)

/-- The scopes that a row of nodes opens, each node above the one before it; the first node stands at the place. -/
def opened (dialect : Dialect) : List Tree → List Nat → List OpenScope
  | [], _ => []
  | tree :: above, place =>
      match dialect.scopeName? tree with
      | some name => { place, name } :: dialect.opened above place.tail
      | none => dialect.opened above place.tail

/-- The scopes that are to be open before an event: those of the nodes above, and at the end of a node also its own. -/
def scopesBefore (dialect : Dialect) : Event → List OpenScope
  | .enter visit => dialect.opened visit.ancestors visit.place.tail
  | .leave visit => dialect.opened (visit.tree :: visit.ancestors) visit.place

def scopeAt (dialect : Dialect) (file : String) (visit : Visit) : String :=
  (visit.ancestors.findSome? dialect.scopeName?).getD file

def referencesAt (dialect : Dialect) (file : String) (visit : Visit) : Except Fault (List Reference) :=
  match dialect.scopeName? visit.tree with
  | some name => dialect.scopeReferences name visit.tree
  | none => dialect.nodeReferences file (dialect.scopeAt file visit) visit.tree

/-- The open scopes fit the events to come, and at the last event all are closed. -/
inductive Balanced (dialect : Dialect) : List Event → List OpenScope → Prop
  | nil : Balanced dialect [] []
  | enter {visit : Visit} {rest : List Event} (later : Balanced dialect rest (dialect.scopesBefore (.enter visit))) :
      Balanced dialect (.enter visit :: rest) (dialect.scopesBefore (.enter visit))
  | leave {visit : Visit} {rest : List Event} (later : Balanced dialect rest (dialect.scopesBefore (.enter visit))) :
      Balanced dialect (.leave visit :: rest) (dialect.scopesBefore (.leave visit))

variable {dialect : Dialect} {file : String}

theorem opened_of_some {tree : Tree} {name : String} (opens : dialect.scopeName? tree = some name) (above : List Tree)
    (place : List Nat) :
    dialect.opened (tree :: above) place = { place, name } :: dialect.opened above place.tail := by
  rw [opened, opens]

theorem opened_of_none {tree : Tree} (opens : dialect.scopeName? tree = none) (above : List Tree) (place : List Nat) :
    dialect.opened (tree :: above) place = dialect.opened above place.tail := by
  rw [opened, opens]

theorem head?_opened (above : List Tree) (place : List Nat) :
    (dialect.opened above place).head?.map OpenScope.name = above.findSome? dialect.scopeName? := by
  induction above generalizing place with
  | nil => rfl
  | cons tree above ih =>
      cases opens : dialect.scopeName? tree with
      | some name => rw [opened_of_some opens, List.findSome?_cons, opens]; rfl
      | none => rw [opened_of_none opens, ih, List.findSome?_cons, opens]

theorem currentScope_scopesBefore (visit : Visit) :
    currentScope file (dialect.scopesBefore (.enter visit)) = dialect.scopeAt file visit := by
  unfold currentScope scopesBefore scopeAt
  rw [head?_opened]

/-- Once a node has begun, the events up to its end fit its scope, and then the outer scopes are back. -/
theorem Balanced.inside {visit : Visit} {rest : List Event}
    (later : dialect.Balanced rest (dialect.scopesBefore (.enter visit))) :
    dialect.Balanced (Event.inside visit ++ rest) (dialect.scopesBefore (.leave visit)) := by
  have among : ∀ visits : List Visit, (∀ child ∈ visits, child ∈ visit.children) →
      dialect.Balanced (visits.map .enter ++ .leave visit :: rest) (dialect.scopesBefore (.leave visit)) := by
    intro visits below
    induction visits with
    | nil => exact Balanced.leave later
    | cons child others ih =>
        obtain ⟨here, elsewhere⟩ := List.forall_mem_cons.mp below
        obtain ⟨_, above, place⟩ := Visit.of_mem_children here
        have same : dialect.scopesBefore (.enter child) = dialect.scopesBefore (.leave visit) := by
          simp only [scopesBefore, above, place]
        have remaining := ih elsewhere
        rw [← same] at remaining ⊢
        exact Balanced.enter remaining
  unfold Event.inside
  rw [List.append_assoc]
  exact among visit.children fun _ member => member

theorem step_enter (visit : Visit) :
    dialect.step file (dialect.scopesBefore (.enter visit)) (.enter visit) =
      (dialect.referencesAt file visit).map fun found => (found, dialect.scopesBefore (.leave visit)) := by
  unfold step referencesAt
  dsimp only
  cases opens : dialect.scopeName? visit.tree with
  | some name =>
      have inner : dialect.scopesBefore (.leave visit) =
          { place := visit.place, name } :: dialect.scopesBefore (.enter visit) := opened_of_some opens _ _
      rw [inner]
      cases dialect.scopeReferences name visit.tree <;> rfl
  | none =>
      have same : dialect.scopesBefore (.leave visit) = dialect.scopesBefore (.enter visit) := opened_of_none opens _ _
      rw [same, currentScope_scopesBefore]
      cases dialect.nodeReferences file (dialect.scopeAt file visit) visit.tree <;> rfl

theorem step_leave (visit : Visit) :
    dialect.step file (dialect.scopesBefore (.leave visit)) (.leave visit) =
      .ok ([], dialect.scopesBefore (.enter visit)) := by
  unfold step
  dsimp only
  cases opens : dialect.scopeName? visit.tree with
  | some name =>
      have inner : dialect.scopesBefore (.leave visit) =
          { place := visit.place, name } :: dialect.scopesBefore (.enter visit) := opened_of_some opens _ _
      dsimp only
      rw [inner, dialect.close_own]
      rfl
  | none =>
      have same : dialect.scopesBefore (.leave visit) = dialect.scopesBefore (.enter visit) := opened_of_none opens _ _
      rw [same]

/-- References found at one node come before those found later, whether the later ones are gathered in one row or node
by node. -/
private theorem joined (found : List Reference) (others : Except Fault (List (List Reference))) :
    ((others.map fun rows => (rows.flatten, ([] : List OpenScope))) >>= fun result =>
        .ok (found ++ result.1, result.2)) =
      (others >>= fun rows => pure (found :: rows)).map fun rows => (rows.flatten, []) := by
  cases others <;> rfl

/-- From scopes that fit the events to come, the walk makes the references of the nodes to come, each where it stands,
and ends with no scope open. -/
theorem follow_eventsFrom {pending : List Event} {scopes : List OpenScope} (balanced : dialect.Balanced pending scopes) :
    dialect.follow file scopes (eventsFrom pending) =
      ((preorderFrom (pending.filterMap Event.entered?)).mapM (dialect.referencesAt file)).map
        fun rows => (rows.flatten, []) := by
  -- The open scopes change with the events, so they are generalised; what ties them to the rest is the balance.
  fun_induction eventsFrom pending generalizing scopes with
  | case1 =>
      cases balanced
      rw [List.filterMap_nil, preorderFrom]
      rfl
  | case2 visit rest ih =>
      cases balanced with
      | enter later =>
          have remaining := ih later.inside
          rw [List.filterMap_append, Event.entered_inside] at remaining
          have begins : Event.entered? (.enter visit) = some visit := rfl
          rw [List.filterMap_cons_some begins, preorderFrom, List.mapM_cons, follow, step_enter]
          cases dialect.referencesAt file visit with
          | error fault => rfl
          | ok found =>
              refine Eq.trans ?_ (joined found _)
              rw [← remaining]
              rfl
  | case3 visit rest ih =>
      cases balanced with
      | leave later =>
          have ends : Event.entered? (.leave visit) = none := rfl
          rw [List.filterMap_cons_none ends, follow, step_leave, ← ih later]
          change (dialect.follow file _ (eventsFrom rest) >>= fun result => .ok ([] ++ result.1, result.2)) = _
          cases dialect.follow file (dialect.scopesBefore (.enter visit)) (eventsFrom rest) <;> rfl

theorem balanced_root (tree : Tree) : dialect.Balanced [.enter (Visit.root tree)] [] :=
  @Balanced.enter dialect (Visit.root tree) [] Balanced.nil

/-- The references of a tree are those of its nodes, each from the scope that it stands in. -/
theorem references_eq (tree : Tree) :
    dialect.references file tree =
      ((preorder tree).mapM (dialect.referencesAt file)).map List.flatten := by
  have followed : dialect.follow file [] (events tree) = _ := follow_eventsFrom (balanced_root tree)
  have begins : [Event.enter (Visit.root tree)].filterMap Event.entered? = [Visit.root tree] := rfl
  rw [begins] at followed
  unfold references preorder
  rw [followed]
  cases (preorderFrom [Visit.root tree]).mapM (dialect.referencesAt file) <;> rfl

theorem mem_references {tree : Tree} {found : List Reference} (done : dialect.references file tree = .ok found)
    {reference : Reference} :
    reference ∈ found ↔
      ∃ visit ∈ preorder tree, ∃ made, dialect.referencesAt file visit = .ok made ∧ reference ∈ made := by
  rw [references_eq] at done
  rcases gathered : (preorder tree).mapM (dialect.referencesAt file) with fault | rows
  · rw [gathered] at done
    cases done
  · rw [gathered] at done
    cases done
    have each := Outcome.mapM_ok gathered
    constructor
    · intro member
      obtain ⟨made, listed, inRow⟩ := List.mem_flatten.mp member
      obtain ⟨visit, visited, given⟩ := Outcome.exists_item each listed
      exact ⟨visit, visited, made, given, inRow⟩
    · rintro ⟨visit, visited, made, given, inRow⟩
      obtain ⟨row, listed, same⟩ := Outcome.exists_result each visited
      cases given.symm.trans same
      exact List.mem_flatten.mpr ⟨made, listed, inRow⟩

/-- A tree whose references are found has them found at every node. -/
theorem exists_referencesAt {tree : Tree} {found : List Reference} (done : dialect.references file tree = .ok found)
    {visit : Visit} (visited : visit ∈ preorder tree) : ∃ made, dialect.referencesAt file visit = .ok made := by
  rw [references_eq] at done
  rcases gathered : (preorder tree).mapM (dialect.referencesAt file) with fault | rows
  · rw [gathered] at done
    cases done
  · obtain ⟨made, _, given⟩ := Outcome.exists_result (Outcome.mapM_ok gathered) visited
    exact ⟨made, given⟩

/-- A node stands in the file or in a scope that another node opens. -/
theorem scopeAt_cases {tree : Tree} {visit : Visit} (visited : visit ∈ preorder tree) :
    dialect.scopeAt file visit = file ∨
      ∃ above ∈ preorder tree, dialect.scopeName? above.tree = some (dialect.scopeAt file visit) := by
  unfold scopeAt
  cases nearest : visit.ancestors.findSome? dialect.scopeName? with
  | none => exact Or.inl rfl
  | some name =>
      obtain ⟨outer, listed, opens⟩ := List.exists_of_findSome?_eq_some nearest
      obtain ⟨above, belongs, rfl⟩ := (Syntax.mem_preorder_iff.mp visited).exists_above outer listed
      exact Or.inr ⟨above, Syntax.mem_preorder_iff.mpr belongs, opens⟩

end ChangeImpact.Extraction.Dialect
