import ChangeImpact.Proofs.Preorder
import ChangeImpact.Proofs.References

/-!
Scopes by the text alone. The walk keeps a stack of open scopes, pushed when a node begins and popped when it ends. At
every moment the stack holds the scopes of the nodes that are still open, so that a call belongs to the nearest named
scope above it, and the scope that a node closes is its own.
-/

set_option autoImplicit false

namespace ChangeImpact

open ChangeImpact.Syntax (Tree Visit Event events eventsFrom preorder)

namespace Extraction.Dialect

variable {dialect : Dialect} {file : String}

/-- One step from scopes that fit: they fit what comes next, too. -/
theorem step_ok {visit : Visit} {found : List Reference} {scopes : List OpenScope} :
    (dialect.step file (dialect.scopesBefore (.enter visit)) (.enter visit) = .ok (found, scopes) →
      scopes = dialect.scopesBefore (.leave visit)) ∧
    (dialect.step file (dialect.scopesBefore (.leave visit)) (.leave visit) = .ok (found, scopes) →
      scopes = dialect.scopesBefore (.enter visit)) := by
  constructor
  · intro done
    rw [step_enter] at done
    cases made : dialect.referencesAt file visit with
    | error fault =>
        rw [made] at done
        cases done
    | ok references =>
        rw [made] at done
        cases done
        rfl
  · intro done
    rw [step_leave] at done
    cases done
    rfl

theorem follow_cons_ok {scopes now : List OpenScope} {event : Event} {rest : List Event} {found : List Reference}
    (done : dialect.follow file scopes (event :: rest) = .ok (found, now)) :
    ∃ made next later, dialect.step file scopes event = .ok (made, next) ∧
      dialect.follow file next rest = .ok (later, now) := by
  obtain ⟨⟨made, next⟩, stepped, remaining⟩ := Outcome.bind_ok done
  obtain ⟨⟨later, last⟩, followed, same⟩ := Outcome.bind_ok remaining
  cases same
  exact ⟨made, next, later, stepped, followed⟩

/-- Whatever part of the walk is done, the open scopes are those that the next event asks for. -/
theorem follow_before {pending : List Event} {scopes : List OpenScope} (balanced : dialect.Balanced pending scopes)
    {before after : List Event} {event : Event} (split : eventsFrom pending = before ++ event :: after)
    {found : List Reference} {now : List OpenScope} (done : dialect.follow file scopes before = .ok (found, now)) :
    now = dialect.scopesBefore event := by
  -- The part that is done grows from the left, so the scopes at its beginning are generalised with it.
  fun_induction eventsFrom pending generalizing scopes before found with
  | case1 => simp at split
  | case2 visit rest ih =>
      cases balanced with
      | enter later =>
          cases before with
          | nil =>
              cases split
              cases done
              rfl
          | cons first others =>
              obtain ⟨rfl, remaining⟩ := List.cons.inj split
              obtain ⟨_, next, _, stepped, followed⟩ := follow_cons_ok done
              cases step_ok.1 stepped
              exact ih later.inside remaining followed
  | case3 visit rest ih =>
      cases balanced with
      | leave later =>
          cases before with
          | nil =>
              cases split
              cases done
              rfl
          | cons first others =>
              obtain ⟨rfl, remaining⟩ := List.cons.inj split
              obtain ⟨_, next, _, stepped, followed⟩ := follow_cons_ok done
              cases step_ok.2 stepped
              exact ih later remaining followed

theorem head?_scopesBefore_leave {visit : Visit} {name : String} (opens : dialect.scopeName? visit.tree = some name) :
    (dialect.scopesBefore (.leave visit)).head? = some { place := visit.place, name } := by
  rw [scopesBefore, opened_of_some opens]
  rfl

theorem follow_events_end {tree : Tree} {found : List Reference} {scopes : List OpenScope}
    (done : dialect.follow file [] (events tree) = .ok (found, scopes)) : scopes = [] := by
  have followed : dialect.follow file [] (events tree) = _ := follow_eventsFrom (balanced_root tree)
  rw [followed] at done
  rcases gathered : (Syntax.preorderFrom ([Event.enter (Visit.root tree)].filterMap Event.entered?)).mapM
      (dialect.referencesAt file) with fault | rows
  · rw [gathered] at done
    cases done
  · rw [gathered] at done
    cases done
    rfl

end Extraction.Dialect

namespace Grammar

/-- The walk with a stack finds what the text says. The references of a tree are those of its nodes in preorder, calls
from the nearest scope above them. On the way the stack is always that of the nodes still open: when a node that has a
scope ends, this scope is the innermost one and is closed, and at the end of the tree none is left. -/
theorem references_lexical (grammar : Grammar) (file : String) (tree : Tree) :
    let dialect := grammar.dialect
    dialect.references file tree =
        ((tree.visits [] []).mapM (dialect.referencesAt file)).map List.flatten ∧
      (∀ visit made, dialect.referencesAt file visit = .ok made → ∀ reference ∈ made, reference.kind = .calls →
        reference.source = (visit.ancestors.findSome? dialect.scopeName?).getD file) ∧
      ((tree.visits [] []).map Visit.place).Nodup ∧
      (∀ before event after found scopes, events tree = before ++ event :: after →
        dialect.follow file [] before = .ok (found, scopes) →
        scopes = dialect.scopesBefore event ∧ ∀ visit, event = .leave visit →
          dialect.step file scopes event = .ok ([], dialect.scopesBefore (.enter visit)) ∧
          ∀ name, dialect.scopeName? visit.tree = some name →
            scopes.head? = some { place := visit.place, name }) ∧
      ∀ found scopes, dialect.follow file [] (events tree) = .ok (found, scopes) → scopes = [] := by
  intro dialect
  refine ⟨?_, ?_, Tree.places_nodup [] [] tree, ?_, fun _ _ => Extraction.Dialect.follow_events_end⟩
  · rw [← Syntax.preorder_eq]
    exact Extraction.Dialect.references_eq tree
  · intro visit made given reference member isCall
    exact source_of_call given member isCall
  · intro before event after found scopes split done
    cases Extraction.Dialect.follow_before (Extraction.Dialect.balanced_root tree) split done
    refine ⟨rfl, ?_⟩
    rintro visit rfl
    exact ⟨Extraction.Dialect.step_leave visit, fun name => Extraction.Dialect.head?_scopesBefore_leave⟩

end Grammar

end ChangeImpact
