import ChangeImpact.Extraction.Basic

/-!
References of a file, found on one walk through its tree. The open scopes are kept on a stack, the innermost first;
a reference belongs to the innermost open scope, or to the file when none is open.
-/

set_option autoImplicit false

namespace ChangeImpact.Extraction

open ChangeImpact.Syntax (Tree Event events)

/-- A scope that is open: the place of the node that opened it, and its name. -/
structure OpenScope where
  place : List Nat
  name : String
  deriving DecidableEq, Repr

/-- How a language nests scopes and where it refers to names. -/
structure Dialect where
  /-- The name of the scope that a node opens. -/
  scopeName? : Tree → Option String
  /-- References that a scope makes by being opened. -/
  scopeReferences : (name : String) → Tree → Except Fault (List Reference)
  /-- References of a node that opens no scope, in a file and in a scope. -/
  nodeReferences : (file current : String) → Tree → Except Fault (List Reference)
  /-- What stays open when a node ends that opens a scope. -/
  close : (place : List Nat) → List OpenScope → Except Fault (List OpenScope)
  /-- A node whose own scope is the innermost one closes it, and no other. -/
  close_own : ∀ place name outer, close place ({ place, name } :: outer) = .ok outer

def currentScope (file : String) (scopes : List OpenScope) : String :=
  (scopes.head?.map OpenScope.name).getD file

/-- One event: the references it makes and the scopes that are open after it. -/
def Dialect.step (dialect : Dialect) (file : String) (scopes : List OpenScope) :
    Event → Except Fault (List Reference × List OpenScope)
  | .enter visit =>
      match dialect.scopeName? visit.tree with
      | some name => do
          let found ← dialect.scopeReferences name visit.tree
          .ok (found, { place := visit.place, name } :: scopes)
      | none => do
          let found ← dialect.nodeReferences file (currentScope file scopes) visit.tree
          .ok (found, scopes)
  | .leave visit =>
      match dialect.scopeName? visit.tree with
      | some _ => do .ok ([], ← dialect.close visit.place scopes)
      | none => .ok ([], scopes)

def Dialect.follow (dialect : Dialect) (file : String) :
    List OpenScope → List Event → Except Fault (List Reference × List OpenScope)
  | scopes, [] => .ok ([], scopes)
  | scopes, event :: rest => do
      let (found, next) ← dialect.step file scopes event
      let (more, last) ← dialect.follow file next rest
      .ok (found ++ more, last)

def Dialect.references (dialect : Dialect) (file : String) (tree : Tree) :
    Except Fault (List Reference) := do
  let (found, _) ← dialect.follow file [] (events tree)
  .ok found

end ChangeImpact.Extraction
