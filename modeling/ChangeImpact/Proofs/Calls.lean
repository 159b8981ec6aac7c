import ChangeImpact.Proofs.Sources

/-!
The calls in the sources of a project, said of trees alone: a call is a node that makes a reference of that kind, and it
stands in the nearest scope above it. They are the calls that come out of the files.
-/

set_option autoImplicit false

namespace ChangeImpact

open ChangeImpact.Syntax (Tree Visit preorder)
open Extraction (Dialect)

def Extraction.Dialect.callsAt (dialect : Dialect) (file : String) (visit : Visit) : Bool :=
  (dialect.referencesAt file visit).toOption.any fun made => made.any fun reference => reference.kind == .calls

structure Call where
  file : String
  grammar : Grammar
  root : Tree
  visit : Visit

namespace Call

def scope (call : Call) : String := call.grammar.dialect.scopeAt call.file call.visit

def line (call : Call) : Nat := call.visit.tree.startLine

/-- The nodes of the file that declare a function or a class by the name of the scope. -/
def declaring (call : Call) : List Visit :=
  (preorder call.root).filter fun visit =>
    (call.grammar.proposals call.root visit).toOption.any fun proposal =>
      proposal.any fun declaration => declaration.name == call.scope &&
        (declaration.kind == .functionKind || declaration.kind == .classKind)

structure Makes (call : Call) (reference : Reference) : Prop where
  kind : reference.kind = .calls
  source : reference.source = call.scope
  line : reference.metadata.lookup "line" = some (.ofNat call.line)

theorem makes_of_mem {call : Call} {made : List Reference}
    (given : call.grammar.dialect.referencesAt call.file call.visit = .ok made) {reference : Reference}
    (member : reference ∈ made) (isCall : reference.kind = .calls) : call.Makes reference := by
  obtain ⟨_, here, _⟩ := call.grammar.dialect_isLocal.referencesAt given reference member
  exact ⟨isCall, Grammar.source_of_call given member isCall, here.line⟩

end Call

namespace Sources

/-- The calls in a file of a project whose tree can be read. -/
def calls (table : LanguageTable) (workspace : Workspace) (project file : String) : List Call :=
  match tree? table workspace project file with
  | none => []
  | some (grammar, root) =>
      if (Extraction.ofTree grammar file root).isOk then
        ((preorder root).filter (grammar.dialect.callsAt file)).map fun visit => { file, grammar, root, visit }
      else []

variable {table : LanguageTable} {workspace : Workspace} {project file : String}

theorem mem_calls {call : Call} :
    call ∈ calls table workspace project file ↔
      call.file = file ∧ tree? table workspace project file = some (call.grammar, call.root) ∧
        (Extraction.ofTree call.grammar file call.root).isOk = true ∧
        call.visit ∈ preorder call.root ∧ call.grammar.dialect.callsAt file call.visit = true := by
  unfold calls
  rcases tree? table workspace project file with _ | ⟨grammar, root⟩
  · constructor
    · intro member
      cases member
    · rintro ⟨_, grown, _⟩
      cases grown
  · dsimp only
    constructor
    · intro member
      split at member
      · rename_i readable
        obtain ⟨visit, found, rfl⟩ := List.mem_map.mp member
        obtain ⟨visited, isCall⟩ := List.mem_filter.mp found
        exact ⟨rfl, rfl, readable, visited, isCall⟩
      · cases member
    · rintro ⟨rfl, grown, readable, visited, isCall⟩
      cases grown
      rw [if_pos readable]
      exact List.mem_map.mpr ⟨call.visit, List.mem_filter.mpr ⟨visited, isCall⟩, rfl⟩

variable {extraction : Extraction} (done : extractFile (.ofTable table) workspace project file = .ok extraction)

include done

theorem exists_call {reference : Reference} (member : reference ∈ extraction.references)
    (isCall : reference.kind = .calls) :
    ∃ call ∈ calls table workspace project file, call.Makes reference := by
  rcases extractFile_cases done with ⟨_, nothing⟩ | ⟨grammar, root, grown, read⟩
  · rw [nothing] at member
    cases member
  · have refers := (Extraction.ofTree_done read).2
    obtain ⟨visit, visited, made, given, inRow⟩ := (Dialect.mem_references refers).mp member
    have calling : grammar.dialect.callsAt file visit = true := by
      unfold Dialect.callsAt
      rw [given]
      exact List.any_eq_true.mpr ⟨reference, inRow, beq_iff_eq.mpr isCall⟩
    have readable : (Extraction.ofTree grammar file root).isOk = true := by
      rw [read]
      rfl
    exact ⟨{ file, grammar, root, visit }, mem_calls.mpr ⟨rfl, grown, readable, visited, calling⟩,
      Call.makes_of_mem given inRow isCall⟩

theorem exists_reference {call : Call} (member : call ∈ calls table workspace project file) :
    ∃ reference ∈ extraction.references, call.Makes reference := by
  obtain ⟨rfl, grown, readable, visited, calling⟩ := mem_calls.mp member
  have refers := (Extraction.ofTree_done (extractFile_of_tree done grown readable)).2
  unfold Dialect.callsAt at calling
  rcases given : call.grammar.dialect.referencesAt call.file call.visit with fault | made
  · rw [given] at calling
    cases calling
  · rw [given] at calling
    obtain ⟨reference, inRow, isCall⟩ := List.any_eq_true.mp calling
    have member : reference ∈ extraction.references :=
      (Dialect.mem_references refers).mpr ⟨call.visit, visited, made, given, inRow⟩
    exact ⟨reference, member, Call.makes_of_mem given inRow (beq_iff_eq.mp isCall)⟩

/-- A function or class by the name of a call's scope that comes out of its file has the lines of a node that declares
it. -/
theorem exists_declaring {call : Call} (member : call ∈ calls table workspace project file)
    {declaration : Declaration} (declared : declaration ∈ extraction.declarations)
    (named : declaration.name = call.scope)
    (kind : declaration.kind = .functionKind ∨ declaration.kind = .classKind) :
    ∃ visit ∈ call.declaring, declaration.lineStart = .ofNat visit.tree.startLine ∧
      declaration.lineEnd = .ofNat visit.tree.endLine := by
  obtain ⟨rfl, grown, readable, _, _⟩ := mem_calls.mp member
  have declares := (Extraction.ofTree_done (extractFile_of_tree done grown readable)).1
  rcases Grammar.declarations_proposedIn declares declaration declared with
    isModule | ⟨visit, visited, proposal, made, original, listed, same⟩
  · rw [isModule] at kind
    exact absurd kind (by decide)
  · have proposed := Grammar.proposals_proposedAt made original listed
    refine ⟨visit, List.mem_filter.mpr ⟨visited, ?_⟩, same.first.trans proposed.first, same.last.trans proposed.last⟩
    rw [made]
    refine List.any_eq_true.mpr ⟨original, listed, ?_⟩
    rw [← same.name, ← same.kind, named, beq_self_eq_true, Bool.true_and, Bool.or_eq_true, beq_iff_eq, beq_iff_eq]
    exact kind

end Sources

end ChangeImpact
