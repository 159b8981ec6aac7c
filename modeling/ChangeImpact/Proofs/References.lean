import ChangeImpact.Language
import ChangeImpact.Proofs.Declarations
import ChangeImpact.Proofs.Scopes
import ChangeImpact.Resolution

/-!
Where references come from. The walk opens a scope only at a node that also proposes a declaration of the scope's
name, so each reference starts from something that its file declares.
-/

set_option autoImplicit false

namespace ChangeImpact.Extraction

open ChangeImpact.Syntax (Tree Visit Event events preorder)
open Declaration (Declares)

/-! ### The references of a node -/

def referenceKinds : List EdgeKind := [.imports, .calls, .inherits, .implements]

/-- What a reference looks like that a node on a line makes in a scope of a file. It starts from the file or from the
scope, and from the scope if it is a call; nothing marks it as pointing nowhere. -/
structure MadeIn (file current : String) (line : Nat) (reference : Reference) : Prop where
  known : reference.kind ∈ referenceKinds
  source : reference.source = file ∨ reference.source = current
  calls : reference.kind = .calls → reference.source = current
  line : reference.metadata.lookup "line" = some (.ofNat line)
  unmarked : "unresolvedTarget" ∉ reference.metadata.map Prod.fst

/-- A language whose references are all made in the scope they stand in, and in which opening a scope is no call. -/
structure Dialect.IsLocal (dialect : Dialect) : Prop where
  scope : ∀ {tree name found} (file : String), dialect.scopeReferences name tree = .ok found →
    ∀ reference ∈ found, MadeIn file name tree.startLine reference ∧ reference.kind ≠ .calls
  node : ∀ {tree file current found}, dialect.nodeReferences file current tree = .ok found →
    ∀ reference ∈ found, MadeIn file current tree.startLine reference

/-- A node makes its references in the scope that it opens, or in the one that it stands in, and calls in the latter. -/
theorem Dialect.IsLocal.referencesAt {dialect : Dialect} (isLocal : dialect.IsLocal) {file : String} {visit : Visit}
    {made : List Reference} (done : dialect.referencesAt file visit = .ok made) :
    ∀ reference ∈ made, ∃ current, MadeIn file current visit.tree.startLine reference ∧
      (dialect.scopeName? visit.tree = some current ∧ reference.kind ≠ .calls ∨
        current = dialect.scopeAt file visit) := by
  intro reference member
  unfold Dialect.referencesAt at done
  cases opens : dialect.scopeName? visit.tree with
  | some name =>
      rw [opens] at done
      obtain ⟨here, noCall⟩ := isLocal.scope file done reference member
      exact ⟨name, here, Or.inl ⟨rfl, noCall⟩⟩
  | none =>
      rw [opens] at done
      exact ⟨_, isLocal.node done reference member, Or.inr rfl⟩

def DeclaresSource (declarations : List Declaration) (name : String) : Prop :=
  ∃ declaration ∈ declarations, declaration.name = name ∧
    declaration.kind ∈ Resolution.sourceKinds

theorem module_mem_sourceKinds : NodeKind.moduleKind ∈ Resolution.sourceKinds := by decide

theorem class_mem_sourceKinds : NodeKind.classKind ∈ Resolution.sourceKinds := by decide

theorem function_mem_sourceKinds : NodeKind.functionKind ∈ Resolution.sourceKinds := by decide

section

variable {file current target : String} {line : Nat} {kind : EdgeKind}

theorem madeIn_scope (known : kind ∈ referenceKinds) :
    MadeIn file current line { source := current, target, kind, metadata := onLine line } :=
  ⟨known, Or.inr rfl, fun _ => rfl, List.lookup_cons_self, by simp [onLine]⟩

theorem madeIn_file (known : kind ∈ referenceKinds ∧ kind ≠ .calls) :
    MadeIn file current line { source := file, target, kind, metadata := onLine line } :=
  ⟨known.1, Or.inl rfl, fun isCall => absurd isCall known.2, List.lookup_cons_self, by simp [onLine]⟩

end

/-! ### Python -/

namespace Python

theorem dialect_isLocal : dialect.IsLocal := by
  constructor
  · intro tree name found file made
    change scopeReferences name tree = .ok found at made
    unfold scopeReferences at made
    split at made
    · obtain ⟨bases, _, same⟩ := Outcome.bind_ok made
      cases same
      intro reference member
      obtain ⟨base, _, rfl⟩ := List.mem_map.mp member
      exact ⟨madeIn_scope (by decide), (by decide : EdgeKind.inherits ≠ .calls)⟩
    · cases made
      exact List.forall_mem_nil _
  · intro tree file current found made
    change nodeReferences file current tree = .ok found at made
    unfold nodeReferences at made
    split at made
    · split at made
      · cases made
        exact List.forall_mem_nil _
      · obtain ⟨name, _, same⟩ := Outcome.bind_ok made
        cases same
        intro reference member
        split at member
        · split at member
          · cases member
          · cases List.mem_singleton.mp member
            exact madeIn_scope (by decide)
        · cases member
    split at made
    · cases made
      intro reference member
      obtain ⟨target, _, rfl⟩ := List.mem_map.mp member
      exact madeIn_file (by decide)
    · cases made
      exact List.forall_mem_nil _

/-- A node that opens a scope proposes a function or a class of its name. -/
theorem proposals_of_scopeName {exported : List String} {visit : Visit} {name : String}
    {proposal : List Declaration} (opens : scopeName? visit.tree = some name)
    (made : proposals exported visit = .ok proposal) :
    DeclaresSource proposal name := by
  unfold scopeName? at opens
  split at opens
  · rename_i isScope
    obtain ⟨nameNode, named, rfl⟩ := Option.map_eq_some_iff.mp opens
    unfold proposals at made
    dsimp only at made
    by_cases isFunction : visit.tree.kind = "function_definition"
    · rw [if_pos isFunction] at made
      cases made
      unfold functionProposal
      dsimp only
      rw [named]
      exact ⟨_, List.mem_singleton_self _, rfl, function_mem_sourceKinds⟩
    · have isClass : visit.tree.kind = "class_definition" := by
        simpa [scopeKinds, isFunction] using isScope
      rw [if_neg isFunction, if_pos isClass] at made
      unfold classProposal at made
      dsimp only at made
      rw [named] at made
      obtain ⟨bases, _, same⟩ := Outcome.bind_ok made
      cases same
      exact ⟨_, List.mem_singleton_self _, rfl, class_mem_sourceKinds⟩
  · cases opens

end Python

/-! ### JavaScript and TypeScript -/

namespace Script

theorem callOf_madeIn {file current : String} {line : Nat} {marks : Metadata} {callee : Option String}
    (plain : "unresolvedTarget" ∉ marks.map Prod.fst) :
    ∀ reference ∈ callOf current (onLine line ++ marks) callee, MadeIn file current line reference := by
  intro reference member
  unfold callOf at member
  split at member
  · split at member
    · cases member
    · cases List.mem_singleton.mp member
      refine ⟨(by decide : EdgeKind.calls ∈ referenceKinds), Or.inr rfl, fun _ => rfl, List.lookup_cons_self, ?_⟩
      rw [List.map_append, List.mem_append]
      exact not_or.mpr ⟨by simp [onLine], plain⟩
  · cases member

theorem dialect_isLocal : dialect.IsLocal := by
  constructor
  · intro tree name found file made
    change scopeReferences name tree = .ok found at made
    unfold scopeReferences at made
    split at made
    · obtain ⟨inherited, _, same⟩ := Outcome.bind_ok made
      cases same
      intro reference member
      rcases List.mem_append.mp member with extended | implemented
      · obtain ⟨base, _, rfl⟩ := List.mem_map.mp extended
        exact ⟨madeIn_scope (by decide), (by decide : EdgeKind.inherits ≠ .calls)⟩
      · obtain ⟨base, _, rfl⟩ := List.mem_map.mp implemented
        exact ⟨madeIn_scope (by decide), (by decide : EdgeKind.implements ≠ .calls)⟩
    · cases made
      exact List.forall_mem_nil _
  · intro tree file current found made
    change nodeReferences file current tree = .ok found at made
    unfold nodeReferences at made
    dsimp only at made
    split at made
    · split at made
      · cases made
        exact List.forall_mem_singleton.mpr (madeIn_file (by decide))
      · split at made
        · obtain ⟨callee, _, same⟩ := Outcome.bind_ok made
          cases same
          rw [← List.append_nil (onLine tree.startLine)]
          exact callOf_madeIn List.not_mem_nil
        · cases made
          exact List.forall_mem_nil _
    split at made
    · split at made
      · obtain ⟨callee, _, same⟩ := Outcome.bind_ok made
        cases same
        exact callOf_madeIn (by simp)
      · cases made
        exact List.forall_mem_nil _
    split at made
    · split at made
      · cases made
        exact List.forall_mem_singleton.mpr (madeIn_file (by decide))
      · cases made
        exact List.forall_mem_nil _
    · cases made
      exact List.forall_mem_nil _

/-- A declarator that opens a scope proposes a function of its name. -/
private theorem declaratorProposal_of_scopeName {visit : Visit} {name : String}
    (declarator : visit.tree.kind = "variable_declarator")
    (opens : scopeName? visit.tree = some name) :
    DeclaresSource (declaratorProposal visit) name := by
  unfold scopeName? at opens
  rw [declarator, if_neg (by simp [functionKinds, isClassLike, classKinds, declarator]),
    if_pos rfl] at opens
  split at opens
  · rename_i value nameNode held named
    split at opens
    · rename_i functional
      cases opens
      unfold declaratorProposal
      dsimp only
      rw [named, held]
      dsimp only
      rw [if_neg (not_not_intro functional.2), if_pos functional.1]
      exact ⟨_, List.mem_singleton_self _, rfl, function_mem_sourceKinds⟩
    · cases opens
  · cases opens

/-- A node that opens a scope proposes a function or a class of its name. -/
theorem proposals_of_scopeName {visit : Visit} {name : String} {proposal : List Declaration}
    (opens : scopeName? visit.tree = some name) (made : proposals visit = .ok proposal) :
    DeclaresSource proposal name := by
  unfold proposals at made
  dsimp only at made
  split at made
  · rename_i isFunction
    unfold scopeName? at opens
    rw [if_pos (Or.inl isFunction)] at opens
    obtain ⟨nameNode, named, rfl⟩ := Option.map_eq_some_iff.mp opens
    cases made
    unfold functionProposal
    dsimp only
    rw [named]
    exact ⟨_, List.mem_singleton_self _, rfl, function_mem_sourceKinds⟩
  split at made
  · rename_i isMethod
    unfold scopeName? at opens
    rw [if_pos (Or.inr (Or.inl isMethod))] at opens
    obtain ⟨nameNode, named, rfl⟩ := Option.map_eq_some_iff.mp opens
    cases made
    unfold methodProposal
    dsimp only
    rw [named]
    exact ⟨_, List.mem_singleton_self _, rfl, function_mem_sourceKinds⟩
  split at made
  · rename_i declarator
    cases made
    exact declaratorProposal_of_scopeName declarator opens
  split at made
  · rename_i isClass
    unfold scopeName? at opens
    rw [if_pos (Or.inr (Or.inr isClass))] at opens
    obtain ⟨nameNode, named, rfl⟩ := Option.map_eq_some_iff.mp opens
    unfold classProposal at made
    dsimp only at made
    rw [named] at made
    obtain ⟨inherited, _, same⟩ := Outcome.bind_ok made
    cases same
    exact ⟨_, List.mem_singleton_self _, rfl, class_mem_sourceKinds⟩
  · rename_i noFunction noMethod noDeclarator noClass
    unfold scopeName? at opens
    rw [if_neg (by rintro (one | two | three) <;> contradiction), if_neg noDeclarator] at opens
    cases opens

end Script

/-! ### Both languages -/

/-- What a file declares and refers to fits together: a reference is of one of the kinds that files make, it starts from
a module, class or function of the file, and nothing marks it as pointing nowhere. -/
structure Anchored (declarations : List Declaration) (references : List Reference) : Prop where
  known : ∀ reference ∈ references, reference.kind ∈ referenceKinds
  source : ∀ reference ∈ references, DeclaresSource declarations reference.source
  unmarked : ∀ reference ∈ references, "unresolvedTarget" ∉ reference.metadata.map Prod.fst

theorem Dialect.IsLocal.anchored {dialect : Dialect} (isLocal : dialect.IsLocal) {file : String}
    {tree : Tree} {proposals : Visit → Except Fault (List Declaration)}
    (agrees : ∀ {visit name proposal}, dialect.scopeName? visit.tree = some name →
      proposals visit = .ok proposal → DeclaresSource proposal name)
    {declarations : List Declaration} (declared : DeclaredBy file tree proposals declarations)
    {references : List Reference} (done : dialect.references file tree = .ok references) :
    Anchored declarations references := by
  have opened : ∀ visit ∈ preorder tree, ∀ name, dialect.scopeName? visit.tree = some name →
      DeclaresSource declarations name := by
    intro visit member name opens
    obtain ⟨proposal, proposed, kept⟩ := declared.proposed visit member
    obtain ⟨declaration, inProposal, rfl, kind⟩ := agrees opens proposed
    obtain ⟨other, found, sameKind, sameName⟩ := kept declaration inProposal
    exact ⟨other, found, sameName, sameKind ▸ kind⟩
  have fromFile : DeclaresSource declarations file := by
    obtain ⟨own, found, kind, name⟩ := declared.own
    exact ⟨own, found, name, kind ▸ module_mem_sourceKinds⟩
  refine ⟨?_, ?_, ?_⟩
  · intro reference member
    obtain ⟨visit, _, made, given, inRow⟩ := (Dialect.mem_references done).mp member
    obtain ⟨current, here, _⟩ := isLocal.referencesAt given reference inRow
    exact here.known
  · intro reference member
    obtain ⟨visit, visited, made, given, inRow⟩ := (Dialect.mem_references done).mp member
    obtain ⟨current, here, within⟩ := isLocal.referencesAt given reference inRow
    have known : DeclaresSource declarations current := by
      rcases within with ⟨opens, _⟩ | rfl
      · exact opened visit visited current opens
      · rcases Dialect.scopeAt_cases visited with same | ⟨above, belongs, opens⟩
        · rw [same]
          exact fromFile
        · exact opened above belongs _ opens
    rcases here.source with same | same
    · rw [same]
      exact fromFile
    · rw [same]
      exact known
  · intro reference member
    obtain ⟨visit, _, made, given, inRow⟩ := (Dialect.mem_references done).mp member
    obtain ⟨current, here, _⟩ := isLocal.referencesAt given reference inRow
    exact here.unmarked

end ChangeImpact.Extraction

namespace ChangeImpact.Grammar

open ChangeImpact.Extraction
open ChangeImpact.Syntax (Tree Visit)

def dialect : Grammar → Dialect
  | .python => Python.dialect
  | _ => Script.dialect

def declarations (grammar : Grammar) (file : String) (root : Tree) : Except Fault (List Declaration) :=
  match grammar with
  | .python => Python.declarations file root
  | _ => Script.declarations file root

def proposals (grammar : Grammar) (root : Tree) : Visit → Except Fault (List Declaration) :=
  match grammar with
  | .python => Python.proposals ((Python.exportedNames? root).getD [])
  | _ => Script.proposals

variable {grammar : Grammar} {file : String} {root : Tree} {found : List Declaration}

theorem dialect_isLocal (grammar : Grammar) : grammar.dialect.IsLocal := by
  cases grammar with
  | python => exact Python.dialect_isLocal
  | javascript | typescript | typescriptMarkup => exact Script.dialect_isLocal

/-- A call belongs to the nearest scope around it. -/
theorem source_of_call {visit : Visit} {made : List Reference}
    (given : grammar.dialect.referencesAt file visit = .ok made) {reference : Reference} (member : reference ∈ made)
    (isCall : reference.kind = .calls) : reference.source = grammar.dialect.scopeAt file visit := by
  obtain ⟨current, here, within⟩ := grammar.dialect_isLocal.referencesAt given reference member
  rcases within with ⟨_, noCall⟩ | rfl
  · exact absurd isCall noCall
  · exact here.calls isCall

theorem proposals_proposedAt {visit : Visit} {proposal : List Declaration}
    (made : grammar.proposals root visit = .ok proposal) :
    ∀ declaration ∈ proposal, ProposedAt visit.tree declaration := by
  cases grammar with
  | python => exact Python.proposals_proposedAt _ visit proposal made
  | javascript | typescript | typescriptMarkup => exact Script.proposals_proposedAt visit proposal made

theorem proposals_of_scopeName {visit : Visit} {name : String} {proposal : List Declaration}
    (opens : grammar.dialect.scopeName? visit.tree = some name)
    (made : grammar.proposals root visit = .ok proposal) : DeclaresSource proposal name := by
  cases grammar with
  | python => exact Python.proposals_of_scopeName opens made
  | javascript | typescript | typescriptMarkup => exact Script.proposals_of_scopeName opens made

theorem declarations_declaredBy (done : grammar.declarations file root = .ok found) :
    DeclaredBy file root (grammar.proposals root) found := by
  cases grammar with
  | python => exact Python.declarations_declaredBy done
  | javascript | typescript | typescriptMarkup => exact Script.declarations_declaredBy done

theorem declarations_plain (done : grammar.declarations file root = .ok found) :
    ∀ declaration ∈ found, Plain declaration := by
  cases grammar with
  | python => exact Python.declarations_plain done
  | javascript | typescript | typescriptMarkup => exact Script.declarations_plain done

theorem declarations_proposedIn (done : grammar.declarations file root = .ok found) :
    ∀ declaration ∈ found,
      declaration.kind = .moduleKind ∨ ProposedIn root (grammar.proposals root) declaration := by
  cases grammar with
  | python => exact Python.declarations_proposedIn done
  | javascript | typescript | typescriptMarkup => exact Script.declarations_proposedIn done

end ChangeImpact.Grammar

namespace ChangeImpact.Extraction

variable {grammar : Grammar} {file : String} {tree : Syntax.Tree} {declarations : List Declaration}
  {references : List Reference}

theorem ofTree_done (done : ofTree grammar file tree = .ok (declarations, references)) :
    grammar.declarations file tree = .ok declarations ∧ grammar.dialect.references file tree = .ok references := by
  have both : (do .ok (← grammar.declarations file tree, ← grammar.dialect.references file tree)) =
      (.ok (declarations, references) : Except Fault (List Declaration × List Reference)) := by
    cases grammar with
    | python | javascript | typescript | typescriptMarkup => exact done
  obtain ⟨declared, declares, remaining⟩ := Outcome.bind_ok both
  obtain ⟨referred, refers, same⟩ := Outcome.bind_ok remaining
  cases same
  exact ⟨declares, refers⟩

/-- In every grammar, what a tree declares and refers to fits together. -/
theorem ofTree_anchored (done : ofTree grammar file tree = .ok (declarations, references)) :
    Anchored declarations references := by
  obtain ⟨declares, refers⟩ := ofTree_done done
  exact grammar.dialect_isLocal.anchored Grammar.proposals_of_scopeName
    (Grammar.declarations_declaredBy declares) refers

theorem ofTree_plain (done : ofTree grammar file tree = .ok (declarations, references)) :
    ∀ declaration ∈ declarations, Plain declaration :=
  Grammar.declarations_plain (ofTree_done done).1

end ChangeImpact.Extraction
