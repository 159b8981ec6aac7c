import ChangeImpact.Proofs.Directories
import ChangeImpact.Proofs.ImportTargets

/-!
Which node a name means. A name without a colon is the key of the nodes of that name, and a file and a name together are
the key of the nodes of that name in that file, so a name means a node of its own file if one fits and otherwise a node
of any file; of several the policy takes the first added or the last.
-/

set_option autoImplicit false

namespace ChangeImpact

/-! ### What a policy chooses -/

namespace Policy

/-- A node that a policy chooses among those that fit: none that fits stands before it, or none after it. -/
def Picks : Policy → (Node → Prop) → List Node → Node → Prop
  | .firstDeclared, fits, nodes, node =>
      ∃ before after, nodes = before ++ node :: after ∧ fits node ∧ ∀ other ∈ before, ¬ fits other
  | .lastWriter, fits, nodes, node =>
      ∃ before after, nodes = before ++ node :: after ∧ fits node ∧ ∀ other ∈ after, ¬ fits other

theorem choose_reverse {α : Type} (items : List α) :
    lastWriter.choose items = firstDeclared.choose items.reverse :=
  List.head?_reverse.symm

theorem picks_reverse {fits : Node → Prop} {nodes : List Node} {node : Node} :
    lastWriter.Picks fits nodes node ↔ firstDeclared.Picks fits nodes.reverse node := by
  constructor
  · rintro ⟨before, after, rfl, fit, others⟩
    refine ⟨after.reverse, before.reverse, by simp, fit, ?_⟩
    exact fun other member => others other (List.mem_reverse.mp member)
  · rintro ⟨before, after, reversed, fit, others⟩
    refine ⟨after.reverse, before.reverse, ?_, fit, fun other member => others other (List.mem_reverse.mp member)⟩
    rw [← List.reverse_reverse nodes, reversed]
    simp

theorem Picks.imp {policy : Policy} {fits other : Node → Prop} {nodes : List Node} {node : Node}
    (same : ∀ node ∈ nodes, fits node ↔ other node) (picks : policy.Picks fits nodes node) :
    policy.Picks other nodes node := by
  -- What holds of the first node holds of the last, by turning the list around.
  have first : ∀ nodes : List Node, (∀ node ∈ nodes, fits node ↔ other node) →
      firstDeclared.Picks fits nodes node → firstDeclared.Picks other nodes node := by
    rintro _ same ⟨before, after, rfl, fit, others⟩
    refine ⟨before, after, rfl, (same node (by simp)).mp fit, fun earlier member fitting => ?_⟩
    exact others earlier member ((same earlier (by simp [member])).mpr fitting)
  cases policy with
  | firstDeclared => exact first nodes same picks
  | lastWriter =>
      have reversed : ∀ node ∈ nodes.reverse, fits node ↔ other node := fun node member =>
        same node (List.mem_reverse.mp member)
      exact picks_reverse.mpr (first nodes.reverse reversed (picks_reverse.mp picks))

theorem choose_eq_none_iff {α : Type} {policy : Policy} {items : List α} : policy.choose items = none ↔ items = [] := by
  cases policy with
  | firstDeclared => exact List.head?_eq_none_iff
  | lastWriter => exact List.getLast?_eq_none_iff

theorem choose_filter_iff {policy : Policy} {test : Node → Bool} {nodes : List Node} {node : Node} :
    policy.choose (nodes.filter test) = some node ↔ policy.Picks (fun node => test node = true) nodes node := by
  have first : ∀ nodes : List Node, firstDeclared.choose (nodes.filter test) = some node ↔
      firstDeclared.Picks (fun node => test node = true) nodes node := by
    intro nodes
    have found : firstDeclared.choose (nodes.filter test) = nodes.find? test := List.head?_filter
    rw [found, List.find?_eq_some_iff_append]
    constructor
    · rintro ⟨fit, before, after, split, others⟩
      exact ⟨before, after, split, fit, fun other member => by simpa using others other member⟩
    · rintro ⟨before, after, split, fit, others⟩
      exact ⟨fit, before, after, split, fun other member => by simpa using others other member⟩
  cases policy with
  | firstDeclared => exact first nodes
  | lastWriter => rw [choose_reverse, ← List.filter_reverse, first, picks_reverse]

end Policy

namespace NameIndex

/-! ### Keys -/

def Fits (name : String) (allowed : Option (List NodeKind)) (node : Node) : Prop :=
  node.name = name ∧ ∀ kinds ∈ allowed, node.kind ∈ kinds

def FitsIn (file name : String) (allowed : Option (List NodeKind)) (node : Node) : Prop :=
  node.file = some file ∧ Fits name allowed node

def ColonFree (node : Node) : Prop :=
  ':' ∉ node.name.toList ∧ ∀ file ∈ node.file, ':' ∉ file.toList

instance (node : Node) : Decidable (ColonFree node) := inferInstanceAs (Decidable (_ ∧ _))

section

variable (file name : String) (allowed : Option (List NodeKind)) (node : Node)

instance : Decidable (Fits name allowed node) := inferInstanceAs (Decidable (_ ∧ _))

instance : Decidable (FitsIn file name allowed node) := inferInstanceAs (Decidable (_ ∧ _))

end

theorem permits_iff {allowed : Option (List NodeKind)} {kind : NodeKind} :
    permits allowed kind = true ↔ ∀ kinds ∈ allowed, kind ∈ kinds := by
  cases allowed with
  | none => simp [permits]
  | some kinds => simp [permits]

theorem qualified_inj {file other name called : String} (plain : ':' ∉ file.toList) (plainOther : ':' ∉ other.toList)
    (same : qualified file name = qualified other called) : file = other ∧ name = called := by
  have colon : ":".toList = [':'] := rfl
  have chars := congrArg String.toList same
  unfold qualified at chars
  simp only [String.toList_append, colon, List.append_assoc, List.singleton_append] at chars
  obtain ⟨files, behind⟩ := Path.append_inj_of_mark plain plainOther (by simp) (by simp) chars
  exact ⟨String.toList_inj.mp files, String.toList_inj.mp (List.cons.inj behind).2⟩

theorem qualified_mem_keysOf_iff {file name : String} (filled : file ≠ "") (plain : ':' ∉ file.toList) {node : Node}
    (free : ColonFree node) :
    qualified file name ∈ keysOf node ↔ node.file = some file ∧ node.name = name := by
  constructor
  · intro member
    -- The key has a colon and the name of the node has none.
    have notName : qualified file name ≠ node.name := by
      intro same
      apply free.1
      rw [← same]
      simp [qualified, String.toList_append]
    unfold keysOf at member
    cases lies : node.file? with
    | none =>
        rw [lies] at member
        exact absurd (List.mem_singleton.mp member) notName
    | some own =>
        rw [lies] at member
        have given : node.file = some own := (Option.filter_eq_some_iff.mp lies).1
        rcases List.mem_cons.mp member with bare | rest
        · exact absurd bare notName
        · obtain ⟨rfl, rfl⟩ := qualified_inj plain (free.2 own given) (List.mem_singleton.mp rest)
          exact ⟨given, rfl⟩
  · rintro ⟨lies, rfl⟩
    apply qualified_mem_keysOf
    unfold Node.file?
    rw [lies, Option.filter_some, if_pos (by simpa using filled)]

section

variable {policy : Policy} {nodes : List Node} {allowed : Option (List NodeKind)}

theorem lookup_eq (key : String) :
    (ofNodes policy nodes).lookup key allowed =
      policy.choose (nodes.filter fun node => (keysOf node).contains key && permits allowed node.kind) := by
  have chosen : (ofNodes policy nodes).policy = policy := rfl
  unfold lookup
  rw [chosen, candidates_eq, List.filter_filter]
  simp only [Bool.and_comm]

theorem lookup_iff (policy : Policy) {key : String} {fits : Node → Prop}
    (same : ∀ node ∈ nodes, (key ∈ keysOf node ∧ permits allowed node.kind = true) ↔ fits node) :
    (∀ node, (ofNodes policy nodes).lookup key allowed = some node ↔ policy.Picks fits nodes node) ∧
      ((ofNodes policy nodes).lookup key allowed = none ↔ ¬∃ node ∈ nodes, fits node) := by
  have tested : ∀ node ∈ nodes,
      ((keysOf node).contains key && permits allowed node.kind) = true ↔ fits node := by
    intro node member
    rw [Bool.and_eq_true, List.contains_iff_mem, same node member]
  rw [lookup_eq]
  constructor
  · intro node
    rw [Policy.choose_filter_iff]
    exact ⟨Policy.Picks.imp tested, Policy.Picks.imp fun node member => (tested node member).symm⟩
  · rw [Policy.choose_eq_none_iff, List.filter_eq_nil_iff]
    constructor
    · rintro none ⟨node, member, fit⟩
      exact none node member ((tested node member).mpr fit)
    · intro none node member fit
      exact none ⟨node, member, (tested node member).mp fit⟩

theorem lookup_reverse (key : String) :
    (ofNodes .lastWriter nodes).lookup key allowed = (ofNodes .firstDeclared nodes.reverse).lookup key allowed := by
  rw [lookup_eq, lookup_eq, Policy.choose_reverse, List.filter_reverse]

theorem foldl_add (batches : List (List Node)) (index : NameIndex) :
    batches.foldl add index = index.add batches.flatten := by
  induction batches generalizing index with
  | nil => simp [add]
  | cons batch rest ih =>
      rw [List.foldl_cons, ih, List.flatten_cons]
      simp [add]

end

/-- A name means a node of its own file: among the nodes of that file and name, of an allowed kind, the first added or
the last, as the policy says. Where the file has none, it means the first or the last such node of any file, and nothing
if there is none. The last of the nodes is what the other policy finds among the nodes in the other order. -/
theorem resolve_prefers_own_file (policy : Policy) (batches : List (List Node)) (name file : String)
    (allowed : Option (List NodeKind)) (filled : file ≠ "") (plainName : ':' ∉ name.toList)
    (plainFile : ':' ∉ file.toList) (free : ∀ node ∈ batches.flatten, ColonFree node) :
    let nodes := batches.flatten
    let resolved := (batches.foldl add { policy }).resolve name file allowed
    ((∃ node ∈ nodes, FitsIn file name allowed node) →
      ∃ node, resolved = some node ∧ policy.Picks (FitsIn file name allowed) nodes node) ∧
    ((¬∃ node ∈ nodes, FitsIn file name allowed node) →
      (∀ node, resolved = some node ↔ policy.Picks (Fits name allowed) nodes node) ∧
        (resolved = none ↔ ¬∃ node ∈ nodes, Fits name allowed node)) ∧
    ∀ others : List (List Node), others.flatten = nodes.reverse →
      (batches.foldl add { policy := .lastWriter }).resolve name file allowed =
        (others.foldl add { policy := .firstDeclared }).resolve name file allowed := by
  intro nodes resolved
  have own : ∀ node ∈ nodes, (qualified file name ∈ keysOf node ∧ permits allowed node.kind = true) ↔
      FitsIn file name allowed node := by
    intro node member
    rw [qualified_mem_keysOf_iff filled plainFile (free node member), permits_iff, and_assoc]
    rfl
  have bare : ∀ node ∈ nodes, (name ∈ keysOf node ∧ permits allowed node.kind = true) ↔ Fits name allowed node := by
    intro node _
    rw [← List.contains_iff_mem, contains_keysOf plainName, beq_iff_eq, permits_iff]
    rfl
  obtain ⟨ownFound, ownNone⟩ := lookup_iff policy own
  obtain ⟨bareFound, bareNone⟩ := lookup_iff policy bare
  have eq : resolved = ((ofNodes policy nodes).lookup (qualified file name) allowed).or
      ((ofNodes policy nodes).lookup name allowed) :=
    congrArg (fun index => resolve index name file allowed) (foldl_add batches { policy })
  refine ⟨?_, ?_, ?_⟩
  · intro present
    obtain ⟨node, found⟩ := Option.ne_none_iff_exists'.mp fun none => ownNone.mp none present
    exact ⟨node, by rw [eq, found, Option.some_or], (ownFound node).mp found⟩
  · intro absent
    rw [eq, ownNone.mpr absent, Option.none_or]
    exact ⟨bareFound, bareNone⟩
  · intro others reversed
    rw [foldl_add, foldl_add, reversed]
    unfold resolve
    exact congrArg₂ Option.or (lookup_reverse _) (lookup_reverse _)

/-- Two functions of one name in two files, and an import of that name in a third, added in two parts. -/
def namesakes : List (List Node) :=
  [[{ id := "1", analysis := "x", kind := .functionKind, name := "f", file := some "a.py" }],
    [{ id := "2", analysis := "x", kind := .functionKind, name := "f", file := some "b.py" },
      { id := "3", analysis := "x", kind := .importKind, name := "f", file := some "c.py" }]]

theorem resolve_prefers_own_file_namesakes :
    (∀ node ∈ namesakes.flatten, ColonFree node) ∧
      (∃ node, (namesakes.foldl add { policy := .lastWriter }).resolve "f" "a.py" (some [.functionKind]) = some node ∧
        node.file = some "a.py") ∧
      ∃ node, (namesakes.foldl add { policy := .lastWriter }).resolve "f" "c.py" (some [.functionKind]) = some node ∧
        node.file = some "b.py" := by
  have free : ∀ node ∈ namesakes.flatten, ColonFree node := by decide
  obtain ⟨inFile, _⟩ := resolve_prefers_own_file .lastWriter namesakes "f" "a.py" (some [.functionKind])
    (by decide) (by decide) (by decide) free
  obtain ⟨_, anywhere, _⟩ := resolve_prefers_own_file .lastWriter namesakes "f" "c.py" (some [.functionKind])
    (by decide) (by decide) (by decide) free
  refine ⟨free, ?_, ?_⟩
  · obtain ⟨node, found, _, _, _, fits, _⟩ := inFile (by decide)
    exact ⟨node, found, fits.1⟩
  · have last : Policy.lastWriter.Picks (Fits "f" (some [.functionKind])) namesakes.flatten
        { id := "2", analysis := "x", kind := .functionKind, name := "f", file := some "b.py" } :=
      ⟨namesakes.flatten.take 1, namesakes.flatten.drop 2, rfl, by decide, by decide⟩
    exact ⟨_, ((anywhere (by decide)).1 _).mpr last, rfl⟩

end NameIndex

end ChangeImpact
