import ChangeImpact.Proofs.Distinct
import ChangeImpact.Resolution

/-!
What names are resolved to. An index of nodes answers with one of these nodes and only with an allowed kind, and it
has an answer whenever one of them fits. The references of extractions are taken in order: one whose source has no
node is dropped, and each name without a node is noted once.
-/

set_option autoImplicit false

namespace ChangeImpact

theorem Policy.mem_of_choose {α : Type} {policy : Policy} {candidates : List α} {chosen : α}
    (found : policy.choose candidates = some chosen) : chosen ∈ candidates := by
  cases policy with
  | firstDeclared => exact List.mem_of_mem_head? found
  | lastWriter => exact List.mem_of_mem_getLast? found

theorem Policy.choose_isSome {α : Type} (policy : Policy) {candidates : List α} {one : α}
    (member : one ∈ candidates) : (policy.choose candidates).isSome = true := by
  have filled : candidates ≠ [] := List.ne_nil_of_mem member
  cases policy with
  | firstDeclared => simpa [Policy.choose] using filled
  | lastWriter => simpa [Policy.choose] using filled

namespace NameIndex

def ofNodes (policy : Policy) (nodes : List Node) : NameIndex := ({ policy } : NameIndex).add nodes

variable {policy : Policy} {nodes : List Node}

theorem name_mem_keysOf (node : Node) : node.name ∈ keysOf node := by
  unfold keysOf
  split <;> exact List.mem_cons_self

/-- The key of a name within a file is longer than the name. -/
theorem qualified_ne (file name : String) : qualified file name ≠ name := by
  intro same
  have lengths := congrArg String.length same
  unfold qualified at lengths
  rw [String.length_append, String.length_append] at lengths
  have colon : ":".length = 1 := rfl
  omega

theorem qualified_mem_keysOf {node : Node} {file : String} (lies : node.file? = some file) :
    qualified file node.name ∈ keysOf node := by
  unfold keysOf
  rw [lies]
  exact List.mem_cons_of_mem _ (List.mem_singleton_self _)

/-- A node has one entry under each of its keys. -/
private theorem own_candidates (key : String) (node : Node) :
    (((keysOf node).map fun key => (key, node)).filter fun entry => entry.1 == key).map Prod.snd =
      if (keysOf node).contains key then [node] else [] := by
  unfold keysOf
  cases node.file? with
  | none =>
      by_cases own : node.name = key
      · simp [own]
      · simp [own, Ne.symm own]
  | some file =>
      have longer := qualified_ne file node.name
      by_cases own : node.name = key
      · subst own
        simp [longer]
      · by_cases within : qualified file node.name = key
        · simp [own, within]
        · simp [own, Ne.symm own, within, Ne.symm within]

/-- The nodes of a key stand in the order of the nodes, each once. -/
theorem candidates_eq (key : String) :
    (ofNodes policy nodes).candidates key = nodes.filter fun node => (keysOf node).contains key := by
  have entries : (ofNodes policy nodes).entries =
      nodes.flatMap fun node => (keysOf node).map fun key => (key, node) := List.nil_append _
  unfold candidates
  rw [entries]
  clear entries
  induction nodes with
  | nil => rfl
  | cons node rest ih =>
      rw [List.flatMap_cons, List.filter_append, List.map_append, own_candidates, ih, List.filter_cons]
      split <;> rfl

theorem mem_candidates {key : String} {node : Node} :
    node ∈ (ofNodes policy nodes).candidates key ↔ node ∈ nodes ∧ key ∈ keysOf node := by
  rw [candidates_eq, List.mem_filter, List.contains_iff_mem]

theorem lookup_some {key : String} {allowed : Option (List NodeKind)} {node : Node}
    (found : (ofNodes policy nodes).lookup key allowed = some node) :
    node ∈ nodes ∧ permits allowed node.kind = true := by
  obtain ⟨candidate, permitted⟩ := List.mem_filter.mp (Policy.mem_of_choose found)
  exact ⟨(mem_candidates.mp candidate).1, permitted⟩

theorem lookup_isSome {allowed : Option (List NodeKind)} {node : Node} (member : node ∈ nodes)
    (permitted : permits allowed node.kind = true) :
    ((ofNodes policy nodes).lookup node.name allowed).isSome = true := by
  apply Policy.choose_isSome
  exact List.mem_filter.mpr ⟨mem_candidates.mpr ⟨member, name_mem_keysOf node⟩, permitted⟩

theorem resolve_some {name file : String} {allowed : Option (List NodeKind)} {node : Node}
    (found : (ofNodes policy nodes).resolve name file allowed = some node) :
    node ∈ nodes ∧ permits allowed node.kind = true := by
  unfold resolve at found
  rcases Option.or_eq_some_iff.mp found with here | ⟨_, anywhere⟩
  · exact lookup_some here
  · exact lookup_some anywhere

/-- Where a node of the file fits, one of the file is meant. -/
theorem resolve_eq_lookup {file : String} {allowed : Option (List NodeKind)} {node : Node} (member : node ∈ nodes)
    (lies : node.file? = some file) (permitted : permits allowed node.kind = true) :
    (ofNodes policy nodes).resolve node.name file allowed =
      (ofNodes policy nodes).lookup (qualified file node.name) allowed := by
  have found : ((ofNodes policy nodes).lookup (qualified file node.name) allowed).isSome = true := by
    apply Policy.choose_isSome
    exact List.mem_filter.mpr ⟨mem_candidates.mpr ⟨member, qualified_mem_keysOf lies⟩, permitted⟩
  unfold resolve
  exact Option.or_of_isSome found

/-- A name that a node has is resolved, in whatever file it is used. -/
theorem resolve_isSome {file : String} {allowed : Option (List NodeKind)} {node : Node}
    (member : node ∈ nodes) (permitted : permits allowed node.kind = true) :
    ((ofNodes policy nodes).resolve node.name file allowed).isSome = true := by
  unfold resolve
  rw [Option.isSome_or, lookup_isSome member permitted, Bool.or_true]

end NameIndex

namespace Resolution

theorem target?_some {policy : Policy} {nodes : List Node} {file : String} {reference : Reference}
    {node : Node} (found : target? (.ofNodes policy nodes) file reference = some node) :
    node ∈ nodes ∧ NameIndex.permits (targetKinds reference.kind) node.kind = true := by
  unfold target? at found
  dsimp only at found
  rcases Option.or_eq_some_iff.mp found with byPath | ⟨_, byName⟩
  · split at byPath
    · obtain ⟨path, _, looked⟩ := List.exists_of_findSome?_eq_some byPath
      exact NameIndex.lookup_some looked
    · cases byPath
  · exact NameIndex.resolve_some byName

/-! ### The references one by one -/

def pending? (index : NameIndex) (item : String × Reference) : Option PendingEdge :=
  (index.resolve item.2.source item.1 (some sourceKinds)).map fun source =>
    { source := source.id
      target := (target? index item.1 item.2).map Node.id
      reference := item.2 }

def unresolved (pending : List PendingEdge) : List String :=
  (pending.filter fun edge => edge.target.isNone).map fun edge => edge.reference.target

theorem step_none {index : NameIndex} {item : String × Reference}
    (lost : pending? index item = none) (resolution : Resolution) :
    step index resolution item = { resolution with dropped := resolution.dropped + 1 } := by
  unfold step
  dsimp only
  rw [Option.map_eq_none_iff.mp lost]

theorem step_some {index : NameIndex} {item : String × Reference} {edge : PendingEdge}
    (made : pending? index item = some edge) (resolution : Resolution) :
    step index resolution item =
      { resolution with
        pending := resolution.pending ++ [edge]
        missing := resolution.missing ++ fresh resolution.missing (unresolved [edge]) } := by
  obtain ⟨source, found, rfl⟩ := Option.map_eq_some_iff.mp made
  unfold step
  dsimp only
  rw [found]
  cases target? index item.1 item.2 with
  | some target => simp [unresolved, fresh]
  | none =>
      by_cases known : item.2.target ∈ resolution.missing
      · simp [unresolved, fresh, known]
      · simp [unresolved, fresh, known]

theorem unresolved_cons (edge : PendingEdge) (rest : List PendingEdge) :
    unresolved (edge :: rest) = unresolved [edge] ++ unresolved rest := by
  unfold unresolved
  rw [← List.map_append, ← List.filter_append]
  rfl

/-- Many references one after another. -/
theorem foldl_step (index : NameIndex) (items : List (String × Reference))
    (resolution : Resolution) :
    items.foldl (step index) resolution =
      { pending := resolution.pending ++ items.filterMap (pending? index)
        missing := resolution.missing ++
          fresh resolution.missing (unresolved (items.filterMap (pending? index)))
        dropped := resolution.dropped +
          (items.filter fun item => (pending? index item).isNone).length } := by
  induction items generalizing resolution with
  | nil => simp [unresolved, fresh]
  | cons item rest ih =>
      rw [List.foldl_cons, ih]
      cases made : pending? index item with
      | none =>
          rw [step_none made, List.filterMap_cons_none made, List.filter_cons_of_pos (by simp [made])]
          simp only [List.length_cons, Resolution.mk.injEq, true_and]
          omega
      | some edge =>
          rw [step_some made, List.filterMap_cons_some made,
            List.filter_cons_of_neg (by simp [made]),
            unresolved_cons edge (rest.filterMap (pending? index)), fresh_append]
          simp only [List.append_assoc, List.cons_append, List.nil_append]

section

variable (index : NameIndex) (extractions : List Extraction)

theorem ofExtractions_pending :
    (ofExtractions index extractions).pending =
      (referencesOf extractions).filterMap (pending? index) := by
  unfold ofExtractions
  rw [foldl_step]
  rfl

/-- The names without a node stand in the order in which they first come. -/
theorem ofExtractions_missing :
    (ofExtractions index extractions).missing =
      distinct (unresolved ((referencesOf extractions).filterMap (pending? index))) := by
  unfold ofExtractions
  rw [foldl_step]
  rfl

theorem ofExtractions_dropped :
    (ofExtractions index extractions).dropped =
      ((referencesOf extractions).filter fun item => (pending? index item).isNone).length := by
  unfold ofExtractions
  rw [foldl_step]
  exact Nat.zero_add _

end

/-! ### Ends of edges -/

section

variable {policy : Policy} {nodes : List Node} {item : String × Reference} {edge : PendingEdge}

theorem pending?_source (made : pending? (.ofNodes policy nodes) item = some edge) :
    ∃ source ∈ nodes, source.id = edge.source ∧ source.kind ∈ sourceKinds := by
  obtain ⟨source, found, rfl⟩ := Option.map_eq_some_iff.mp made
  obtain ⟨member, permitted⟩ := NameIndex.resolve_some found
  exact ⟨source, member, rfl, List.contains_iff_mem.mp permitted⟩

theorem pending?_target {id : String} (made : pending? (.ofNodes policy nodes) item = some edge)
    (pointed : edge.target = some id) :
    ∃ target ∈ nodes, target.id = id ∧
      NameIndex.permits (targetKinds edge.reference.kind) target.kind = true := by
  obtain ⟨source, _, rfl⟩ := Option.map_eq_some_iff.mp made
  obtain ⟨target, found, same⟩ := Option.map_eq_some_iff.mp pointed
  obtain ⟨member, permitted⟩ := target?_some found
  exact ⟨target, member, same, permitted⟩

theorem pending?_reference (made : pending? (.ofNodes policy nodes) item = some edge) :
    edge.reference = item.2 := by
  obtain ⟨source, _, rfl⟩ := Option.map_eq_some_iff.mp made
  rfl

end

end Resolution

end ChangeImpact
