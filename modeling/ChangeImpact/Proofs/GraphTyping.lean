import ChangeImpact.Proofs.Assembly
import ChangeImpact.Proofs.Fields

/-!
Well typed graphs. Edges start from declared modules, classes and functions and point to what their kind allows;
placeholders stand for distinct names, are pointed to, and exactly the edges to them are marked. The graph of sound
extractions is well typed.
-/

set_option autoImplicit false

namespace ChangeImpact

def Edge.IsMarked (edge : Edge) : Prop :=
  edge.metadata.lookup "unresolvedTarget" = some (.bool true)

structure EdgeKind.Allows (kind : EdgeKind) (target : Node) : Prop where
  imports : kind = .imports → target.kind = .moduleKind
  calls : kind = .calls →
    target.kind = .functionKind ∨ target.kind = .classKind ∨ target.isExternal = true
  inherits : kind = .inherits ∨ kind = .implements →
    target.kind = .classKind ∨ target.isExternal = true

structure Edge.Fits (edge : Edge) (nodes : List Node) : Prop where
  source : ∃ source ∈ nodes, source.id = edge.source ∧ source.isExternal = false ∧
    source.kind ∈ [NodeKind.moduleKind, .classKind, .functionKind]
  target : ∃ target ∈ nodes, target.id = edge.target ∧ edge.kind.Allows target ∧
    (target.isExternal = true ↔ edge.IsMarked)

structure Graph.WellTyped (graph : Graph) : Prop where
  ids : (graph.nodes.map Node.id).Nodup
  edges : ∀ edge ∈ graph.edges, edge.Fits graph.nodes
  names : ((graph.nodes.filter Node.isExternal).map Node.name).Nodup
  pointed : ∀ node ∈ graph.nodes, node.isExternal = true →
    ∃ edge ∈ graph.edges, edge.target = node.id

theorem Graph.WellTyped.closed {graph : Graph} (typed : graph.WellTyped) : graph.Closed := by
  intro edge member
  obtain ⟨⟨source, sourceMember, sourceId, _⟩, ⟨target, targetMember, targetId, _⟩⟩ :=
    typed.edges edge member
  constructor
  · exact List.mem_map.mpr ⟨source, sourceMember, sourceId⟩
  · exact List.mem_map.mpr ⟨target, targetMember, targetId⟩

theorem Graph.wellTyped_empty (analysis : String) :
    Graph.WellTyped { analysis, nodes := [], edges := [] } :=
  ⟨List.nodup_nil, List.forall_mem_nil _, List.nodup_nil, List.forall_mem_nil _⟩

namespace Resolution

/-- A declared node of a kind that references of another kind may point to. -/
theorem allows_of_permits {kind : EdgeKind} {target : Node}
    (permitted : NameIndex.permits (targetKinds kind) target.kind = true) : kind.Allows target := by
  constructor
  · rintro rfl
    exact List.mem_singleton.mp (List.contains_iff_mem.mp permitted)
  · rintro rfl
    have listed : target.kind ∈ [NodeKind.functionKind, .classKind] :=
      List.contains_iff_mem.mp permitted
    rcases List.mem_cons.mp listed with function | other
    · exact Or.inl function
    · exact Or.inr (Or.inl (List.mem_singleton.mp other))
  · rintro (rfl | rfl)
    · exact Or.inl (List.mem_singleton.mp (List.contains_iff_mem.mp permitted))
    · exact Or.inl (List.mem_singleton.mp (List.contains_iff_mem.mp permitted))

theorem allows_placeholder (kind : EdgeKind) {target : Node} (isModule : target.kind = .moduleKind)
    (external : target.isExternal = true) : kind.Allows target :=
  ⟨fun _ => isModule, fun _ => Or.inr (Or.inr external), fun _ => Or.inr external⟩

/-- The id of a placeholder is found under its name when names are distinct. -/
theorem lookup_placeholder {placeholders : List Node} {node : Node}
    (names : (placeholders.map Node.name).Nodup) (member : node ∈ placeholders) :
    (placeholders.map fun node => (node.name, node.id)).lookup node.name = some node.id := by
  induction placeholders with
  | nil => cases member
  | cons head rest ih =>
      obtain ⟨absent, others⟩ := List.nodup_cons.mp names
      rw [List.map_cons, List.lookup_cons]
      rcases List.mem_cons.mp member with rfl | later
      · rw [beq_self_eq_true]
      · have different : (node.name == head.name) = false := by
          apply beq_false_of_ne
          intro same
          exact absent (List.mem_map.mpr ⟨node, later, same⟩)
        rw [different]
        exact ih others later

section

variable {policy : Policy} {declared placeholders : List Node}
  {extractions : List Extraction} {pending : PendingEdge}

theorem mem_pending {index : NameIndex} :
    pending ∈ (ofExtractions index extractions).pending ↔
      ∃ item ∈ referencesOf extractions, pending? index item = some pending := by
  rw [ofExtractions_pending, List.mem_filterMap]

theorem mem_missing {index : NameIndex} {name : String} :
    name ∈ (ofExtractions index extractions).missing ↔
      ∃ pending ∈ (ofExtractions index extractions).pending,
        pending.target = none ∧ pending.reference.target = name := by
  rw [ofExtractions_missing, mem_distinct, ofExtractions_pending]
  unfold unresolved
  simp only [List.mem_map, List.mem_filter, Option.isNone_iff_eq_none, and_assoc]

/-- Nodes that stand for the names without a declared node. -/
structure Stand (policy : Policy) (declared : List Node) (extractions : List Extraction)
    (placeholders : List Node) : Prop where
  names : placeholders.map Node.name =
    (ofExtractions (.ofNodes policy declared) extractions).missing
  external : ∀ node ∈ placeholders, node.isExternal = true
  kind : ∀ node ∈ placeholders, node.kind = .moduleKind

theorem Stand.names_nodup (stand : Stand policy declared extractions placeholders) :
    (placeholders.map Node.name).Nodup := by
  rw [stand.names, ofExtractions_missing]
  exact distinct_nodup _

/-- An edge whose target was not found points to the placeholder of its name. -/
theorem edge_target_of_none (analysis : String) {node : Node} (names : (placeholders.map Node.name).Nodup)
    (member : node ∈ placeholders) (unfound : pending.target = none)
    (called : pending.reference.target = node.name) :
    (edge analysis (placeholders.map fun node => (node.name, node.id)) pending).target = node.id := by
  unfold edge
  rw [unfound, called, lookup_placeholder names member]
  rfl

theorem edge_fits (analysis : String) (inside : ∀ node ∈ declared, node.isExternal = false)
    (stand : Stand policy declared extractions placeholders)
    (member : pending ∈ (ofExtractions (.ofNodes policy declared) extractions).pending)
    (unmarked : "unresolvedTarget" ∉ pending.reference.metadata.map Prod.fst) :
    (edge analysis (placeholders.map fun node => (node.name, node.id)) pending).Fits
      (declared ++ placeholders) := by
  obtain ⟨item, _, made⟩ := mem_pending.mp member
  obtain ⟨source, sourceMember, sourceId, sourceKind⟩ := pending?_source made
  have sourceFits : ∃ node ∈ declared ++ placeholders, node.id = pending.source ∧
      node.isExternal = false ∧ node.kind ∈ sourceKinds :=
    ⟨source, List.mem_append_left _ sourceMember, sourceId, inside source sourceMember, sourceKind⟩
  cases found : pending.target with
  | some id =>
      obtain ⟨target, targetMember, targetId, permitted⟩ := pending?_target made found
      have absent := Json.Fields.lookup_eq_none unmarked
      unfold edge
      rw [found]
      refine ⟨sourceFits, target, List.mem_append_left _ targetMember, targetId,
        allows_of_permits permitted, ?_⟩
      change _ ↔ pending.reference.metadata.lookup "unresolvedTarget" = _
      rw [absent, inside target targetMember]
      exact iff_of_false Bool.false_ne_true nofun
  | none =>
      have missing : pending.reference.target ∈
          (ofExtractions (.ofNodes policy declared) extractions).missing :=
        mem_missing.mpr ⟨pending, member, found, rfl⟩
      rw [← stand.names] at missing
      obtain ⟨target, targetMember, called⟩ := List.mem_map.mp missing
      have pointed :=
        edge_target_of_none analysis stand.names_nodup targetMember found called.symm
      have external := stand.external target targetMember
      have allowed := allows_placeholder pending.reference.kind (stand.kind target targetMember) external
      unfold edge at pointed ⊢
      rw [found] at pointed ⊢
      refine ⟨sourceFits, target, List.mem_append_right _ targetMember, pointed.symm, allowed, ?_⟩
      exact iff_of_true external (Json.Fields.lookup_set_self _ _ _)

end

end Resolution

namespace Builder

open ChangeImpact.Store (idsFrom identifiedFrom)

section

variable {policy : Policy} {analysis : String} {first : Nat} {extractions : List Extraction}

theorem isExternal_nodesOf (sound : ∀ extraction ∈ extractions, extraction.IsSound) :
    ∀ node ∈ extractions.flatMap (nodesOf analysis), node.isExternal = false := by
  intro node member
  obtain ⟨extraction, among, listed⟩ := List.mem_flatMap.mp member
  obtain ⟨declaration, declared, rfl⟩ := List.mem_map.mp listed
  have plain := ((sound extraction among).plain declaration declared).inside
  have absent : "external" ∉ (Json.Fields.set "language" (Json.Value.str extraction.language)
      declaration.metadata).map Prod.fst := by
    intro found
    rcases Json.Fields.mem_names_set.mp found with language | own
    · exact absurd language (by decide)
    · exact plain own
  unfold Node.isExternal
  dsimp only
  rw [Json.Fields.lookup_eq_none absent]

theorem unmarked_of_mem_pending (sound : ∀ extraction ∈ extractions, extraction.IsSound)
    {nodes : List Node} {pending : PendingEdge}
    (member : pending ∈ (Resolution.ofExtractions (.ofNodes policy nodes) extractions).pending) :
    "unresolvedTarget" ∉ pending.reference.metadata.map Prod.fst := by
  obtain ⟨item, listed, made⟩ := Resolution.mem_pending.mp member
  obtain ⟨extraction, among, inFile⟩ := List.mem_flatMap.mp listed
  obtain ⟨reference, here, rfl⟩ := List.mem_map.mp inFile
  rw [Resolution.pending?_reference made]
  exact (sound extraction among).anchored.unmarked reference here

end

namespace Assembly

variable {policy : Policy} {analysis : String} {first : Nat} {extractions : List Extraction}
  {assembly : Assembly} (made : assembly = assemble policy analysis first extractions)

include made

theorem declared_isExternal (sound : ∀ extraction ∈ extractions, extraction.IsSound) :
    ∀ node ∈ assembly.declared, node.isExternal = false := by
  subst made
  intro node member
  obtain ⟨id, original, among, rfl⟩ := Store.exists_of_mem_identifiedFrom member
  exact isExternal_nodesOf sound original among

theorem exists_placeholder {node : Node} (member : node ∈ assembly.placeholders) :
    ∃ id name, node = (Resolution.placeholder analysis name).withId id := by
  subst made
  obtain ⟨id, original, among, rfl⟩ := Store.exists_of_mem_identifiedFrom member
  obtain ⟨name, _, rfl⟩ := List.mem_map.mp among
  exact ⟨id, name, rfl⟩

theorem placeholders_names :
    assembly.placeholders.map Node.name =
      (Resolution.ofExtractions (.ofNodes policy assembly.declared) extractions).missing := by
  have blind : ∀ id (node : Node), (node.withId id).name = node.name := fun _ _ => rfl
  subst made
  unfold assemble
  dsimp only
  rw [Store.map_identifiedFrom blind, List.map_map]
  exact List.map_id _

theorem placeholders_stand :
    Resolution.Stand policy assembly.declared extractions assembly.placeholders := by
  refine ⟨placeholders_names made, ?_, ?_⟩
  · intro node member
    obtain ⟨id, name, rfl⟩ := exists_placeholder made member
    rfl
  · intro node member
    obtain ⟨id, name, rfl⟩ := exists_placeholder made member
    rfl

/-- The nodes inside the project are the declared ones. -/
theorem filter_not_isExternal (sound : ∀ extraction ∈ extractions, extraction.IsSound) :
    (assembly.nodes.filter fun node => !node.isExternal) = assembly.declared := by
  have inside : (assembly.declared.filter fun node => !node.isExternal) = assembly.declared := by
    rw [List.filter_eq_self]
    intro node member
    rw [declared_isExternal made sound node member]
    rfl
  have outside : (assembly.placeholders.filter fun node => !node.isExternal) = [] := by
    rw [List.filter_eq_nil_iff]
    intro node member
    rw [(placeholders_stand made).external node member]
    exact Bool.false_ne_true
  rw [Assembly.nodes, List.filter_append, inside, outside, List.append_nil]

/-- An edge of an assembly is one of its resolution, under an id. -/
theorem exists_pending {edge : Edge} (member : edge ∈ assembly.edges) :
    ∃ id, ∃ pending ∈
        (Resolution.ofExtractions (.ofNodes policy assembly.declared) extractions).pending,
      edge = (Resolution.edge analysis
        (assembly.placeholders.map fun node => (node.name, node.id)) pending).withId id := by
  subst made
  obtain ⟨id, original, among, rfl⟩ := Store.exists_of_mem_identifiedFrom member
  obtain ⟨pending, listed, rfl⟩ := List.mem_map.mp among
  exact ⟨id, pending, listed, rfl⟩

theorem exists_edge {pending : PendingEdge}
    (member : pending ∈
      (Resolution.ofExtractions (.ofNodes policy assembly.declared) extractions).pending) :
    ∃ id, (Resolution.edge analysis
      (assembly.placeholders.map fun node => (node.name, node.id)) pending).withId id ∈
        assembly.edges := by
  subst made
  exact Store.exists_mem_identifiedFrom (List.mem_map.mpr ⟨pending, member, rfl⟩)

theorem nodes_analysis : ∀ node ∈ assembly.nodes, node.analysis = analysis := by
  intro node member
  rcases List.mem_append.mp member with declared | placed
  · subst made
    obtain ⟨id, original, among, rfl⟩ := Store.exists_of_mem_identifiedFrom declared
    obtain ⟨extraction, _, listed⟩ := List.mem_flatMap.mp among
    obtain ⟨declaration, _, rfl⟩ := List.mem_map.mp listed
    rfl
  · obtain ⟨id, name, rfl⟩ := exists_placeholder made placed
    rfl

theorem edges_analysis : ∀ edge ∈ assembly.edges, edge.analysis = analysis := by
  intro edge member
  obtain ⟨id, pending, _, rfl⟩ := exists_pending made member
  unfold Resolution.edge Edge.withId
  dsimp only
  split <;> rfl

/-- The nodes of an assembly have the ids from the first one on. -/
theorem nodes_ids : assembly.nodes.map Node.id = idsFrom first assembly.nodes.length := by
  have taken : ∀ id (node : Node), (node.withId id).id = id := fun _ _ => rfl
  subst made
  unfold Assembly.nodes assemble
  dsimp only
  rw [List.map_append, List.length_append, Store.map_id_identifiedFrom taken,
    Store.map_id_identifiedFrom taken, Store.identifiedFrom_length, Store.identifiedFrom_length,
    Store.idsFrom_append]

/-- The edges have the ids after those of the nodes. -/
theorem edges_ids :
    assembly.edges.map Edge.id = idsFrom (first + assembly.nodes.length) assembly.edges.length := by
  have taken : ∀ id (edge : Edge), (edge.withId id).id = id := fun _ _ => rfl
  have count : first + assembly.nodes.length =
      first + assembly.declared.length + assembly.placeholders.length := by
    rw [Assembly.nodes, List.length_append, Nat.add_assoc]
  rw [count, edges_eq made, Store.map_id_identifiedFrom taken, Store.identifiedFrom_length]

theorem filter_isExternal (sound : ∀ extraction ∈ extractions, extraction.IsSound) :
    assembly.nodes.filter Node.isExternal = assembly.placeholders := by
  have inside : assembly.declared.filter Node.isExternal = [] := by
    rw [List.filter_eq_nil_iff]
    intro node member
    rw [declared_isExternal made sound node member]
    exact Bool.false_ne_true
  rw [Assembly.nodes, List.filter_append, inside, List.nil_append, List.filter_eq_self]
  exact (placeholders_stand made).external

/-- The graph that sound extractions become is well typed. -/
theorem wellTyped (sound : ∀ extraction ∈ extractions, extraction.IsSound) :
    Graph.WellTyped { analysis, nodes := assembly.nodes, edges := assembly.edges } := by
  have inside := declared_isExternal made sound
  have stand := placeholders_stand made
  constructor
  · rw [nodes_ids made]
    exact Store.idsFrom_nodup _ _
  · intro edge member
    obtain ⟨id, pending, listed, rfl⟩ := exists_pending made member
    have fits := Resolution.edge_fits analysis inside stand listed
      (unmarked_of_mem_pending sound listed)
    exact ⟨fits.source, fits.target⟩
  · rw [filter_isExternal made sound]
    exact stand.names_nodup
  · intro node member external
    have placed : node ∈ assembly.placeholders := by
      rw [← filter_isExternal made sound]
      exact List.mem_filter.mpr ⟨member, external⟩
    have missing : node.name ∈ assembly.placeholders.map Node.name := List.mem_map_of_mem placed
    rw [stand.names] at missing
    obtain ⟨pending, listed, unfound, called⟩ := Resolution.mem_missing.mp missing
    obtain ⟨id, stored⟩ := exists_edge made listed
    exact ⟨_, stored, Resolution.edge_target_of_none analysis stand.names_nodup placed unfound called⟩

end Assembly

end Builder

end ChangeImpact
