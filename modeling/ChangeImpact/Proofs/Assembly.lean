import ChangeImpact.Build
import ChangeImpact.Proofs.Resolution
import ChangeImpact.Proofs.Sources
import ChangeImpact.Proofs.StoredRows

/-!
What a build stores. The nodes, placeholders and edges of extractions get ids one after another, and they are the
rows that end up in the tables.
-/

set_option autoImplicit false

namespace ChangeImpact

def Node.withId (id : String) (node : Node) : Node := { node with id }

def Edge.withId (id : String) (edge : Edge) : Edge := { edge with id }

namespace Builder

open ChangeImpact.Store (Cell idsFrom identifiedFrom)

/-! ### Rows -/

structure HasWholeLines (node : Node) : Prop where
  first : Cell.IsWhole node.lineStart
  last : Cell.IsWhole node.lineEnd

theorem nodeDraft_row {id : String} {node row : Node} (lines : HasWholeLines node)
    (made : (nodeDraft node).row id = .ok row) : row = node.withId id := by
  obtain ⟨analysis, boundAnalysis, made⟩ := Outcome.bind_ok made
  obtain ⟨kind, boundKind, made⟩ := Outcome.bind_ok made
  obtain ⟨name, boundName, made⟩ := Outcome.bind_ok made
  obtain ⟨file, boundFile, made⟩ := Outcome.bind_ok made
  obtain ⟨lineStart, boundStart, made⟩ := Outcome.bind_ok made
  obtain ⟨lineEnd, boundEnd, made⟩ := Outcome.bind_ok made
  cases Cell.bind_str boundAnalysis
  cases Cell.bind_str boundKind
  cases Cell.bind_str boundName
  cases made
  change Node.mk id node.analysis node.kind node.name file.asText lineStart.asNumber
    lineEnd.asNumber node.metadata = _
  rw [Cell.asText_bind_ofOption boundFile, Cell.asNumber_bind lines.first boundStart,
    Cell.asNumber_bind lines.last boundEnd]
  rfl

theorem edgeDraft_row {id : String} {edge row : Edge} (made : (edgeDraft edge).row id = .ok row) :
    row = edge.withId id := by
  obtain ⟨analysis, boundAnalysis, made⟩ := Outcome.bind_ok made
  obtain ⟨source, boundSource, made⟩ := Outcome.bind_ok made
  obtain ⟨target, boundTarget, made⟩ := Outcome.bind_ok made
  obtain ⟨kind, boundKind, made⟩ := Outcome.bind_ok made
  cases Cell.bind_str boundAnalysis
  cases Cell.bind_str boundSource
  cases Cell.bind_str boundTarget
  cases Cell.bind_str boundKind
  cases made
  rfl

/-- Nodes that are kept are rows at the end of the table, under the next ids. -/
theorem keepNodes_ok {nodes kept : List Node} {store after : Store}
    (lines : ∀ node ∈ nodes, HasWholeLines node)
    (done : keepNodes nodes store = (.ok kept, after)) :
    kept = identifiedFrom Node.withId store.nextId nodes ∧
      after.nextId = store.nextId + kept.length ∧
      after.visible = { store.visible with nodes := store.visible.nodes ++ kept } := by
  obtain ⟨ids, between, created, same⟩ := Operation.bind_ok done
  cases same
  obtain ⟨rfl, nextId, rows, made, visible⟩ := Store.createNodes_ok created
  rw [List.length_map] at made nextId ⊢
  change _ ∧ _ = _ + (identifiedFrom Node.withId store.nextId nodes).length ∧ _
  rw [Store.identifiedFrom_length]
  rw [List.zip_map_right, List.forall₂_map_left_iff] at made
  have known := Store.rows_eq_identifiedFrom (fun id node => (nodeDraft node).row id)
    (fun node member _ _ => nodeDraft_row (lines node member)) made
  rw [known] at visible
  exact ⟨rfl, nextId, visible⟩

theorem createEdges_edgeDraft_ok {edges : List Edge} {ids : List String} {store after : Store}
    (done : Store.createEdges (edges.map edgeDraft) store = (.ok ids, after)) :
    ∃ kept, kept = identifiedFrom Edge.withId store.nextId edges ∧
      after.nextId = store.nextId + kept.length ∧
      after.visible = { store.visible with edges := store.visible.edges ++ kept } := by
  obtain ⟨rfl, nextId, rows, made, _, visible⟩ := Store.createEdges_ok done
  rw [List.length_map] at made nextId
  rw [List.zip_map_right, List.forall₂_map_left_iff] at made
  have known := Store.rows_eq_identifiedFrom (fun id edge => (edgeDraft edge).row id)
    (fun _ _ _ _ => edgeDraft_row) made
  refine ⟨rows, known, ?_, visible⟩
  rw [known, Store.identifiedFrom_length]
  exact nextId

theorem steady_keepNodes (nodes : List Node) : Store.Steady (keepNodes nodes) :=
  (Store.steady_createNodes _).bind fun _ => Store.steady_pure _

theorem steady_resolveEdges (index : NameIndex) (analysis : String) (extractions : List Extraction) :
    Store.Steady (resolveEdges index analysis extractions) :=
  (steady_keepNodes _).bind fun _ => Store.steady_pure _

/-! ### The rows of a build -/

/-- The rows of extractions: nodes for what is declared, placeholders for what is not, and edges. -/
structure Assembly where
  declared : List Node
  placeholders : List Node
  edges : List Edge
  dropped : Nat

def assemble (policy : Policy) (analysis : String) (first : Nat) (extractions : List Extraction) :
    Assembly :=
  let declared := identifiedFrom Node.withId first (extractions.flatMap (nodesOf analysis))
  let resolution := Resolution.ofExtractions (.ofNodes policy declared) extractions
  let placeholders := identifiedFrom Node.withId (first + declared.length)
    (resolution.missing.map (Resolution.placeholder analysis))
  let ids := placeholders.map fun node => (node.name, node.id)
  let edges := identifiedFrom Edge.withId (first + declared.length + placeholders.length)
    (resolution.pending.map (Resolution.edge analysis ids))
  { declared, placeholders, edges, dropped := resolution.dropped }

namespace Assembly

section

variable {policy : Policy} {analysis : String} {first : Nat} {extractions : List Extraction}
  {assembly : Assembly} (made : assembly = assemble policy analysis first extractions)

include made

theorem declared_eq : assembly.declared =
    identifiedFrom Node.withId first (extractions.flatMap (nodesOf analysis)) := by
  rw [made]
  rfl

theorem placeholders_eq : assembly.placeholders =
    identifiedFrom Node.withId (first + assembly.declared.length)
      ((Resolution.ofExtractions (.ofNodes policy assembly.declared) extractions).missing.map
        (Resolution.placeholder analysis)) := by
  rw [made]
  rfl

theorem edges_eq : assembly.edges =
    identifiedFrom Edge.withId (first + assembly.declared.length + assembly.placeholders.length)
      ((Resolution.ofExtractions (.ofNodes policy assembly.declared) extractions).pending.map
        (Resolution.edge analysis (assembly.placeholders.map fun node => (node.name, node.id)))) := by
  rw [made]
  rfl

end

def nodes (assembly : Assembly) : List Node := assembly.declared ++ assembly.placeholders

def size (assembly : Assembly) : Nat := assembly.nodes.length + assembly.edges.length

def addTo (assembly : Assembly) (image : Store.Image) : Store.Image :=
  { image with
    nodes := image.nodes ++ assembly.nodes
    edges := image.edges ++ assembly.edges }

end Assembly

theorem nodesOf_hasWholeLines {analysis : String} {extractions : List Extraction}
    (sound : ∀ extraction ∈ extractions, extraction.IsSound) :
    ∀ node ∈ extractions.flatMap (nodesOf analysis), HasWholeLines node := by
  intro node member
  obtain ⟨extraction, among, listed⟩ := List.mem_flatMap.mp member
  obtain ⟨declaration, declared, rfl⟩ := List.mem_map.mp listed
  obtain ⟨first, last, lineStart, lineEnd⟩ := ((sound extraction among).plain declaration declared).lines
  exact ⟨Or.inr ⟨_, lineStart⟩, Or.inr ⟨_, lineEnd⟩⟩

theorem placeholders_hasWholeLines (analysis : String) (names : List String) :
    ∀ node ∈ names.map (Resolution.placeholder analysis), HasWholeLines node := by
  intro node member
  obtain ⟨name, _, rfl⟩ := List.mem_map.mp member
  exact ⟨Or.inl rfl, Or.inl rfl⟩

/-- What is stored of sound extractions is their assembly. -/
theorem persist_ok {policy : Policy} {analysis : String} {extractions : List Extraction}
    {store after : Store} {counts : Nat × Nat}
    (sound : ∀ extraction ∈ extractions, extraction.IsSound)
    (done : persist policy analysis extractions store = (.ok counts, after)) :
    let assembly := assemble policy analysis store.nextId extractions
    counts = (assembly.placeholders.length, assembly.dropped) ∧
      after.visible = assembly.addTo store.visible ∧
      after.nextId = store.nextId + assembly.size := by
  obtain ⟨inner, run, visible, nextId⟩ := Store.transaction_ok done
  obtain ⟨declared, one, keptDeclared, run⟩ := Operation.bind_ok run
  obtain ⟨rowsOne, nextOne, visibleOne⟩ := keepNodes_ok (nodesOf_hasWholeLines sound) keptDeclared
  obtain ⟨_, two, resolved, run⟩ := Operation.bind_ok run
  obtain ⟨placeholders, _, keptPlaceholders, same⟩ := Operation.bind_ok resolved
  cases same
  obtain ⟨rowsTwo, nextTwo, visibleTwo⟩ :=
    keepNodes_ok (placeholders_hasWholeLines analysis _) keptPlaceholders
  obtain ⟨ids, three, created, same⟩ := Operation.bind_ok run
  cases same
  obtain ⟨edges, rowsThree, nextThree, visibleThree⟩ := createEdges_edgeDraft_ok created
  rw [nextTwo, nextOne] at rowsThree nextThree
  rw [nextOne] at rowsTwo
  have rows : assemble policy analysis store.nextId extractions =
      ⟨declared, placeholders, edges,
        (Resolution.ofExtractions (.ofNodes policy declared) extractions).dropped⟩ := by
    rw [rowsThree, rowsTwo, rowsOne]
    rfl
  intro assembly
  have same : assembly = _ := rows
  rw [same]
  refine ⟨rfl, ?_, ?_⟩
  · rw [visible, visibleThree, visibleTwo, visibleOne]
    unfold Assembly.addTo Assembly.nodes
    rw [← List.append_assoc]
    rfl
  · rw [nextId, nextThree]
    unfold Assembly.size Assembly.nodes
    rw [List.length_append, ← Nat.add_assoc, ← Nat.add_assoc]
    rfl

end Builder

end ChangeImpact
