import ChangeImpact.Proofs.Batches
import ChangeImpact.Proofs.Refusals

/-!
References become edges, one for one. A reference whose source has no node is dropped and counted; of the others each
gives one edge, in order. Where the target has no node either, the edge goes to the placeholder of that name, and there
is one placeholder for each such name.
-/

set_option autoImplicit false

namespace ChangeImpact

namespace Resolution

def hasSource (index : NameIndex) (item : String × Reference) : Bool :=
  (index.resolve item.2.source item.1 (some sourceKinds)).isSome

/-- The targets without a node of references that are not dropped, as often as they come. -/
def lostNames (index : NameIndex) (items : List (String × Reference)) : List String :=
  ((items.filter (hasSource index)).filter fun item => (target? index item.1 item.2).isNone).map
    fun item => item.2.target

structure Becomes (index : NameIndex) (analysis : String) (placeholders : List Node) (item : String × Reference)
    (edge : Edge) : Prop where
  analysis : edge.analysis = analysis
  kind : edge.kind = item.2.kind
  source : ∃ node, index.resolve item.2.source item.1 (some sourceKinds) = some node ∧ edge.source = node.id
  target : ∀ node, target? index item.1 item.2 = some node → edge.target = node.id ∧ edge.metadata = item.2.metadata
  placeholder : target? index item.1 item.2 = none →
    (∃ node ∈ placeholders, node.name = item.2.target ∧ edge.target = node.id) ∧
      edge.metadata = Json.Fields.set "unresolvedTarget" (.bool true) item.2.metadata

section

variable (index : NameIndex)

theorem pending?_isSome (item : String × Reference) : (pending? index item).isSome = hasSource index item :=
  Option.isSome_map

theorem pending_of_items (items : List (String × Reference)) :
    List.Forall₂ (fun item pending => pending? index item = some pending) (items.filter (hasSource index))
      (items.filterMap (pending? index)) := by
  induction items with
  | nil => exact List.Forall₂.nil
  | cons item rest ih =>
      have known := pending?_isSome index item
      cases made : pending? index item with
      | none =>
          rw [made] at known
          rw [List.filter_cons_of_neg (by simp [← known]), List.filterMap_cons_none made]
          exact ih
      | some pending =>
          rw [made] at known
          rw [List.filter_cons_of_pos (by simp [← known]), List.filterMap_cons_some made]
          exact List.Forall₂.cons made ih

theorem pending_length_add_dropped (items : List (String × Reference)) :
    (items.filterMap (pending? index)).length + (items.filter fun item => (pending? index item).isNone).length =
      items.length := by
  induction items with
  | nil => rfl
  | cons item rest ih =>
      cases made : pending? index item with
      | none =>
          rw [List.filterMap_cons_none made, List.filter_cons_of_pos (by simp [made])]
          simp only [List.length_cons]
          omega
      | some pending =>
          rw [List.filterMap_cons_some made, List.filter_cons_of_neg (by simp [made])]
          simp only [List.length_cons]
          omega

theorem unresolved_eq_lostNames (items : List (String × Reference)) :
    unresolved (items.filterMap (pending? index)) = lostNames index items := by
  have same := pending_of_items index items
  unfold unresolved lostNames
  generalize items.filterMap (pending? index) = pending at same
  generalize items.filter (hasSource index) = kept at same
  induction same with
  | nil => rfl
  | @cons item pending kept others made _ ih =>
      obtain ⟨source, _, rfl⟩ := Option.map_eq_some_iff.mp made
      cases found : target? index item.1 item.2 with
      | none => simpa [found] using ih
      | some node => simpa [found] using ih

theorem missing_eq (extractions : List Extraction) :
    (ofExtractions index extractions).missing = distinct (lostNames index (referencesOf extractions)) := by
  rw [ofExtractions_missing, unresolved_eq_lostNames]

end

variable {index : NameIndex}

theorem edge_becomes {placeholders : List Node} (names : (placeholders.map Node.name).Nodup) (analysis : String)
    {item : String × Reference} {pending : PendingEdge} (made : pending? index item = some pending)
    (stands : target? index item.1 item.2 = none → ∃ node ∈ placeholders, node.name = item.2.target) :
    Becomes index analysis placeholders item
      (edge analysis (placeholders.map fun node => (node.name, node.id)) pending) := by
  obtain ⟨source, resolved, rfl⟩ := Option.map_eq_some_iff.mp made
  cases found : target? index item.1 item.2 with
  | some target =>
      refine ⟨rfl, rfl, ⟨source, resolved, rfl⟩, ?_, fun missing => (nomatch found.symm.trans missing)⟩
      intro node isTarget
      cases found.symm.trans isTarget
      exact ⟨rfl, rfl⟩
  | none =>
      refine ⟨rfl, rfl, ⟨source, resolved, rfl⟩, fun node known => (nomatch found.symm.trans known),
        fun _ => ⟨?_, rfl⟩⟩
      obtain ⟨node, member, called⟩ := stands found
      exact ⟨node, member, called, edge_target_of_none analysis names member rfl called.symm⟩

theorem edges_become {placeholders : List Node} (names : (placeholders.map Node.name).Nodup) (analysis : String)
    (items : List (String × Reference))
    (stand : ∀ name ∈ lostNames index items, ∃ node ∈ placeholders, node.name = name) :
    List.Forall₂ (Becomes index analysis placeholders) (items.filter (hasSource index))
      ((items.filterMap (pending? index)).map
        (edge analysis (placeholders.map fun node => (node.name, node.id)))) := by
  have stands : ∀ item ∈ items.filter (hasSource index), target? index item.1 item.2 = none →
      ∃ node ∈ placeholders, node.name = item.2.target := by
    intro item kept missing
    apply stand
    exact List.mem_map.mpr ⟨item, List.mem_filter.mpr ⟨kept, by rw [missing]; rfl⟩, rfl⟩
  have both := (List.forall₂_and_left _ _).mpr ⟨stands, pending_of_items index items⟩
  rw [List.forall₂_map_right_iff]
  exact both.imp fun item pending both => edge_becomes names analysis both.2 both.1

end Resolution

namespace Builder

open ChangeImpact.Outcome (fault?)

theorem placeholder_refusal? (analysis name : String) :
    (nodeDraft (Resolution.placeholder analysis name)).refusal? =
      ([analysis, name].findSome? Text.encodeFault?).map Store.Cause.unencodable := by
  have kind : Text.encodeFault? NodeKind.moduleKind.name = none := by decide +kernel
  unfold Store.NodeDraft.refusal? Store.NodeDraft.row nodeDraft Resolution.placeholder
  rw [bind_str_fault?, bind_str_fault?, bind_str_fault?, kind]
  simp only [List.findSome?_cons]
  cases Text.encodeFault? analysis with
  | some fault => rfl
  | none => cases Text.encodeFault? name <;> rfl

section

variable {index : NameIndex} {analysis : String} {extractions : List Extraction} {store : Store}

theorem keepNodes_nil (store : Store) : keepNodes [] store = (.ok [], store) := rfl

/-- Nothing is kept in a store that is closed. -/
theorem keepNodes_of_closed (closed : store.isClosed = true) {nodes : List Node} (some : nodes ≠ []) :
    fault? (keepNodes nodes store).1 ≠ none := by
  have filled : (Store.Batch.nodes (nodes.map nodeDraft)).size ≠ 0 := by
    simpa [Store.Batch.size] using some
  have failed : Store.createNodes (nodes.map nodeDraft) store = _ := Store.Batch.create_of_closed closed filled
  unfold keepNodes
  rw [Operation.bind_of_error failed]
  exact Option.some_ne_none _

/-- Edges can be resolved if no placeholder is needed, or if the store is open and all texts can be written. -/
theorem resolveEdges_isOk_iff :
    (resolveEdges index analysis extractions store).1.isOk = true ↔
      Resolution.lostNames index (Resolution.referencesOf extractions) = [] ∨
        store.isClosed = false ∧
          ∀ text ∈ analysis :: Resolution.lostNames index (Resolution.referencesOf extractions),
            Text.encodeFault? text = none := by
  have kept : fault? (resolveEdges index analysis extractions store).1 =
      fault? (keepNodes ((distinct (Resolution.lostNames index (Resolution.referencesOf extractions))).map
        (Resolution.placeholder analysis)) store).1 := by
    rw [← Resolution.missing_eq]
    refine (Store.bind_fault? none ?_).trans Option.or_none
    intro placed between _
    rfl
  have returns : (resolveEdges index analysis extractions store).1.isOk = true ↔
      fault? (resolveEdges index analysis extractions store).1 = none := by
    cases (resolveEdges index analysis extractions store).1 <;> simp [fault?, Except.isOk, Except.toBool]
  rw [returns, kept]
  generalize Resolution.lostNames index (Resolution.referencesOf extractions) = lost
  by_cases needed : lost = []
  · subst needed
    simp [distinct, fresh, keepNodes_nil, fault?]
  · obtain ⟨name, member⟩ := List.exists_mem_of_ne_nil lost needed
    cases closed : store.isClosed with
    | true =>
        have some : (distinct lost).map (Resolution.placeholder analysis) ≠ [] :=
          List.ne_nil_of_mem (List.mem_map_of_mem (mem_distinct.mpr member))
        simp [keepNodes_of_closed closed some, needed]
    | false =>
        rw [keepNodes_fault? closed]
        simp only [Option.map_eq_none_iff, List.findSome?_eq_none_iff, List.forall_mem_map, mem_distinct,
          placeholder_refusal?, List.forall_mem_cons, needed, false_or, true_and]
        constructor
        · intro written
          exact ⟨(written name member).1, fun other listed => (written other listed).2.1⟩
        · rintro ⟨first, others⟩ other listed
          exact ⟨first, others other listed, List.forall_mem_nil _⟩

end

/-- Resolution conserves references. It returns whenever the placeholders it needs can be stored. Then the edges are the
references whose source has a node, in order and one each, and all other references are counted as dropped. The
placeholders it has stored are those of the names that edges point to without finding a node, one for each name and in
the order in which the names first come. -/
theorem references_become_edges (index : NameIndex) (analysis : String) (extractions : List Extraction)
    (store : Store) :
    let references := Resolution.referencesOf extractions
    let lost := Resolution.lostNames index references
    ((resolveEdges index analysis extractions store).1.isOk = true ↔
      lost = [] ∨ store.isClosed = false ∧ ∀ text ∈ analysis :: lost, Text.encodeFault? text = none) ∧
    ∀ edges created dropped after,
      resolveEdges index analysis extractions store = (.ok (edges, created, dropped), after) →
      edges.length + dropped = references.length ∧
      ∃ placeholders : List Node,
        List.Forall₂ (Resolution.Becomes index analysis placeholders)
          (references.filter (Resolution.hasSource index)) edges ∧
        created = placeholders.length ∧
        after.visible = { store.visible with nodes := store.visible.nodes ++ placeholders } ∧
        (∀ node ∈ placeholders, node = (Resolution.placeholder analysis node.name).withId node.id) ∧
        (placeholders.map Node.id).Nodup ∧
        (∀ name, name ∈ placeholders.map Node.name ↔ name ∈ lost) ∧
        (placeholders.map Node.name).Pairwise fun earlier later => lost.idxOf earlier < lost.idxOf later := by
  intro references lost
  refine ⟨resolveEdges_isOk_iff, ?_⟩
  intro edges created dropped after done
  obtain ⟨placeholders, between, kept, same⟩ := Operation.bind_ok done
  cases same
  obtain ⟨rows, _, visible⟩ := keepNodes_ok (placeholders_hasWholeLines analysis _) kept
  have names : placeholders.map Node.name = distinct lost := by
    have blind : ∀ id (node : Node), (node.withId id).name = node.name := fun _ _ => rfl
    rw [rows, Store.map_identifiedFrom blind, Resolution.missing_eq, List.map_map]
    exact List.map_id _
  have ids : (placeholders.map Node.id).Nodup := by
    have taken : ∀ id (node : Node), (node.withId id).id = id := fun _ _ => rfl
    rw [rows, Store.map_id_identifiedFrom taken]
    exact Store.idsFrom_nodup _ _
  have made : ∀ node ∈ placeholders, node = (Resolution.placeholder analysis node.name).withId node.id := by
    intro node member
    rw [rows] at member
    obtain ⟨id, original, listed, rfl⟩ := Store.exists_of_mem_identifiedFrom member
    obtain ⟨name, _, rfl⟩ := List.mem_map.mp listed
    rfl
  have stand : ∀ name ∈ lost, ∃ node ∈ placeholders, node.name = name := by
    intro name member
    exact List.mem_map.mp (names ▸ mem_distinct.mpr member)
  refine ⟨?_, placeholders, ?_, rfl, visible, made, ids, ?_, ?_⟩
  · rw [List.length_map, Resolution.ofExtractions_pending, Resolution.ofExtractions_dropped]
    exact Resolution.pending_length_add_dropped index references
  · rw [Resolution.ofExtractions_pending]
    exact Resolution.edges_become (names ▸ distinct_nodup lost) analysis references stand
  · intro name
    rw [names, mem_distinct]
  · rw [names]
    exact distinct_order lost

def strayIndex : NameIndex :=
  .ofNodes .lastWriter [{ id := "id-0", analysis := "a", kind := .functionKind, name := "f", file := some "a.py" }]

/-- The calls of two files: some of what they call is unknown, and one call has no function around it. -/
def strayExtractions : List Extraction :=
  let call := fun source target => { source, target, kind := .calls, metadata := Extraction.onLine 1 : Reference }
  [{ file := "a.py", language := "python", references := [call "f" "h", call "f" "f", call "?" "k", call "f" "g"] },
    { file := "b.py", language := "python", references := [call "f" "h"] }]

/-- Four of five calls become edges, and the two names that have no node get a placeholder each. -/
theorem references_become_edges_strays :
    ∃ edges after, resolveEdges strayIndex "a" strayExtractions {} = (.ok (edges, 2, 1), after) ∧
      edges.length + 1 = 5 ∧ edges.map Edge.target = ["id-1", "id-0", "id-2", "id-1"] ∧
      ∃ placeholders, after.visible.nodes = placeholders ∧
        ∀ name, name ∈ placeholders.map Node.name ↔ name ∈ ["h", "g", "h"] := by
  have lost : Resolution.lostNames strayIndex (Resolution.referencesOf strayExtractions) = ["h", "g", "h"] := by
    decide +kernel
  have count : (Resolution.referencesOf strayExtractions).length = 5 := by decide +kernel
  have counts : (resolveEdges strayIndex "a" strayExtractions {}).1.toOption.map
      (fun made => (made.1.map Edge.target, made.2)) = some (["id-1", "id-0", "id-2", "id-1"], 2, 1) := by
    decide +kernel
  rcases done : resolveEdges strayIndex "a" strayExtractions {} with ⟨fault | ⟨edges, created, dropped⟩, after⟩
  · rw [done] at counts
    cases counts
  · rw [done] at counts
    obtain ⟨targets, numbers⟩ := Prod.mk.inj (Option.some.inj counts)
    cases numbers
    obtain ⟨conserved, placeholders, _, _, visible, _, _, names, _⟩ :=
      (references_become_edges strayIndex "a" strayExtractions {}).2 edges 2 1 after done
    rw [count] at conserved
    rw [lost] at names
    exact ⟨edges, after, rfl, conserved, targets, placeholders, congrArg Store.Image.nodes visible, names⟩

end Builder

end ChangeImpact
