import ChangeImpact.Proofs.Atomicity
import ChangeImpact.Proofs.Integrity

/-!
Deletions take one analysis away and nothing else. The nodes of the analysis take all edges at them along, so an edge of
another analysis goes only if it ends at such a node. Where edges stay within their own analysis, no answer about any
other one changes.
-/

set_option autoImplicit false

namespace ChangeImpact.Store

/-! ### Images -/

namespace Image

def Touches (image : Image) (analysis : String) (edge : Edge) : Prop :=
  ∃ node ∈ image.nodes, node.analysis = analysis ∧ (node.id = edge.source ∨ node.id = edge.target)

instance (image : Image) (analysis : String) (edge : Edge) : Decidable (image.Touches analysis edge) :=
  inferInstanceAs (Decidable (∃ node ∈ image.nodes, _))

/-- The image less the graph of an analysis: its nodes, its edges and the edges at its nodes. -/
def lessGraph (analysis : String) (image : Image) : Image :=
  { image with
    nodes := image.nodes.filter fun node => node.analysis ≠ analysis
    edges := image.edges.filter fun edge => edge.analysis ≠ analysis ∧ ¬image.Touches analysis edge }

def lessAnalysis (analysis : String) (image : Image) : Image :=
  { image.lessGraph analysis with
    findings := image.findings.filter fun found => found.analysis ≠ analysis
    records := image.records.filter fun record => record.id ≠ some analysis }

def JoinsOwn (image : Image) : Prop :=
  ∀ edge ∈ image.edges, ∀ node ∈ image.nodes,
    node.id = edge.source ∨ node.id = edge.target → node.analysis = edge.analysis

variable {image : Image}

/-- The node of an end is unique, so the end is cut off exactly when that node is one of the analysis. -/
theorem Linked.cut_iff (linked : image.Linked) (analysis : String) {id : String}
    (present : id ∈ image.nodes.map Node.id) :
    ({ image with nodes := image.nodes.filter fun node => node.analysis ≠ analysis } : Image).hasNode id = false ↔
      ∃ node ∈ image.nodes, node.analysis = analysis ∧ node.id = id := by
  rw [← Bool.not_eq_true, hasNode_iff]
  constructor
  · intro absent
    obtain ⟨node, member, same⟩ := List.mem_map.mp present
    refine ⟨node, member, ?_, same⟩
    by_contra other
    exact absent (List.mem_map.mpr ⟨node, List.mem_filter.mpr ⟨member, decide_eq_true other⟩, same⟩)
  · rintro ⟨node, member, own, same⟩ kept
    obtain ⟨other, found, sameId⟩ := List.mem_map.mp kept
    obtain ⟨stored, foreign⟩ := List.mem_filter.mp found
    have equal : other = node := List.inj_on_of_nodup_map linked.distinct stored member (sameId.trans same.symm)
    exact of_decide_eq_true foreign (equal ▸ own)

/-- Where ids are distinct and edges have ends, deleting the nodes takes exactly the edges at them. -/
theorem Linked.without_eq (linked : image.Linked) (analysis : String) :
    image.without analysis = image.lessGraph analysis := by
  have edges : (image.without analysis).edges = (image.lessGraph analysis).edges := by
    unfold without dropNodes dropEdges lessGraph
    dsimp only
    rw [List.filter_filter]
    apply List.filter_congr
    intro edge member
    obtain ⟨source, target⟩ := linked.ends edge member
    have there : image.hasNode edge.source = true ∧ image.hasNode edge.target = true :=
      ⟨hasNode_iff.mpr source, hasNode_iff.mpr target⟩
    have cutSource := linked.cut_iff analysis source
    have cutTarget := linked.cut_iff analysis target
    unfold hasNode at there cutSource cutTarget ⊢
    dsimp only at there cutSource cutTarget ⊢
    rw [there.1, there.2, Bool.eq_iff_iff]
    simp only [Bool.and_eq_true, Bool.true_and, Bool.not_not, decide_eq_true_eq]
    rw [← Bool.not_eq_false, ← Bool.not_eq_false, cutSource, cutTarget, and_comm, ← not_or]
    unfold Touches
    simp only [and_or_left, exists_or]
  exact congrArg (fun edges => ({ image.lessGraph analysis with edges } : Image)) edges

theorem Linked.forget_eq (linked : image.Linked) (analysis : String) :
    image.forget analysis = image.lessAnalysis analysis := by
  unfold forget lessAnalysis
  rw [linked.without_eq]

/-- What is left of an image has no node of the analysis. -/
theorem not_touches_lessGraph (analysis : String) (edge : Edge) :
    ¬(image.lessGraph analysis).Touches analysis edge := by
  rintro ⟨node, member, own, _⟩
  exact of_decide_eq_true (List.mem_filter.mp member).2 own

theorem lessGraph_lessGraph (analysis : String) (image : Image) :
    (image.lessGraph analysis).lessGraph analysis = image.lessGraph analysis := by
  have nodes : ((image.lessGraph analysis).lessGraph analysis).nodes = (image.lessGraph analysis).nodes := by
    apply List.filter_eq_self.mpr
    intro node member
    exact (List.mem_filter.mp member).2
  have edges : ((image.lessGraph analysis).lessGraph analysis).edges = (image.lessGraph analysis).edges := by
    apply List.filter_eq_self.mpr
    intro edge member
    have kept := of_decide_eq_true (List.mem_filter.mp member).2
    exact decide_eq_true ⟨kept.1, not_touches_lessGraph analysis edge⟩
  exact congrArg₂ (fun nodes edges => ({ image with nodes, edges } : Image)) nodes edges

theorem lessAnalysis_lessAnalysis (analysis : String) (image : Image) :
    (image.lessAnalysis analysis).lessAnalysis analysis = image.lessAnalysis analysis := by
  have graph : (image.lessAnalysis analysis).lessGraph analysis =
      { image.lessAnalysis analysis with
        nodes := ((image.lessGraph analysis).lessGraph analysis).nodes
        edges := ((image.lessGraph analysis).lessGraph analysis).edges } := rfl
  unfold lessAnalysis at graph ⊢
  rw [graph, lessGraph_lessGraph]
  simp only [List.filter_filter, Bool.and_self]

/-- An analysis whose record is gone has none. -/
theorem hasRecord_lessAnalysis (analysis : String) (image : Image) :
    (image.lessAnalysis analysis).hasRecord analysis = false := by
  unfold hasRecord
  rw [List.any_eq_false]
  intro record member same
  exact of_decide_eq_true (List.mem_filter.mp member).2 (beq_iff_eq.mp same)

/-! ### Other analyses -/

section

variable {analysis other : String} (different : other ≠ analysis)

include different

/-- Edges that only join nodes of their own analysis are spared with it. -/
theorem JoinsOwn.graphOf_lessGraph (joins : image.JoinsOwn) :
    (image.lessGraph analysis).graphOf other = image.graphOf other := by
  have nodes : (image.lessGraph analysis).nodesOf other = image.nodesOf other := by
    unfold nodesOf lessGraph
    rw [List.filter_filter]
    apply List.filter_congr
    intro node _
    by_cases own : node.analysis = other
    · simp [own, different]
    · simp [own]
  have edges : (image.lessGraph analysis).edgesOf other = image.edgesOf other := by
    unfold edgesOf lessGraph
    rw [List.filter_filter]
    apply List.filter_congr
    intro edge member
    by_cases own : edge.analysis = other
    · have spared : ¬image.Touches analysis edge := by
        rintro ⟨node, stored, inside, ends⟩
        exact different (own.symm.trans ((joins edge member node stored ends).symm.trans inside))
      simp [own, different, spared]
    · simp [own]
  unfold graphOf
  rw [nodes, edges]

theorem rowsOf_lessAnalysis (image : Image) :
    (image.lessAnalysis analysis).rowsOf other = image.rowsOf other := by
  unfold rowsOf lessAnalysis
  rw [List.filter_filter]
  apply List.filter_congr
  intro row _
  by_cases own : row.analysis = other
  · simp [own, different]
  · simp [own]

theorem find?_record_lessAnalysis (image : Image) :
    (image.lessAnalysis analysis).records.find? (fun record => record.id == some other) =
      image.records.find? fun record => record.id == some other := by
  unfold lessAnalysis
  rw [List.find?_filter]
  congr 1
  funext record
  by_cases own : record.id = some other
  · simp [own, different]
  · simp [own]

end

end Image

/-! ### Stores -/

/-- The store showing another image. Outside of all transactions the image is committed as well. -/
def showing (store : Store) (image : Image) : Store :=
  { store with
    visible := image
    committed := if store.depth = 0 then image else store.committed }

structure CanDelete (store : Store) (analysis : String) : Prop where
  isOpen : store.isClosed = false
  written : Text.encodeFault? analysis = none

section

variable {α : Type} {store : Store} {analysis : String}

theorem showing_showing (store : Store) (one two : Image) :
    (store.showing one).showing two = store.showing two := by
  unfold showing
  dsimp only
  split <;> rfl

theorem showing_enter (store : Store) (image : Image) :
    store.enter.showing image = { store.enter with visible := image } := rfl

/-- A transaction on an open store whose operation only changes what is seen. -/
theorem transaction_showing {body : Action Fault α} (isOpen : store.isClosed = false) {value : α} {image : Image}
    (ran : body store.enter = (.ok value, store.enter.showing image)) :
    transaction body store = (.ok value, store.showing image) := by
  rw [transaction_of_ok ran, showing_enter]
  unfold leave commitIfOutside commit showing enter
  simp only [Nat.add_sub_cancel, isOpen, Bool.false_eq_true, if_false]
  by_cases outside : store.depth = 0
  · simp only [outside, if_true]
  · simp only [outside, if_false]

/-- A transaction whose operation fails at once leaves what giving it up leaves. -/
theorem transaction_abandoned {body : Action Fault α} {fault : Fault}
    (failed : body store.enter = (.error fault, store.enter)) :
    ∃ cause, transaction body store = (.error cause, (abandon store.enter).2) := by
  rw [transaction_of_error failed]
  rcases abandon store.enter with ⟨worse | _, last⟩
  · exact ⟨worse, rfl⟩
  · exact ⟨fault, rfl⟩

theorem CanDelete.remove_run (can : CanDelete store analysis) (activity : Activity) (change : Image → Image) :
    remove activity analysis change store = (.ok (), { store with visible := change store.visible }) := by
  unfold remove execute Cell.bindTexts
  rw [can.isOpen, List.findSome?_cons, can.written]
  rfl

theorem CanDelete.deleteGraph_run (can : CanDelete store analysis) :
    deleteGraph analysis store = (.ok (), store.showing (store.visible.without analysis)) := by
  have entered : CanDelete store.enter analysis := ⟨can.isOpen, can.written⟩
  have edges := entered.remove_run (.deleteGraph analysis) (Image.dropEdges analysis)
  have cut : CanDelete { store.enter with visible := store.visible.dropEdges analysis } analysis :=
    ⟨can.isOpen, can.written⟩
  have nodes := cut.remove_run (.deleteGraph analysis) (Image.dropNodes analysis)
  exact transaction_showing can.isOpen ((Operation.bind_of_ok edges).trans nodes)

theorem CanDelete.deleteAnalysis_run (can : CanDelete store analysis) :
    deleteAnalysis analysis store =
      (.ok (store.visible.hasRecord analysis), store.showing (store.visible.forget analysis)) := by
  let cleared : Image := store.visible.without analysis
  let bare : Image := { cleared with findings := cleared.findings.filter fun found => found.analysis ≠ analysis }
  have changed : ∀ image, CanDelete { store.enter with visible := image } analysis :=
    fun _ => ⟨can.isOpen, can.written⟩
  have graph := (changed store.visible).deleteGraph_run
  have findings := (changed cleared).remove_run (.deleteAnalysis analysis) fun image =>
    { image with findings := image.findings.filter fun found => found.analysis ≠ analysis }
  have asked : query (.failed (.deleteAnalysis analysis) .closed) [] (Image.hasRecord analysis)
      { store.enter with visible := bare } =
        (.ok (store.visible.hasRecord analysis), { store.enter with visible := bare }) := by
    unfold query
    rw [(changed bare).isOpen]
    rfl
  have records := (changed bare).remove_run (.deleteAnalysis analysis) fun image =>
    { image with records := image.records.filter fun record => record.id ≠ some analysis }
  refine transaction_showing can.isOpen ((Operation.bind_of_ok graph).trans ?_)
  refine (Operation.bind_of_ok findings).trans ((Operation.bind_of_ok asked).trans ?_)
  exact Operation.bind_of_ok records

/-- A statement about an analysis that cannot be deleted is refused. -/
theorem remove_refused (refused : ¬CanDelete store analysis) (activity : Activity) (change : Image → Image) :
    ∃ fault, remove activity analysis change store = (.error fault, store) := by
  unfold remove execute Cell.bindTexts
  cases closed : store.isClosed with
  | true => exact ⟨_, rfl⟩
  | false =>
      cases written : Text.encodeFault? analysis with
      | none => exact absurd ⟨closed, written⟩ refused
      | some fault =>
          rw [List.findSome?_cons, written]
          exact ⟨_, rfl⟩

theorem deleteGraph_refused (refused : ¬CanDelete store analysis) :
    ∃ fault, deleteGraph analysis store = (.error fault, (abandon store.enter).2) := by
  have entered : ¬CanDelete store.enter analysis := fun can => refused ⟨can.isOpen, can.written⟩
  obtain ⟨fault, failed⟩ := remove_refused entered (.deleteGraph analysis) (Image.dropEdges analysis)
  exact transaction_abandoned (Operation.bind_of_error failed)

theorem deleteAnalysis_refused (refused : ¬CanDelete store analysis) :
    ∃ fault, deleteAnalysis analysis store = (.error fault, (abandon store.enter).2) := by
  have entered : ¬CanDelete store.enter analysis := fun can => refused ⟨can.isOpen, can.written⟩
  obtain ⟨fault, failed⟩ := deleteGraph_refused entered
  rw [abandon_enter (Nat.succ_pos store.depth)] at failed
  exact transaction_abandoned (Operation.bind_of_error failed)

end

/-! ### Answers -/

structure SameAbout (analysis : String) (before after : Store) : Prop where
  graph : (fullGraph analysis after).1 = (fullGraph analysis before).1
  findings : ∀ held severity,
    (findFindings analysis held severity after).1 = (findFindings analysis held severity before).1
  record : (findRecord analysis after).1 = (findRecord analysis before).1

section

variable {analysis : String} {before after : Store} (closed : after.isClosed = before.isClosed)

include closed

theorem query_congr {α : Type} {read : Image → α} (same : read after.visible = read before.visible) (refusal : Fault)
    (parameters : List String) :
    (query refusal parameters read after).1 = (query refusal parameters read before).1 := by
  unfold query
  rw [closed, same]
  split
  · rfl
  split <;> rfl

/-- The graph is read in two questions, each of which sees the same rows. -/
theorem fullGraph_congr (same : after.visible.graphOf analysis = before.visible.graphOf analysis) :
    (fullGraph analysis after).1 = (fullGraph analysis before).1 := by
  have nodes : (findNodes analysis none none after).1 = (findNodes analysis none none before).1 := by
    have rows : after.visible.nodesOf analysis = before.visible.nodesOf analysis := congrArg Graph.nodes same
    exact query_congr closed (congrArg (List.filter _) rows) _ _
  have edges : (findEdges analysis none after).1 = (findEdges analysis none before).1 := by
    have rows : after.visible.edgesOf analysis = before.visible.edgesOf analysis := congrArg Graph.edges same
    exact query_congr closed (congrArg (List.filter _) rows) _ _
  have one : (findNodes analysis none none after).2 = after := onlyReads_query _ _ _ after
  have two : (findNodes analysis none none before).2 = before := onlyReads_query _ _ _ before
  unfold fullGraph
  rcases left : findNodes analysis none none after with ⟨fault | found, here⟩
  · rcases right : findNodes analysis none none before with ⟨_, there⟩
    rw [left, right] at nodes
    cases nodes
    rw [Operation.bind_of_error left, Operation.bind_of_error right]
  · rcases right : findNodes analysis none none before with ⟨_, there⟩
    rw [left] at nodes one
    rw [right] at nodes two
    cases nodes
    cases one
    cases two
    rw [Operation.bind_of_ok left, Operation.bind_of_ok right]
    exact bind_answer edges fun _ _ _ => rfl

end

section

variable {store : Store} {analysis other : String}

theorem sameAbout_lessGraph (joins : store.visible.JoinsOwn) (different : other ≠ analysis) :
    SameAbout other store (store.showing (store.visible.lessGraph analysis)) := by
  have closed : (store.showing (store.visible.lessGraph analysis)).isClosed = store.isClosed := rfl
  refine ⟨fullGraph_congr closed ?_, findFindings_congr closed fun _ => rfl, query_congr closed rfl _ _⟩
  exact joins.graphOf_lessGraph different

theorem sameAbout_lessAnalysis (joins : store.visible.JoinsOwn) (different : other ≠ analysis) :
    SameAbout other store (store.showing (store.visible.lessAnalysis analysis)) := by
  have closed : (store.showing (store.visible.lessAnalysis analysis)).isClosed = store.isClosed := rfl
  refine ⟨fullGraph_congr closed ?_, findFindings_congr closed fun _ => ?_, query_congr closed ?_ _ _⟩
  · exact joins.graphOf_lessGraph different
  · exact Image.rowsOf_lessAnalysis different store.visible
  · exact Image.find?_record_lessAnalysis different store.visible

end

/-- Whatever was done to a store, deleting a graph takes exactly its nodes, its edges and the edges at its nodes, and
deleting an analysis takes its findings and its record as well and tells whether there was a record. All other rows
stay, in their order. A second deletion changes nothing, and if edges only join nodes of their own analysis, no answer
about another analysis changes. A deletion fails only if the store is closed or the name cannot be written. -/
theorem deletions_exact (steps : List StoreStep) (analysis : String) :
    let store := walk {} steps
    let cleared := store.showing (store.visible.lessGraph analysis)
    let bare := store.showing (store.visible.lessAnalysis analysis)
    (CanDelete store analysis →
      deleteGraph analysis store = (.ok (), cleared) ∧
      (∃ known, deleteAnalysis analysis store = (.ok known, bare) ∧
        (known = true ↔ ∃ record ∈ store.visible.records, record.id = some analysis)) ∧
      (store.visible.JoinsOwn → ∀ other, other ≠ analysis →
        SameAbout other store cleared ∧ SameAbout other store bare) ∧
      deleteGraph analysis cleared = (.ok (), cleared) ∧
      deleteAnalysis analysis bare = (.ok false, bare)) ∧
    (¬CanDelete store analysis →
      (∃ fault, deleteGraph analysis store = (.error fault, (abandon store.enter).2)) ∧
      ∃ fault, deleteAnalysis analysis store = (.error fault, (abandon store.enter).2)) := by
  intro store cleared bare
  refine ⟨?_, fun refused => ⟨deleteGraph_refused refused, deleteAnalysis_refused refused⟩⟩
  intro can
  have orderly : Orderly (fun _ => True) store := orderly_initial.walk steps
  have graph : deleteGraph analysis store = (.ok (), cleared) := by
    rw [can.deleteGraph_run, orderly.visible.toLinked.without_eq]
  have whole : deleteAnalysis analysis store = (.ok (store.visible.hasRecord analysis), bare) := by
    rw [can.deleteAnalysis_run, orderly.visible.toLinked.forget_eq]
  have canAgain : CanDelete cleared analysis ∧ CanDelete bare analysis :=
    ⟨⟨can.isOpen, can.written⟩, ⟨can.isOpen, can.written⟩⟩
  have linked : cleared.visible.Linked ∧ bare.visible.Linked := by
    have one := keepsOrder_deleteGraph analysis _ store orderly
    have two := keepsOrder_deleteAnalysis analysis _ store orderly
    rw [graph] at one
    rw [whole] at two
    exact ⟨one.visible.toLinked, two.visible.toLinked⟩
  refine ⟨graph, ⟨_, whole, ?_⟩, ?_, ?_, ?_⟩
  · unfold Image.hasRecord
    simp only [List.any_eq_true, beq_iff_eq]
  · intro joins other different
    exact ⟨sameAbout_lessGraph joins different, sameAbout_lessAnalysis joins different⟩
  · have same : cleared.visible.lessGraph analysis = cleared.visible :=
      Image.lessGraph_lessGraph analysis store.visible
    rw [canAgain.1.deleteGraph_run, linked.1.without_eq, same]
    exact congrArg (Prod.mk _) (showing_showing store _ _)
  · have same : bare.visible.lessAnalysis analysis = bare.visible :=
      Image.lessAnalysis_lessAnalysis analysis store.visible
    have unknown : bare.visible.hasRecord analysis = false := Image.hasRecord_lessAnalysis analysis store.visible
    rw [canAgain.2.deleteAnalysis_run, linked.2.forget_eq, same, unknown]
    exact congrArg (Prod.mk _) (showing_showing store _ _)

/-- Two analyses in one store. Of three edges one stays within its analysis, one ends at a node of the other, and one
belongs to the other and joins nodes that do not. -/
def crossedSteps : List StoreStep :=
  let node := fun analysis name => { analysis := .str analysis, kind := .str "function", name := .str name : NodeDraft }
  let edge := fun analysis source target =>
    { analysis := .str analysis, source := .str source, target := .str target, kind := .str "calls" : EdgeDraft }
  [.call (.recordAnalysis (.str "a") (.str "p") "T0"), .call (.recordAnalysis (.str "b") (.str "q") "T0"),
    .call (.createNodes [node "a" "f", node "b" "g", node "b" "h"]),
    .call (.createEdges [edge "b" "id-2" "id-3", edge "b" "id-2" "id-1", edge "a" "id-2" "id-3"]),
    .call (.addFindings "a" [scanned "x"] "T0"), .call (.addFindings "b" [scanned "y"] "T0")]

theorem crossedSteps_canDelete : CanDelete (walk {} crossedSteps) "a" :=
  ⟨by decide +kernel, by decide +kernel⟩

/-- Of the edges only the first one stays. -/
theorem deletions_exact_crossedSteps :
    ∃ last, deleteAnalysis "a" (walk {} crossedSteps) = (.ok true, last) ∧
      last.visible.nodes.map Node.id = ["id-2", "id-3"] ∧ last.visible.edges.map Edge.id = ["id-4"] ∧
      last.visible.findings.map StoredFinding.id = ["y"] ∧ last.visible.records.map Record.id = [some "b"] ∧
      deleteAnalysis "a" last = (.ok false, last) := by
  obtain ⟨_, ⟨known, deleted, recorded⟩, _, _, again⟩ := (deletions_exact crossedSteps "a").1 crossedSteps_canDelete
  have listed : known = true := recorded.mpr (by decide +kernel)
  subst listed
  exact ⟨_, deleted, by decide +kernel, by decide +kernel, by decide +kernel, by decide +kernel, again⟩

end ChangeImpact.Store
