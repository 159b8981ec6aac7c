import ChangeImpact.Proofs.Building
import Mathlib.Data.List.TakeDrop
import Mathlib.Data.List.TakeWhile

/-!
Why a build fails. On an open store a row is refused for what it holds and not for what else is stored, and new edges
always find their ends. So the fault of a build is settled by the files of the project and the names to be written.
-/

set_option autoImplicit false

namespace ChangeImpact

namespace Outcome

def fault? {ε α : Type} : Except ε α → Option ε
  | .ok _ => none
  | .error fault => some fault

theorem fault?_eq_some {ε α : Type} {result : Except ε α} {fault : ε} :
    fault? result = some fault ↔ result = .error fault := by
  cases result with
  | error other => exact ⟨fun same => congrArg Except.error (Option.some.inj same),
      fun same => congrArg some (Except.error.inj same)⟩
  | ok value => exact ⟨nofun, nofun⟩

theorem fault?_bind_congr {ε α β γ : Type} (first : Except ε α) {next : α → Except ε β}
    {other : α → Except ε γ} (same : ∀ value, fault? (next value) = fault? (other value)) :
    fault? (first >>= next) = fault? (first >>= other) := by
  cases first with
  | error fault => rfl
  | ok value => exact same value

end Outcome

/-- A text of characters below all stand-ins can be written. -/
theorem Text.encodeFault?_of_plain {text : String} (plain : ∀ c ∈ text.toList, c.toNat < halfOffset) :
    encodeFault? text = none := by
  have whole : ∀ c ∈ text.toList, half? c = none := by
    intro c member
    unfold half?
    rw [decide_eq_false (Nat.not_le.mpr (plain c member))]
    rfl
  have rest : text.toList.dropWhile (fun c => (half? c).isNone) = [] := by
    rw [List.dropWhile_eq_nil_iff]
    intro c member
    rw [whole c member]
    rfl
  unfold encodeFault?
  rw [List.span_eq_takeWhile_dropWhile, rest]
  rfl

namespace Store

open ChangeImpact.Outcome (fault?)

/-! ### Statements -/

variable {α : Type} {activity : Activity} {store : Store}

/-- A sequence of two operations fails for the reason that the first does, or else the second. -/
theorem bind_fault? {ε β : Type} {first : Action ε α} {next : α → Action ε β} (reason : Option ε)
    (next_fault : ∀ value between, first store = (.ok value, between) →
      fault? (next value between).1 = reason) :
    fault? ((first >>= next) store).1 = (fault? (first store).1).or reason := by
  rcases outcome : first store with ⟨fault | value, between⟩
  · rw [Operation.bind_of_error outcome]
    rfl
  · rw [Operation.bind_of_ok outcome]
    exact next_fault value between outcome

theorem Steady.stays_open {ε : Type} {action : Action ε α} {after : Store} {result : Except ε α}
    (steady : Steady action) (done : action store = (result, after)) (isOpen : store.isClosed = false) :
    after.isClosed = false := by
  have stays := (steady store).isClosed
  rw [done] at stays
  exact stays.trans isOpen

theorem Succeeds.fault? {ε : Type} {action : Action ε α} (goes : Succeeds action)
    (isOpen : store.isClosed = false) : fault? (action store).1 = none := by
  obtain ⟨_, _, done, _⟩ := goes store isOpen
  rw [done]
  rfl

theorem execute_fault? (isOpen : store.isClosed = false) (statement : Image → Except Cause Image) :
    fault? (execute activity statement store).1 =
      (fault? (statement store.visible)).map (Fault.during activity) := by
  unfold execute
  rw [isOpen]
  cases statement store.visible <;> rfl

/-- A row of statements fails at the first one that is refused, if what is refused stays the same along the way. -/
theorem executeEach_fault? {statement : α → Image → Except Cause Image} {items : List α}
    {refusal : α → Option Cause} (suits : Image → Prop)
    (refused : ∀ item ∈ items, ∀ image, suits image → fault? (statement item image) = refusal item)
    (kept : ∀ item ∈ items, ∀ image changed, suits image → statement item image = .ok changed →
      suits changed)
    (isOpen : store.isClosed = false) (suited : suits store.visible) :
    fault? (executeEach activity statement items store).1 =
      (items.findSome? refusal).map (Fault.during activity) := by
  induction items generalizing store with
  | nil => rfl
  | cons item rest ih =>
      obtain ⟨refusedHere, refusedLater⟩ := List.forall_mem_cons.mp refused
      obtain ⟨keptHere, keptLater⟩ := List.forall_mem_cons.mp kept
      have later : ∀ (_ : Unit) between, execute activity (statement item) store = (.ok (), between) →
          fault? (executeEach activity statement rest between).1 =
            (rest.findSome? refusal).map (Fault.during activity) := by
        intro _ between done
        obtain ⟨image, changed, rfl⟩ := execute_ok done
        exact ih refusedLater keptLater isOpen (keptHere _ _ suited changed)
      rw [executeEach, bind_fault? _ later, execute_fault? isOpen, refusedHere _ suited,
        List.findSome?_cons]
      cases refusal item <;> rfl

theorem succeeds_abandon : Succeeds abandon := by
  intro store isOpen
  unfold abandon rollback
  dsimp only
  rw [isOpen]
  split
  · exact ⟨(), _, rfl, rfl⟩
  · exact ⟨(), _, rfl, rfl⟩

/-- A transaction on an open store fails for the reason that its operation does. -/
theorem transaction_fault? {body : Action Fault α} (steady : Steady body)
    (isOpen : store.isClosed = false) :
    fault? (transaction body store).1 = fault? (body store.enter).1 := by
  rcases outcome : body store.enter with ⟨fault | value, after⟩
  · obtain ⟨_, last, left, _⟩ := succeeds_abandon after (steady.stays_open outcome isOpen)
    rw [transaction_of_error outcome, left]
  · obtain ⟨_, last, left, _⟩ := succeeds_leave after (steady.stays_open outcome isOpen)
    rw [transaction_of_ok outcome, left]

/-! ### Rows -/

def NodeDraft.refusal? (draft : NodeDraft) : Option Cause := fault? (draft.row "")

def EdgeDraft.refusal? (draft : EdgeDraft) : Option Cause := fault? (draft.row "")

theorem NodeDraft.row_fault? (id : String) (draft : NodeDraft) :
    fault? (draft.row id) = draft.refusal? := by
  unfold refusal? row
  iterate 9 refine Outcome.fault?_bind_congr _ fun _ => ?_
  rfl

theorem EdgeDraft.row_fault? (id : String) (draft : EdgeDraft) :
    fault? (draft.row id) = draft.refusal? := by
  unfold refusal? row
  iterate 8 refine Outcome.fault?_bind_congr _ fun _ => ?_
  rfl

def EdgeDraft.Joins (draft : EdgeDraft) (image : Image) : Prop :=
  ∀ id row, draft.row id = .ok row → image.hasNode row.source = true ∧ image.hasNode row.target = true

theorem insertNode_fault? (item : String × NodeDraft) (image : Image) :
    fault? (image.insertNode item) = item.2.refusal? := by
  rw [← NodeDraft.row_fault? item.1]
  unfold Image.insertNode
  cases item.2.row item.1 <;> rfl

theorem insertEdge_fault? {item : String × EdgeDraft} {image : Image} (joins : item.2.Joins image) :
    fault? (image.insertEdge item) = item.2.refusal? := by
  rw [← EdgeDraft.row_fault? item.1]
  unfold Image.insertEdge
  cases made : item.2.row item.1 with
  | error cause => rfl
  | ok row =>
      obtain ⟨source, target⟩ := joins _ _ made
      change fault? (if image.hasNode row.source && image.hasNode row.target then _ else _) = none
      rw [source, target]
      rfl

private theorem batch_fault? {δ : Type} {statement : String × δ → Image → Except Cause Image}
    (isOpen : store.isClosed = false) (batch : List δ) :
    fault? ((do
      let items ← numbered batch
      if items.isEmpty then pure []
      else
        executeEach activity statement items
        commitIfOutside
        pure (items.map Prod.fst) : Action Fault (List String)) store).1 =
      fault? (executeEach activity statement ((idsFrom store.nextId batch.length).zip batch)
        { store with nextId := store.nextId + batch.length }).1 := by
  rw [Operation.bind_of_ok (numbered_run batch store)]
  cases batch with
  | nil => rfl
  | cons draft rest =>
      rw [List.length_cons, idsFrom_succ, List.zip_cons_cons]
      refine (bind_fault? none ?_).trans Option.or_none
      intro _ between done
      exact (succeeds_commitIfOutside.bind fun _ => succeeds_pure _).fault?
        ((steady_executeEach _ _ _).stays_open done isOpen)

theorem createNodes_fault? (isOpen : store.isClosed = false) (batch : List NodeDraft) :
    fault? (createNodes batch store).1 =
      (batch.findSome? NodeDraft.refusal?).map (Fault.during .insertNodes) := by
  have drafts : ((idsFrom store.nextId batch.length).zip batch).map Prod.snd = batch :=
    List.map_snd_zip (Nat.le_of_eq (idsFrom_length _ _).symm)
  rw [createNodes, batch_fault? isOpen, ← drafts, List.findSome?_map, drafts]
  exact executeEach_fault? (fun _ => True) (fun item _ image _ => insertNode_fault? item image)
    (fun _ _ _ _ suited _ => suited) isOpen trivial

theorem createEdges_fault? (isOpen : store.isClosed = false) {batch : List EdgeDraft}
    (joined : ∀ draft ∈ batch, draft.Joins store.visible) :
    fault? (createEdges batch store).1 =
      (batch.findSome? EdgeDraft.refusal?).map (Fault.during .insertEdges) := by
  have drafts : ((idsFrom store.nextId batch.length).zip batch).map Prod.snd = batch :=
    List.map_snd_zip (Nat.le_of_eq (idsFrom_length _ _).symm)
  rw [createEdges, batch_fault? isOpen, ← drafts, List.findSome?_map, drafts]
  have suits : ∀ item ∈ (idsFrom store.nextId batch.length).zip batch, item.2 ∈ batch :=
    fun item member => (List.of_mem_zip member).2
  -- Edges that are added do not change the nodes that others look for.
  refine executeEach_fault? (fun image => image.nodes = store.visible.nodes) ?_ ?_ isOpen rfl
  · intro item member image same
    apply insertEdge_fault?
    have joins := joined item.2 (suits item member)
    unfold EdgeDraft.Joins Image.hasNode at joins ⊢
    rw [same]
    exact joins
  · intro item member image changed same inserted
    obtain ⟨row, _, rfl, _⟩ := insertEdge_ok inserted
    exact same

theorem succeeds_fullGraph {analysis : String}
    (written : [analysis].findSome? Text.encodeFault? = none) : Succeeds (fullGraph analysis) := by
  have named : (analysis :: (none : Option String).toList).findSome? Text.encodeFault? = none := written
  exact (succeeds_query named).bind fun _ => (succeeds_query named).bind fun _ => succeeds_pure _

/-- A graph cannot be deleted if and only if the name of its analysis cannot be written. -/
theorem deleteGraph_fault? (isOpen : store.isClosed = false) (analysis : String) :
    fault? (deleteGraph analysis store).1 = (Text.encodeFault? analysis).map Fault.unencodable := by
  cases written : Text.encodeFault? analysis with
  | none =>
      obtain ⟨_, after, deleted, _⟩ := succeeds_deleteGraph (by simpa using written) store isOpen
      rw [deleted]
      rfl
  | some fault =>
      have body : Steady (do
          remove (.deleteGraph analysis) analysis (Image.dropEdges analysis)
          remove (.deleteGraph analysis) analysis (Image.dropNodes analysis)) :=
        (steady_remove _ _ _).bind fun _ => steady_remove _ _ _
      have refused : remove (.deleteGraph analysis) analysis (Image.dropEdges analysis) store.enter =
          (.error (.unencodable fault), store.enter) := by
        unfold remove execute Cell.bindTexts enter
        rw [isOpen, List.findSome?_cons, written]
        rfl
      rw [deleteGraph, transaction_fault? body isOpen, Operation.bind_of_error refused]
      rfl

/-- An id can always be written. -/
theorem encodeFault?_idText (number : Nat) : Text.encodeFault? (idText number) = none := by
  apply Text.encodeFault?_of_plain
  intro c member
  have listed : c ∈ ['i', 'd', '-'] ++ (Nat.repr number).toList := by
    have letters : "id-".toList = ['i', 'd', '-'] := by decide
    rw [← letters, ← String.toList_append]
    exact member
  rw [Nat.toList_repr] at listed
  rcases List.mem_append.mp listed with letter | digit
  · simp only [List.mem_cons, List.not_mem_nil, or_false] at letter
    rcases letter with rfl | rfl | rfl <;> decide
  · have isDigit := Nat.isDigit_of_mem_toDigits (by decide) (by decide) digit
    have range := Bool.and_eq_true_iff.mp isDigit
    have last : c.toNat ≤ 57 := UInt32.le_iff_toNat_le.mp (of_decide_eq_true range.2)
    exact Nat.lt_of_le_of_lt last (by decide)

end Store

namespace Builder

open ChangeImpact.Outcome (fault?)
open ChangeImpact.Store (Settled Steady)

/-! ### Assemblies -/

/-- A text in a row is refused if it cannot be written, and otherwise the rest of the row is looked at. -/
theorem bind_str_fault? {β : Type} (parameter : Nat) (text : String) (next : Store.Cell → Except Store.Cause β) :
    fault? (Store.Cell.bind parameter (.str text) >>= next) =
      ((Text.encodeFault? text).map Store.Cause.unencodable).or (fault? (next (.text text))) := by
  unfold Store.Cell.bind
  dsimp only
  cases Text.encodeFault? text <;> rfl

theorem edgeDraft_refusal? (edge : Edge) :
    (edgeDraft edge).refusal? =
      ([edge.analysis, edge.source, edge.target, edge.kind.name].findSome? Text.encodeFault?).map
        Store.Cause.unencodable := by
  unfold Store.EdgeDraft.refusal? Store.EdgeDraft.row edgeDraft
  rw [bind_str_fault?, bind_str_fault?, bind_str_fault?, bind_str_fault?]
  simp only [List.findSome?_cons]
  cases Text.encodeFault? edge.analysis with
  | some fault => rfl
  | none =>
      cases Text.encodeFault? edge.source with
      | some fault => rfl
      | none =>
          cases Text.encodeFault? edge.target with
          | some fault => rfl
          | none => cases Text.encodeFault? edge.kind.name <;> rfl

theorem keepNodes_fault? {store : Store} (isOpen : store.isClosed = false) (nodes : List Node) :
    fault? (keepNodes nodes store).1 =
      (nodes.findSome? fun node => (nodeDraft node).refusal?).map (Store.Fault.during .insertNodes) := by
  have drafts := Store.createNodes_fault? isOpen (nodes.map nodeDraft)
  rw [List.findSome?_map] at drafts
  unfold keepNodes
  refine (Store.bind_fault? none ?_).trans (Option.or_none.trans drafts)
  intro ids between _
  rfl

namespace Assembly

/-- Why the rows of an assembly are refused, if they are: a node first, or else an edge. -/
def fault? (assembly : Assembly) : Option Store.Fault :=
  ((assembly.nodes.findSome? fun node => (nodeDraft node).refusal?).map
    (Store.Fault.during .insertNodes)).or
  ((assembly.edges.findSome? fun edge => (edgeDraft edge).refusal?).map
    (Store.Fault.during .insertEdges))

theorem findSome?_eq_map {α β : Type} (view : α → Option β) (items : List α) :
    items.findSome? view = (items.map view).findSome? id := by
  rw [List.findSome?_map]
  rfl

theorem findSome?_identifiedFrom {α β : Type} {give : String → α → α} {view : α → Option β}
    (blind : ∀ id item, view (give id item) = view item) (first : Nat) (items : List α) :
    (Store.identifiedFrom give first items).findSome? view = items.findSome? view := by
  rw [findSome?_eq_map, Store.map_identifiedFrom blind, ← findSome?_eq_map]

/-- The edges of an assembly find their ends wherever its nodes are stored. -/
theorem joins {policy : Policy} {analysis : String} {first : Nat} {extractions : List Extraction}
    {assembly : Assembly} (made : assembly = assemble policy analysis first extractions)
    (sound : ∀ extraction ∈ extractions, extraction.IsSound) {image : Store.Image}
    (stored : ∀ node ∈ assembly.nodes, node ∈ image.nodes) :
    ∀ pending ∈ (Resolution.ofExtractions (.ofNodes policy assembly.declared) extractions).pending,
      (edgeDraft (Resolution.edge analysis
        (assembly.placeholders.map fun node => (node.name, node.id)) pending)).Joins image := by
  have found : ∀ id ∈ assembly.nodes.map Node.id, image.hasNode id = true := by
    intro id member
    obtain ⟨node, listed, rfl⟩ := List.mem_map.mp member
    exact List.any_eq_true.mpr ⟨node, stored node listed, beq_self_eq_true _⟩
  intro pending listed id row bound
  obtain ⟨other, kept⟩ := exists_edge made listed
  obtain ⟨source, target⟩ := (wellTyped made sound).closed _ kept
  rw [edgeDraft_row bound]
  exact ⟨found _ source, found _ target⟩

end Assembly

section

variable {policy : Policy} {analysis : String} {extractions : List Extraction} {store : Store}

theorem steady_persist (policy : Policy) (analysis : String) (extractions : List Extraction) :
    Steady (persist policy analysis extractions) :=
  Store.steady_transaction <| (steady_keepNodes _).bind fun _ => (steady_resolveEdges _ _ _).bind fun _ =>
    (Store.steady_createEdges _).bind fun _ => Store.steady_pure _

/-- Edges cannot be resolved if and only if a placeholder is refused. -/
theorem resolveEdges_fault? (isOpen : store.isClosed = false) (index : NameIndex) (analysis : String)
    (extractions : List Extraction) :
    fault? (resolveEdges index analysis extractions store).1 =
      (((Resolution.ofExtractions index extractions).missing.map (Resolution.placeholder analysis)).findSome?
        fun node => (nodeDraft node).refusal?).map (Store.Fault.during .insertNodes) := by
  refine (Store.bind_fault? none ?_).trans (Option.or_none.trans (keepNodes_fault? isOpen _))
  intro placed between _
  rfl

/-- Sound extractions cannot be stored if and only if a row of their assembly is refused. -/
theorem persist_fault? (sound : ∀ extraction ∈ extractions, extraction.IsSound)
    (isOpen : store.isClosed = false) :
    fault? (persist policy analysis extractions store).1 =
      (assemble policy analysis store.nextId extractions).fault? := by
  have body := (steady_keepNodes (extractions.flatMap (nodesOf analysis))).bind fun declared =>
    (steady_resolveEdges (.ofNodes policy declared) analysis extractions).bind fun resolved =>
      (Store.steady_createEdges (resolved.1.map edgeDraft)).bind fun _ => Store.steady_pure resolved.2
  have blind : ∀ id (node : Node), (nodeDraft (node.withId id)).refusal? = (nodeDraft node).refusal? :=
    fun _ _ => rfl
  have isInside : store.enter.isClosed = false := isOpen
  generalize made : assemble policy analysis store.nextId extractions = assembly
  have declaredRows := Assembly.declared_eq made.symm
  have placeholderRows := Assembly.placeholders_eq made.symm
  -- Three batches one after another: the fault of each is met before those of the later ones.
  refine (Store.transaction_fault? body isOpen).trans ?_
  unfold Assembly.fault?
  rw [Assembly.nodes, List.findSome?_append, Option.map_or, Option.or_assoc]
  refine (Store.bind_fault? _ ?_).trans (congrArg (Option.or · _) ?_)
  rotate_left
  · rw [keepNodes_fault? isInside, declaredRows, Assembly.findSome?_identifiedFrom blind]
  intro declared one kept
  have oneOpen := (steady_keepNodes _).stays_open kept isInside
  obtain ⟨rowsOne, nextOne, visibleOne⟩ := keepNodes_ok (nodesOf_hasWholeLines sound) kept
  cases rowsOne.trans declaredRows.symm
  refine (Store.bind_fault? _ ?_).trans (congrArg (Option.or · _) ?_)
  rotate_left
  · rw [resolveEdges_fault? oneOpen, placeholderRows, Assembly.findSome?_identifiedFrom blind]
  intro resolved two done
  obtain ⟨placed, _, kept, same⟩ := Operation.bind_ok done
  cases same
  have twoOpen := (steady_keepNodes _).stays_open kept oneOpen
  obtain ⟨rowsTwo, _, visibleTwo⟩ := keepNodes_ok (placeholders_hasWholeLines analysis _) kept
  rw [nextOne] at rowsTwo
  cases rowsTwo.trans placeholderRows.symm
  have stored : ∀ node ∈ assembly.nodes, node ∈ two.visible.nodes := by
    intro node member
    rw [visibleTwo, visibleOne]
    rcases List.mem_append.mp member with declared | placed
    · exact List.mem_append_left _ (List.mem_append_right _ declared)
    · exact List.mem_append_right _ placed
  refine (Store.bind_fault? none ?_).trans (Option.or_none.trans ?_)
  · intro ids three _
    rfl
  · have joined := Assembly.joins made.symm sound stored
    have unnamed : ∀ id (edge : Edge), (edgeDraft (edge.withId id)).refusal? =
        (edgeDraft edge).refusal? := fun _ _ => rfl
    have drafts : ∀ draft ∈ ((Resolution.ofExtractions (.ofNodes policy assembly.declared) extractions).pending.map
        (Resolution.edge analysis (assembly.placeholders.map fun node => (node.name, node.id)))).map edgeDraft,
        draft.Joins two.visible := by
      rw [List.map_map]
      exact List.forall_mem_map.mpr joined
    rw [Store.createEdges_fault? twoOpen drafts, List.findSome?_map, Assembly.edges_eq made.symm,
      Assembly.findSome?_identifiedFrom unnamed]
    rfl

end

end Builder

end ChangeImpact
