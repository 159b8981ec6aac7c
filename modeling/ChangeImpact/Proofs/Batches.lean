import ChangeImpact.Proofs.StoredRows

/-!
What a batch of rows leaves in the tables, whether it goes well or not. Its statements are made one after another; the
first one that is refused ends the batch, and the rows before it stay.
-/

set_option autoImplicit false

namespace ChangeImpact.Store

/-! ### Rows -/

theorem Image.hasNode_iff {image : Image} {id : String} :
    image.hasNode id = true ↔ id ∈ image.nodes.map Node.id := by
  simp [Image.hasNode]

theorem NodeDraft.row_id {id : String} {draft : NodeDraft} {row : Node} (made : draft.row id = .ok row) :
    row.id = id := by
  unfold NodeDraft.row at made
  iterate 9 obtain ⟨_, _, made⟩ := Outcome.bind_ok made
  cases made
  rfl

theorem EdgeDraft.row_id {id : String} {draft : EdgeDraft} {row : Edge} (made : draft.row id = .ok row) :
    row.id = id := by
  unfold EdgeDraft.row at made
  iterate 8 obtain ⟨_, _, made⟩ := Outcome.bind_ok made
  cases made
  rfl

def Image.addRows (nodes : List Node) (edges : List Edge) (image : Image) : Image :=
  { image with nodes := image.nodes ++ nodes, edges := image.edges ++ edges }

theorem Image.addRows_nil (image : Image) : image.addRows [] [] = image := by
  simp [Image.addRows]

theorem Image.addRows_addRows (nodes moreNodes : List Node) (edges moreEdges : List Edge) (image : Image) :
    (image.addRows nodes edges).addRows moreNodes moreEdges =
      image.addRows (nodes ++ moreNodes) (edges ++ moreEdges) := by
  simp [Image.addRows]

/-- An image with so many rows added to another: they have the ids from a number on, and edges among them find their
ends there. -/
def Image.Grows (first count : Nat) (before after : Image) : Prop :=
  ∃ nodes edges, after = before.addRows nodes edges ∧
    nodes.map Node.id ++ edges.map Edge.id = idsFrom first count ∧
    ∀ edge ∈ edges, edge.source ∈ before.nodes.map Node.id ∧ edge.target ∈ before.nodes.map Node.id

theorem Image.grows_zero_iff {first : Nat} {before after : Image} :
    before.Grows first 0 after ↔ after = before := by
  constructor
  · rintro ⟨nodes, edges, rfl, ids, _⟩
    have none : nodes = [] ∧ edges = [] := by simpa [idsFrom] using ids
    rw [none.1, none.2, Image.addRows_nil]
  · rintro rfl
    exact ⟨[], [], after.addRows_nil.symm, rfl, List.forall_mem_nil _⟩

/-! ### Statements up to the first refusal -/

/-- How far statements get: how many are accepted, what those make of an image, and why the next one is refused. -/
structure Progress where
  accepted : Nat
  image : Image
  refusal : Option Cause

def progress : List (Image → Except Cause Image) → Image → Progress
  | [], image => { accepted := 0, image, refusal := none }
  | statement :: rest, image =>
      match statement image with
      | .error cause => { accepted := 0, image, refusal := some cause }
      | .ok changed =>
          let later := progress rest changed
          { later with accepted := later.accepted + 1 }

section

variable {statement : Image → Except Cause Image} {rest : List (Image → Except Cause Image)} {image : Image}

theorem progress_cons_error {cause : Cause} (refused : statement image = .error cause) :
    progress (statement :: rest) image = { accepted := 0, image, refusal := some cause } := by
  simp only [progress, refused]

theorem progress_cons_ok {changed : Image} (done : statement image = .ok changed) :
    progress (statement :: rest) image =
      { progress rest changed with accepted := (progress rest changed).accepted + 1 } := by
  simp only [progress, done]

end

theorem progress_accepted_le (statements : List (Image → Except Cause Image)) (image : Image) :
    (progress statements image).accepted ≤ statements.length := by
  induction statements generalizing image with
  | nil => exact Nat.le_refl 0
  | cons statement rest ih =>
      cases done : statement image with
      | error cause => simp [progress_cons_error done]
      | ok changed =>
          rw [progress_cons_ok done]
          exact Nat.succ_le_succ (ih changed)

theorem executeEach_map {α : Type} (activity : Activity) (statement : α → Image → Except Cause Image)
    (items : List α) :
    executeEach activity statement items = executeEach activity id (items.map statement) := by
  induction items with
  | nil => rfl
  | cons item rest ih => simp only [executeEach, List.map_cons, ih, id_eq]

theorem executeEach_progress (activity : Activity) (statements : List (Image → Except Cause Image))
    (store : Store) (isOpen : store.isClosed = false) :
    executeEach activity id statements store =
      ((progress statements store.visible).refusal.elim (.ok ()) fun cause => .error (.during activity cause),
        { store with visible := (progress statements store.visible).image }) := by
  induction statements generalizing store with
  | nil => rfl
  | cons statement rest ih =>
      unfold executeEach
      cases done : statement store.visible with
      | error cause =>
          have refused : execute activity statement store = (.error (.during activity cause), store) := by
            simp [execute, isOpen, done]
          rw [progress_cons_error done]
          exact Operation.bind_of_error refused
      | ok changed =>
          have executed : execute activity statement store = (.ok (), { store with visible := changed }) := by
            simp [execute, isOpen, done]
          rw [progress_cons_ok done, id_eq, Operation.bind_of_ok executed]
          exact ih { store with visible := changed } isOpen

/-! ### Batches -/

inductive Batch where
  | nodes (drafts : List NodeDraft)
  | edges (drafts : List EdgeDraft)

namespace Batch

def create : Batch → Action Fault (List String)
  | .nodes drafts => createNodes drafts
  | .edges drafts => createEdges drafts

def size : Batch → Nat
  | .nodes drafts => drafts.length
  | .edges drafts => drafts.length

def activity : Batch → Activity
  | .nodes _ => .insertNodes
  | .edges _ => .insertEdges

def statements (first : Nat) : Batch → List (Image → Except Cause Image)
  | .nodes drafts => ((idsFrom first drafts.length).zip drafts).map Image.insertNode
  | .edges drafts => ((idsFrom first drafts.length).zip drafts).map Image.insertEdge

theorem statements_length (first : Nat) (batch : Batch) : (batch.statements first).length = batch.size := by
  cases batch <;> simp [statements, size, idsFrom_length]

def progress (store : Store) (batch : Batch) : Progress :=
  Store.progress (batch.statements store.nextId) store.visible

/-- The store after a batch that was not committed. -/
def written (store : Store) (batch : Batch) : Store :=
  { store with visible := (batch.progress store).image, nextId := store.nextId + batch.size }

theorem progress_accepted_le (store : Store) (batch : Batch) :
    (batch.progress store).accepted ≤ batch.size := by
  rw [← statements_length store.nextId]
  exact Store.progress_accepted_le _ _

private theorem grows_nodes (drafts : List NodeDraft) (first : Nat) (image : Image) :
    ∃ rows, (Store.progress (statements first (.nodes drafts)) image).image = image.addRows rows [] ∧
      rows.map Node.id = idsFrom first (Store.progress (statements first (.nodes drafts)) image).accepted := by
  induction drafts generalizing first image with
  | nil => exact ⟨[], image.addRows_nil.symm, rfl⟩
  | cons draft rest ih =>
      have split : statements first (.nodes (draft :: rest)) =
          Image.insertNode (idText first, draft) :: statements (first + 1) (.nodes rest) := by
        simp only [statements, List.length_cons, idsFrom_succ, List.zip_cons_cons, List.map_cons]
      rw [split]
      cases done : image.insertNode (idText first, draft) with
      | error cause =>
          rw [progress_cons_error done]
          exact ⟨[], image.addRows_nil.symm, rfl⟩
      | ok changed =>
          obtain ⟨row, made, rfl⟩ := insertNode_ok done
          have same : { image with nodes := image.nodes ++ [row] } = image.addRows [row] [] := by
            simp [Image.addRows]
          obtain ⟨rows, grown, ids⟩ := ih (first + 1) (image.addRows [row] [])
          rw [progress_cons_ok done, same]
          refine ⟨row :: rows, ?_, ?_⟩
          · exact grown.trans (image.addRows_addRows [row] rows [] [])
          · rw [idsFrom_succ, List.map_cons, ids, NodeDraft.row_id made]

private theorem grows_edges (drafts : List EdgeDraft) (first : Nat) (image : Image) :
    ∃ rows, (Store.progress (statements first (.edges drafts)) image).image = image.addRows [] rows ∧
      rows.map Edge.id = idsFrom first (Store.progress (statements first (.edges drafts)) image).accepted ∧
      ∀ edge ∈ rows, edge.source ∈ image.nodes.map Node.id ∧ edge.target ∈ image.nodes.map Node.id := by
  induction drafts generalizing first image with
  | nil => exact ⟨[], image.addRows_nil.symm, rfl, List.forall_mem_nil _⟩
  | cons draft rest ih =>
      have split : statements first (.edges (draft :: rest)) =
          Image.insertEdge (idText first, draft) :: statements (first + 1) (.edges rest) := by
        simp only [statements, List.length_cons, idsFrom_succ, List.zip_cons_cons, List.map_cons]
      rw [split]
      cases done : image.insertEdge (idText first, draft) with
      | error cause =>
          rw [progress_cons_error done]
          exact ⟨[], image.addRows_nil.symm, rfl, List.forall_mem_nil _⟩
      | ok changed =>
          obtain ⟨row, made, rfl, source, target⟩ := insertEdge_ok done
          have same : { image with edges := image.edges ++ [row] } = image.addRows [] [row] := by
            simp [Image.addRows]
          have nodes : (image.addRows [] [row]).nodes = image.nodes := List.append_nil _
          obtain ⟨rows, grown, ids, ends⟩ := ih (first + 1) (image.addRows [] [row])
          rw [nodes] at ends
          rw [progress_cons_ok done, same]
          refine ⟨row :: rows, ?_, ?_, List.forall_mem_cons.mpr ⟨?_, ends⟩⟩
          · exact grown.trans (image.addRows_addRows [] [] [row] rows)
          · rw [idsFrom_succ, List.map_cons, ids, EdgeDraft.row_id made]
          · exact ⟨Image.hasNode_iff.mp source, Image.hasNode_iff.mp target⟩

theorem grows (store : Store) (batch : Batch) :
    store.visible.Grows store.nextId (batch.progress store).accepted (batch.written store).visible := by
  cases batch with
  | nodes drafts =>
      obtain ⟨rows, grown, ids⟩ := grows_nodes drafts store.nextId store.visible
      exact ⟨rows, [], grown, (List.append_nil _).trans ids, List.forall_mem_nil _⟩
  | edges drafts =>
      obtain ⟨rows, grown, ids, ends⟩ := grows_edges drafts store.nextId store.visible
      exact ⟨[], rows, grown, ids, ends⟩

/-- A batch takes an id for each row; if there are any, it makes its statements and commits if nothing is open. -/
private theorem create_eq {δ : Type} {activity : Activity}
    {statement : String × δ → Image → Except Cause Image} (drafts : List δ) (store : Store) :
    (do
      let items ← numbered drafts
      if items.isEmpty then pure []
      else
        executeEach activity statement items
        commitIfOutside
        pure (items.map Prod.fst) : Action Fault (List String)) store =
      if drafts.length = 0 then (.ok [], store)
      else (do
        executeEach activity id (((idsFrom store.nextId drafts.length).zip drafts).map statement)
        commitIfOutside
        pure (idsFrom store.nextId drafts.length) : Action Fault (List String))
          { store with nextId := store.nextId + drafts.length } := by
  rw [Operation.bind_of_ok (numbered_run drafts store), executeEach_map,
    List.map_fst_zip (Nat.le_of_eq (idsFrom_length _ _))]
  cases drafts with
  | nil => rfl
  | cons draft rest =>
      rw [List.length_cons, idsFrom_succ, List.zip_cons_cons]
      rfl

theorem create_run (batch : Batch) (store : Store) :
    batch.create store =
      if batch.size = 0 then (.ok [], store)
      else (do
        executeEach batch.activity id (batch.statements store.nextId)
        commitIfOutside
        pure (idsFrom store.nextId batch.size) : Action Fault (List String))
          { store with nextId := store.nextId + batch.size } := by
  cases batch with
  | nodes drafts => exact create_eq drafts store
  | edges drafts => exact create_eq drafts store

variable {batch : Batch} {store : Store}

theorem create_of_closed (closed : store.isClosed = true) (filled : batch.size ≠ 0) :
    batch.create store =
      (.error (.failed batch.activity .closed), { store with nextId := store.nextId + batch.size }) := by
  rw [create_run, if_neg filled]
  have some : (batch.statements store.nextId).length ≠ 0 := by rwa [statements_length]
  cases listed : batch.statements store.nextId with
  | nil => simp [listed] at some
  | cons statement rest =>
      have refused : execute batch.activity (id statement) { store with nextId := store.nextId + batch.size } =
          (.error (.failed batch.activity .closed), { store with nextId := store.nextId + batch.size }) := by
        simp [execute, closed]
      unfold executeEach
      rw [Operation.bind_of_error (Operation.bind_of_error refused)]

theorem create_of_refusal (isOpen : store.isClosed = false) {cause : Cause}
    (refused : (batch.progress store).refusal = some cause) :
    batch.create store = (.error (.during batch.activity cause), batch.written store) := by
  have filled : batch.size ≠ 0 := by
    intro empty
    have none : batch.statements store.nextId = [] := by
      rw [← List.length_eq_zero_iff, statements_length, empty]
    rw [progress, none] at refused
    cases refused
  have run := executeEach_progress batch.activity (batch.statements store.nextId)
    { store with nextId := store.nextId + batch.size } isOpen
  change _ = ((batch.progress store).refusal.elim _ _, batch.written store) at run
  rw [refused] at run
  rw [create_run, if_neg filled, Operation.bind_of_error run]

theorem create_of_accepted (isOpen : store.isClosed = false) (accepted : (batch.progress store).refusal = none) :
    ∃ ids, batch.create store =
      (.ok ids, if batch.size = 0 then store else (commitIfOutside (batch.written store)).2) := by
  rw [create_run]
  split
  · exact ⟨[], rfl⟩
  · have run := executeEach_progress batch.activity (batch.statements store.nextId)
      { store with nextId := store.nextId + batch.size } isOpen
    change _ = ((batch.progress store).refusal.elim _ _, batch.written store) at run
    rw [accepted] at run
    have committed : commitIfOutside (batch.written store) =
        (.ok (), (commitIfOutside (batch.written store)).2) := by
      have writtenOpen : (batch.written store).isClosed = false := isOpen
      unfold commitIfOutside commit
      rw [writtenOpen]
      split <;> rfl
    rw [Operation.bind_of_ok run, Operation.bind_of_ok committed]
    exact ⟨_, rfl⟩

/-- What is left of a batch, however it ends: some of its rows, perhaps committed. -/
theorem create_writes (batch : Batch) (store : Store) :
    ∃ count image, count ≤ batch.size ∧ store.visible.Grows store.nextId count image ∧
      ((batch.create store).2 = { store with visible := image, nextId := store.nextId + batch.size } ∨
        (batch.create store).2 =
          (commitIfOutside { store with visible := image, nextId := store.nextId + batch.size }).2) := by
  by_cases empty : batch.size = 0
  · refine ⟨0, store.visible, Nat.zero_le _, Image.grows_zero_iff.mpr rfl, Or.inl ?_⟩
    rw [create_run, if_pos empty, empty]
    rfl
  rcases Bool.eq_false_or_eq_true store.isClosed with closed | isOpen
  · refine ⟨0, store.visible, Nat.zero_le _, Image.grows_zero_iff.mpr rfl, Or.inl ?_⟩
    rw [create_of_closed closed empty]
  · refine ⟨_, (batch.written store).visible, batch.progress_accepted_le store, batch.grows store, ?_⟩
    cases outcome : (batch.progress store).refusal with
    | some cause =>
        rw [create_of_refusal isOpen outcome]
        exact Or.inl rfl
    | none =>
        obtain ⟨ids, created⟩ := create_of_accepted isOpen outcome
        rw [created, if_neg empty]
        exact Or.inr rfl

end Batch

end ChangeImpact.Store
