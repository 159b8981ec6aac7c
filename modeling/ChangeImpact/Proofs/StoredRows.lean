import ChangeImpact.Proofs.Store
import ChangeImpact.Store.Graphs
import Mathlib.Data.List.Nodup

/-!
What batches of nodes and edges become in the tables. Ids are taken one after another and never again; each item of
a batch that goes well is a row at the end of its table, and both ends of an edge are in the table of nodes.
-/

set_option autoImplicit false

namespace ChangeImpact.Store

/-! ### Ids -/

theorem idText_injective {left right : Nat} (same : idText left = idText right) : left = right := by
  have shown : Nat.repr left = Nat.repr right := (String.append_right_inj "id-").mp same
  have digits : Nat.toDigits 10 left = Nat.toDigits 10 right := by
    rw [← Nat.toList_repr, ← Nat.toList_repr, shown]
  calc left = Nat.ofDigitChars 10 (Nat.toDigits 10 left) 0 := Nat.ofDigitChars_ten_toDigits.symm
    _ = Nat.ofDigitChars 10 (Nat.toDigits 10 right) 0 := by rw [digits]
    _ = right := Nat.ofDigitChars_ten_toDigits

def idsFrom (first count : Nat) : List String := (List.range' first count).map idText

theorem idsFrom_length (first count : Nat) : (idsFrom first count).length = count := by
  rw [idsFrom, List.length_map, List.length_range']

theorem idsFrom_succ (first count : Nat) :
    idsFrom first (count + 1) = idText first :: idsFrom (first + 1) count := by
  rw [idsFrom, List.range'_succ, List.map_cons, idsFrom]

theorem idsFrom_append (first left right : Nat) :
    idsFrom first left ++ idsFrom (first + left) right = idsFrom first (left + right) := by
  rw [idsFrom, idsFrom, ← List.map_append, List.range'_append_1, idsFrom]

theorem mem_idsFrom {first count : Nat} {id : String} :
    id ∈ idsFrom first count ↔ ∃ number, first ≤ number ∧ number < first + count ∧ idText number = id := by
  rw [idsFrom, List.mem_map]
  simp only [List.mem_range'_1, and_assoc]

theorem idsFrom_nodup (first count : Nat) : (idsFrom first count).Nodup :=
  List.Nodup.map (fun _ _ => idText_injective) List.nodup_range'

/-- Items under ids from a number on; how an item takes an id is given. -/
def identifiedFrom {α : Type} (give : String → α → α) (first : Nat) (items : List α) : List α :=
  List.zipWith give (idsFrom first items.length) items

section

variable {α β : Type} {give : String → α → α} {first : Nat} {items : List α}

theorem identifiedFrom_cons {item : α} {rest : List α} :
    identifiedFrom give first (item :: rest) =
      give (idText first) item :: identifiedFrom give (first + 1) rest := by
  rw [identifiedFrom, List.length_cons, idsFrom_succ, List.zipWith_cons_cons, identifiedFrom]

theorem identifiedFrom_length : (identifiedFrom give first items).length = items.length := by
  rw [identifiedFrom, List.length_zipWith, idsFrom_length, Nat.min_self]

/-- What does not look at ids sees the items as they were. -/
theorem map_identifiedFrom {view : α → β} (blind : ∀ id item, view (give id item) = view item) :
    (identifiedFrom give first items).map view = items.map view := by
  induction items generalizing first with
  | nil => rfl
  | cons item rest ih => rw [identifiedFrom_cons, List.map_cons, List.map_cons, blind, ih]

theorem map_id_identifiedFrom {id : α → String} (taken : ∀ text item, id (give text item) = text) :
    (identifiedFrom give first items).map id = idsFrom first items.length := by
  induction items generalizing first with
  | nil => rfl
  | cons item rest ih =>
      rw [identifiedFrom_cons, List.map_cons, taken, ih, List.length_cons, idsFrom_succ]

theorem exists_of_mem_identifiedFrom {item : α} (member : item ∈ identifiedFrom give first items) :
    ∃ id, ∃ original ∈ items, item = give id original := by
  induction items generalizing first with
  | nil => cases member
  | cons head rest ih =>
      rw [identifiedFrom_cons] at member
      rcases List.mem_cons.mp member with rfl | later
      · exact ⟨_, head, List.mem_cons_self, rfl⟩
      · obtain ⟨id, original, among, same⟩ := ih later
        exact ⟨id, original, List.mem_cons_of_mem _ among, same⟩

theorem exists_mem_identifiedFrom {original : α} (member : original ∈ items) :
    ∃ id, give id original ∈ identifiedFrom give first items := by
  induction items generalizing first with
  | nil => cases member
  | cons head rest ih =>
      rw [identifiedFrom_cons]
      rcases List.mem_cons.mp member with rfl | later
      · exact ⟨_, List.mem_cons_self⟩
      · obtain ⟨id, found⟩ := ih later
        exact ⟨id, List.mem_cons_of_mem _ found⟩

/-- Rows made of items under their ids, where each row can only be the item with its id. -/
theorem rows_eq_identifiedFrom (row : String → α → Except Cause α) {rows : List α}
    (only : ∀ item ∈ items, ∀ {id made}, row id item = .ok made → made = give id item)
    (made : List.Forall₂ (fun item made => row item.1 item.2 = .ok made)
      ((idsFrom first items.length).zip items) rows) :
    rows = identifiedFrom give first items := by
  induction items generalizing first rows with
  | nil =>
      cases made
      rfl
  | cons item rest ih =>
      rw [List.length_cons, idsFrom_succ, List.zip_cons_cons] at made
      cases made with
      | cons here others =>
          obtain ⟨one, later⟩ := List.forall_mem_cons.mp only
          rw [identifiedFrom_cons, one here, ih later others]

end

theorem numbered_run {ε α : Type} (items : List α) (store : Store) :
    (numbered items : Action ε _) store =
      (.ok ((idsFrom store.nextId items.length).zip items),
        { store with nextId := store.nextId + items.length }) := by
  induction items generalizing store with
  | nil => rfl
  | cons item rest ih =>
      unfold numbered
      have taken : (freshId : Action ε String) store =
        (.ok (idText store.nextId), { store with nextId := store.nextId + 1 }) := rfl
      rw [Operation.bind_of_ok taken, Operation.bind_of_ok (ih _)]
      rw [List.length_cons, idsFrom_succ, List.zip_cons_cons, Nat.add_comm rest.length 1,
        ← Nat.add_assoc]
      rfl

/-! ### Rows of batches -/

theorem execute_ok {activity : Activity} {statement : Image → Except Cause Image}
    {store after : Store} (done : execute activity statement store = (.ok (), after)) :
    ∃ image, statement store.visible = .ok image ∧ after = { store with visible := image } := by
  unfold execute at done
  split at done
  · cases done
  split at done
  · rename_i image changed
    cases done
    exact ⟨image, changed, rfl⟩
  · cases done

theorem execute_error {activity : Activity} {statement : Image → Except Cause Image}
    {store after : Store} {fault : Fault}
    (failed : execute activity statement store = (.error fault, after)) : after = store := by
  unfold execute at failed
  split at failed
  · cases failed
    rfl
  split at failed
  · cases failed
  · cases failed
    rfl

theorem insertNode_ok {item : String × NodeDraft} {image changed : Image}
    (done : image.insertNode item = .ok changed) :
    ∃ row, item.2.row item.1 = .ok row ∧ changed = { image with nodes := image.nodes ++ [row] } := by
  obtain ⟨row, made, same⟩ := Outcome.bind_ok done
  cases same
  exact ⟨row, made, rfl⟩

theorem insertEdge_ok {item : String × EdgeDraft} {image changed : Image}
    (done : image.insertEdge item = .ok changed) :
    ∃ row, item.2.row item.1 = .ok row ∧ changed = { image with edges := image.edges ++ [row] } ∧
      image.hasNode row.source = true ∧ image.hasNode row.target = true := by
  obtain ⟨row, made, checked⟩ := Outcome.bind_ok done
  split at checked
  · rename_i ends
    cases checked
    exact ⟨row, made, rfl, Bool.and_eq_true_iff.mp ends⟩
  · cases checked

theorem executeEach_insertNode {items : List (String × NodeDraft)} {store after : Store}
    (done : executeEach .insertNodes Image.insertNode items store = (.ok (), after)) :
    ∃ rows, List.Forall₂ (fun item row => item.2.row item.1 = .ok row) items rows ∧
      after = { store with
        visible := { store.visible with nodes := store.visible.nodes ++ rows } } := by
  induction items generalizing store with
  | nil =>
      cases done
      exact ⟨[], List.Forall₂.nil, by rw [List.append_nil]⟩
  | cons item rest ih =>
      obtain ⟨_, between, first, remaining⟩ := Operation.bind_ok done
      obtain ⟨image, inserted, rfl⟩ := execute_ok first
      obtain ⟨row, made, rfl⟩ := insertNode_ok inserted
      obtain ⟨rows, others, rfl⟩ := ih remaining
      refine ⟨row :: rows, List.Forall₂.cons made others, ?_⟩
      rw [List.append_assoc]
      rfl

theorem executeEach_insertEdge {items : List (String × EdgeDraft)} {store after : Store}
    (done : executeEach .insertEdges Image.insertEdge items store = (.ok (), after)) :
    ∃ rows, List.Forall₂ (fun item row => item.2.row item.1 = .ok row) items rows ∧
      (∀ row ∈ rows, store.visible.hasNode row.source = true ∧
        store.visible.hasNode row.target = true) ∧
      after = { store with
        visible := { store.visible with edges := store.visible.edges ++ rows } } := by
  induction items generalizing store with
  | nil =>
      cases done
      exact ⟨[], List.Forall₂.nil, List.forall_mem_nil _, by rw [List.append_nil]⟩
  | cons item rest ih =>
      obtain ⟨_, between, first, remaining⟩ := Operation.bind_ok done
      obtain ⟨image, inserted, rfl⟩ := execute_ok first
      obtain ⟨row, made, rfl, ends⟩ := insertEdge_ok inserted
      obtain ⟨rows, others, joined, rfl⟩ := ih remaining
      refine ⟨row :: rows, List.Forall₂.cons made others, List.forall_mem_cons.mpr ⟨ends, joined⟩, ?_⟩
      rw [List.append_assoc]
      rfl

/-- A batch takes its ids first, then its statements are made, then it is committed if nothing is open. -/
private theorem batch_ok {δ : Type} {activity : Activity}
    {statement : String × δ → Image → Except Cause Image} {batch : List δ} {store after : Store}
    {ids : List String}
    (done : (do
      let items ← numbered batch
      if items.isEmpty then pure []
      else
        executeEach activity statement items
        commitIfOutside
        pure (items.map Prod.fst) : Action Fault (List String)) store = (.ok ids, after)) :
    ids = idsFrom store.nextId batch.length ∧
      ∃ between, executeEach activity statement ((idsFrom store.nextId batch.length).zip batch)
          { store with nextId := store.nextId + batch.length } = (.ok (), between) ∧
        after.visible = between.visible ∧ after.nextId = between.nextId := by
  rw [Operation.bind_of_ok (numbered_run batch store)] at done
  cases batch with
  | nil =>
      cases done
      exact ⟨rfl, _, rfl, rfl, rfl⟩
  | cons draft rest =>
      rw [List.length_cons, idsFrom_succ, List.zip_cons_cons] at done ⊢
      obtain ⟨_, between, inserted, remaining⟩ := Operation.bind_ok done
      obtain ⟨_, last, committed, same⟩ := Operation.bind_ok remaining
      obtain ⟨visible, nextId⟩ := commitIfOutside_ok committed
      cases same
      refine ⟨?_, between, inserted, visible, nextId⟩
      rw [List.map_cons, List.map_fst_zip (Nat.le_of_eq (idsFrom_length _ _))]

/-- A batch of nodes that goes well: each draft is a row under the next id. -/
theorem createNodes_ok {batch : List NodeDraft} {store after : Store} {ids : List String}
    (done : createNodes batch store = (.ok ids, after)) :
    ids = idsFrom store.nextId batch.length ∧ after.nextId = store.nextId + batch.length ∧
      ∃ rows, List.Forall₂ (fun item row => item.2.row item.1 = .ok row) (ids.zip batch) rows ∧
        after.visible = { store.visible with nodes := store.visible.nodes ++ rows } := by
  obtain ⟨taken, between, inserted, visible, nextId⟩ := batch_ok done
  obtain ⟨rows, made, rfl⟩ := executeEach_insertNode inserted
  subst taken
  exact ⟨rfl, nextId, rows, made, visible⟩

/-- A batch of edges that goes well: each draft is a row under the next id, between nodes that are there. -/
theorem createEdges_ok {batch : List EdgeDraft} {store after : Store} {ids : List String}
    (done : createEdges batch store = (.ok ids, after)) :
    ids = idsFrom store.nextId batch.length ∧ after.nextId = store.nextId + batch.length ∧
      ∃ rows, List.Forall₂ (fun item row => item.2.row item.1 = .ok row) (ids.zip batch) rows ∧
        (∀ row ∈ rows, store.visible.hasNode row.source = true ∧
          store.visible.hasNode row.target = true) ∧
        after.visible = { store.visible with edges := store.visible.edges ++ rows } := by
  obtain ⟨taken, between, inserted, visible, nextId⟩ := batch_ok done
  obtain ⟨rows, made, joined, rfl⟩ := executeEach_insertEdge inserted
  subst taken
  exact ⟨rfl, nextId, rows, made, joined, visible⟩

theorem steady_createNodes (batch : List NodeDraft) : Steady (createNodes batch) := by
  refine (steady_numbered batch).bind fun items => ?_
  split
  · exact steady_pure []
  · exact (steady_executeEach _ _ items).bind fun _ =>
      steady_commitIfOutside.bind fun _ => steady_pure _

theorem steady_createEdges (batch : List EdgeDraft) : Steady (createEdges batch) := by
  refine (steady_numbered batch).bind fun items => ?_
  split
  · exact steady_pure []
  · exact (steady_executeEach _ _ items).bind fun _ =>
      steady_commitIfOutside.bind fun _ => steady_pure _

/-! ### Rows of drafts -/

namespace Cell

open ChangeImpact.Json (Value)

theorem bind_str {parameter : Nat} {text : String} {cell : Cell}
    (bound : bind parameter (.str text) = .ok cell) : cell = .text text := by
  unfold bind at bound
  dsimp only at bound
  split at bound
  · cases bound
  · cases bound
    rfl

theorem asText_bind_ofOption {parameter : Nat} {text : Option String} {cell : Cell}
    (bound : bind parameter (.ofOption text) = .ok cell) : cell.asText = text := by
  cases text with
  | none =>
      cases bound
      rfl
  | some text =>
      rw [bind_str bound]
      rfl

def IsWhole (value : Value) : Prop := value = .null ∨ ∃ number, value = .int number

theorem asNumber_bind {parameter : Nat} {value : Value} {cell : Cell} (isWhole : IsWhole value)
    (bound : bind parameter value = .ok cell) : cell.asNumber = value := by
  rcases isWhole with rfl | ⟨number, rfl⟩
  · cases bound
    rfl
  · unfold bind at bound
    dsimp only at bound
    split at bound
    · cases bound
      rfl
    · cases bound

end Cell

end ChangeImpact.Store
