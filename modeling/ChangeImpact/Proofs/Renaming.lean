import ChangeImpact.Proofs.GraphTyping

/-!
Graphs under other ids. Names are looked up without a look at ids, so an index of renamed nodes finds the renamed
nodes, and references resolved with it become the renamed edges. The rows that extractions become therefore depend on
the first id by a renaming alone.
-/

set_option autoImplicit false

namespace ChangeImpact

def Node.renamed (rename : String → String) (node : Node) : Node := node.withId (rename node.id)

def Edge.renamed (rename : String → String) (edge : Edge) : Edge :=
  { edge with id := rename edge.id, source := rename edge.source, target := rename edge.target }

def PendingEdge.renamed (rename : String → String) (pending : PendingEdge) : PendingEdge :=
  { pending with source := rename pending.source, target := pending.target.map rename }

variable (rename : String → String)

/-! ### Lookups -/

theorem Policy.choose_map {α β : Type} (change : α → β) (policy : Policy) (candidates : List α) :
    policy.choose (candidates.map change) = (policy.choose candidates).map change := by
  cases policy with
  | firstDeclared => exact List.head?_map
  | lastWriter => exact List.getLast?_map

namespace NameIndex

variable (policy : Policy) (nodes : List Node)

theorem candidates_renamed (key : String) :
    (ofNodes policy (nodes.map (Node.renamed rename))).candidates key =
      ((ofNodes policy nodes).candidates key).map (Node.renamed rename) := by
  unfold ofNodes add candidates
  simp only [List.nil_append]
  induction nodes with
  | nil => rfl
  | cons node rest ih =>
      have keys : keysOf (node.renamed rename) = keysOf node := rfl
      simp only [List.map_cons, List.flatMap_cons, List.filter_append, List.map_append, ih, keys]
      congr 1
      simp only [List.filter_map, List.map_map, Function.comp_def]

theorem lookup_renamed (key : String) (allowed : Option (List NodeKind)) :
    (ofNodes policy (nodes.map (Node.renamed rename))).lookup key allowed =
      ((ofNodes policy nodes).lookup key allowed).map (Node.renamed rename) := by
  unfold lookup
  rw [candidates_renamed, List.filter_map]
  exact Policy.choose_map _ policy _

theorem resolve_renamed (name file : String) (allowed : Option (List NodeKind)) :
    (ofNodes policy (nodes.map (Node.renamed rename))).resolve name file allowed =
      ((ofNodes policy nodes).resolve name file allowed).map (Node.renamed rename) := by
  unfold resolve
  rw [lookup_renamed, lookup_renamed]
  cases (ofNodes policy nodes).lookup (qualified file name) allowed <;> rfl

end NameIndex

/-! ### References -/

namespace Resolution

section

variable (policy : Policy) (nodes : List Node)

theorem target?_renamed (file : String) (reference : Reference) :
    target? (.ofNodes policy (nodes.map (Node.renamed rename))) file reference =
      (target? (.ofNodes policy nodes) file reference).map (Node.renamed rename) := by
  have byPath : ∀ (paths : List String) (allowed : Option (List NodeKind)),
      paths.findSome? (fun path =>
          (NameIndex.ofNodes policy (nodes.map (Node.renamed rename))).lookup path allowed) =
        (paths.findSome? fun path => (NameIndex.ofNodes policy nodes).lookup path allowed).map
          (Node.renamed rename) := by
    intro paths allowed
    simp only [NameIndex.lookup_renamed, List.map_findSome?, Function.comp_def]
  unfold target?
  dsimp only
  rw [NameIndex.resolve_renamed]
  split
  · rw [byPath, Option.map_or]
  · rfl

theorem pending?_renamed (item : String × Reference) :
    pending? (.ofNodes policy (nodes.map (Node.renamed rename))) item =
      (pending? (.ofNodes policy nodes) item).map (PendingEdge.renamed rename) := by
  unfold pending?
  rw [NameIndex.resolve_renamed, target?_renamed]
  simp only [Option.map_map]
  congr 1
  funext source
  simp only [Function.comp_apply, PendingEdge.renamed, Option.map_map]
  rfl

theorem pendings_renamed (items : List (String × Reference)) :
    items.filterMap (pending? (.ofNodes policy (nodes.map (Node.renamed rename)))) =
      (items.filterMap (pending? (.ofNodes policy nodes))).map (PendingEdge.renamed rename) := by
  rw [List.map_filterMap]
  apply List.filterMap_congr
  intro item _
  exact pending?_renamed rename policy nodes item

theorem unresolved_renamed (pending : List PendingEdge) :
    unresolved (pending.map (PendingEdge.renamed rename)) = unresolved pending := by
  unfold unresolved
  rw [List.filter_map, List.map_map]
  congr 1
  apply List.filter_congr
  intro edge _
  exact Option.isNone_map

variable (extractions : List Extraction)

theorem ofExtractions_renamed :
    ofExtractions (.ofNodes policy (nodes.map (Node.renamed rename))) extractions =
      { ofExtractions (.ofNodes policy nodes) extractions with
        pending := (ofExtractions (.ofNodes policy nodes) extractions).pending.map
          (PendingEdge.renamed rename) } := by
  have lost : ∀ item, (pending? (.ofNodes policy (nodes.map (Node.renamed rename))) item).isNone =
      (pending? (.ofNodes policy nodes) item).isNone := by
    intro item
    rw [pending?_renamed, Option.isNone_map]
  unfold ofExtractions
  rw [foldl_step, foldl_step, pendings_renamed]
  simp only [unresolved_renamed, lost, List.nil_append]

end

theorem lookup_map_snd (pairs : List (String × String)) (key : String) :
    (pairs.map fun pair => (pair.1, rename pair.2)).lookup key = (pairs.lookup key).map rename := by
  induction pairs with
  | nil => rfl
  | cons pair rest ih =>
      rw [List.map_cons, List.lookup_cons, List.lookup_cons]
      cases key == pair.1 with
      | true => rfl
      | false => exact ih

/-- An edge between renamed ends is the renamed edge, if what stands for no id is left alone. -/
theorem edge_renamed (blank : rename "" = "") (analysis : String) (ids : List (String × String))
    (pending : PendingEdge) :
    edge analysis (ids.map fun pair => (pair.1, rename pair.2)) (pending.renamed rename) =
      (edge analysis ids pending).renamed rename := by
  unfold edge PendingEdge.renamed Edge.renamed
  rw [lookup_map_snd]
  cases pending.target with
  | some target => simp [blank]
  | none =>
      cases ids.lookup pending.reference.target with
      | some id => simp [blank]
      | none => simp [blank]

end Resolution

/-! ### Assemblies -/

namespace Builder

open ChangeImpact.Store (idText identifiedFrom)

/-- A renaming that takes the ids from one number on to the ids from another number on. -/
structure Shifts (rename : String → String) (first second : Nat) : Prop where
  ids : ∀ steps, rename (idText (first + steps)) = idText (second + steps)
  blank : rename "" = ""

theorem exists_shifts (first second : Nat) : ∃ rename, Shifts rename first second := by
  have injective : Function.Injective idText := fun _ _ => Store.idText_injective
  refine ⟨Function.extend idText (fun number => idText (number - first + second)) id, ?_, ?_⟩
  · intro steps
    rw [injective.extend_apply, Nat.add_sub_cancel_left, Nat.add_comm]
  · apply Function.extend_apply'
    rintro ⟨number, same⟩
    have length := congrArg String.length same
    unfold idText at length
    simp at length

section

variable {rename} {first second : Nat}

theorem Shifts.add (shifts : Shifts rename first second) (taken : Nat) :
    Shifts rename (first + taken) (second + taken) := by
  refine ⟨?_, shifts.blank⟩
  intro steps
  rw [Nat.add_assoc, Nat.add_assoc]
  exact shifts.ids (taken + steps)

/-- Items under the ids from another number on are the renamed items. -/
theorem Shifts.identifiedFrom {α : Type} {give : String → α → α} {change within : α → α}
    (shifts : Shifts rename first second)
    (renames : ∀ id item, change (give id item) = give (rename id) (within item)) (items : List α) :
    identifiedFrom give second (items.map within) = (identifiedFrom give first items).map change := by
  induction items generalizing first second with
  | nil => rfl
  | cons item rest ih =>
      have here : rename (idText first) = idText second := shifts.ids 0
      rw [List.map_cons, Store.identifiedFrom_cons, Store.identifiedFrom_cons, List.map_cons, renames,
        here, ih (shifts.add 1)]

theorem Shifts.identifiedFrom_nodes (shifts : Shifts rename first second) (nodes : List Node) :
    Store.identifiedFrom Node.withId second nodes =
      (Store.identifiedFrom Node.withId first nodes).map (Node.renamed rename) := by
  have renames : ∀ id (node : Node), (node.withId id).renamed rename = node.withId (rename id) :=
    fun _ _ => rfl
  rw [← shifts.identifiedFrom renames nodes, List.map_id']

end

namespace Assembly

def renamed (assembly : Assembly) : Assembly :=
  { assembly with
    declared := assembly.declared.map (Node.renamed rename)
    placeholders := assembly.placeholders.map (Node.renamed rename)
    edges := assembly.edges.map (Edge.renamed rename) }

end Assembly

/-- What extractions become depends on the first id by a renaming alone. -/
theorem assemble_renamed {rename} {first second : Nat} (shifts : Shifts rename first second)
    (policy : Policy) (analysis : String) (extractions : List Extraction) :
    assemble policy analysis second extractions =
      (assemble policy analysis first extractions).renamed rename := by
  have renames : ∀ id (edge : Edge),
      (edge.withId id).renamed rename = (edge.renamed rename).withId (rename id) := fun _ _ => rfl
  unfold assemble Assembly.renamed
  dsimp only
  rw [shifts.identifiedFrom_nodes, Resolution.ofExtractions_renamed]
  dsimp only
  rw [List.length_map, (shifts.add _).identifiedFrom_nodes, List.length_map,
    ← ((shifts.add _).add _).identifiedFrom renames, List.map_map, List.map_map, List.map_map]
  simp only [Function.comp_def, ← Resolution.edge_renamed rename shifts.blank, List.map_map]
  rfl

end Builder

end ChangeImpact
