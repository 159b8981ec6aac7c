import ChangeImpact.Json.Value

/-!
Fields of an object: setting one changes what is found under its name and nothing else, and no name comes twice by it.
-/

set_option autoImplicit false

namespace ChangeImpact.Json.Fields

variable {α : Type}

theorem mem_names_set {name other : String} {value : α} {fields : List (String × α)} :
    other ∈ (set name value fields).map Prod.fst ↔ other = name ∨ other ∈ fields.map Prod.fst := by
  induction fields with
  | nil => simp [set]
  | cons field rest ih =>
      unfold set
      split
      · rename_i same
        rw [List.map_cons, List.mem_cons, List.map_cons, List.mem_cons, same]
        grind
      · rw [List.map_cons, List.mem_cons, ih, List.map_cons, List.mem_cons]
        grind

theorem lookup_set_self (name : String) (value : α) (fields : List (String × α)) :
    (set name value fields).lookup name = some value := by
  induction fields with
  | nil => simp [set]
  | cons field rest ih =>
      unfold set
      split
      · simp
      · rename_i other
        have unequal : (name == field.1) = false := beq_false_of_ne (Ne.symm other)
        rw [List.lookup_cons, unequal]
        exact ih

theorem lookup_set_of_ne {name other : String} (different : other ≠ name) (value : α) (fields : List (String × α)) :
    (set name value fields).lookup other = fields.lookup other := by
  induction fields with
  | nil => simp [set, List.lookup_cons, beq_false_of_ne different]
  | cons field rest ih =>
      unfold set
      split
      · rename_i same
        have unequal : (other == field.1) = false := beq_false_of_ne (fun found => different (found.trans same))
        rw [List.lookup_cons, List.lookup_cons, beq_false_of_ne different, unequal]
      · rw [List.lookup_cons, List.lookup_cons, ih]

theorem lookup_eq_none {name : String} {fields : List (String × α)}
    (absent : name ∉ fields.map Prod.fst) : fields.lookup name = none := by
  rw [List.lookup_eq_none_iff]
  intro field member
  simp only [bne_iff_ne, ne_eq]
  intro same
  exact absent (List.mem_map.mpr ⟨field, member, same.symm⟩)

theorem lookup_of_mem {fields : List (String × α)} (distinct : (fields.map Prod.fst).Nodup) {field : String × α}
    (member : field ∈ fields) : fields.lookup field.1 = some field.2 := by
  induction fields with
  | nil => cases member
  | cons first rest ih =>
      rw [List.map_cons, List.nodup_cons] at distinct
      rcases List.mem_cons.mp member with rfl | later
      · rw [List.lookup_cons, beq_self_eq_true]
      · have unequal : (field.1 == first.1) = false :=
          beq_false_of_ne fun same => distinct.1 (same ▸ List.mem_map_of_mem later)
        rw [List.lookup_cons, unequal]
        exact ih distinct.2 later

theorem mem_of_lookup {name : String} {value : α} {fields : List (String × α)}
    (found : fields.lookup name = some value) : (name, value) ∈ fields := by
  induction fields with
  | nil => cases found
  | cons first rest ih =>
      by_cases same : name = first.1
      · rw [List.lookup_cons, same, beq_self_eq_true] at found
        cases found
        rw [same]
        exact List.mem_cons_self
      · rw [List.lookup_cons, beq_false_of_ne same] at found
        exact List.mem_cons_of_mem _ (ih found)

theorem lookup_perm {left right : List (String × α)} (distinct : (left.map Prod.fst).Nodup) (same : left.Perm right)
    (name : String) : right.lookup name = left.lookup name := by
  have others : (right.map Prod.fst).Nodup := (same.map Prod.fst).nodup distinct
  rcases found : left.lookup name with _ | value
  · refine lookup_eq_none fun member => ?_
    obtain ⟨field, listed, rfl⟩ := List.mem_map.mp member
    rw [lookup_of_mem distinct (same.mem_iff.mpr listed)] at found
    cases found
  · exact lookup_of_mem others (same.mem_iff.mp (mem_of_lookup found))

theorem lookup_reverse {fields : List (String × α)} (distinct : (fields.map Prod.fst).Nodup) (name : String) :
    fields.reverse.lookup name = fields.lookup name :=
  lookup_perm distinct (List.reverse_perm fields).symm name

theorem lookup_map {β : Type} (compute : α → β) (name : String) (fields : List (String × α)) :
    (fields.map fun field => (field.1, compute field.2)).lookup name = (fields.lookup name).map compute := by
  induction fields with
  | nil => rfl
  | cons first rest ih =>
      rw [List.map_cons, List.lookup_cons, List.lookup_cons]
      by_cases same : name = first.1
      · simp [same]
      · rw [beq_false_of_ne same]
        exact ih

theorem lookup_filter_ne (name : String) (fields : List (String × α)) :
    (fields.filter fun field => field.1 ≠ name).lookup name = none := by
  refine lookup_eq_none fun member => ?_
  obtain ⟨field, kept, same⟩ := List.mem_map.mp member
  exact of_decide_eq_true (List.mem_filter.mp kept).2 same

theorem lookup_filter_of_ne {name other : String} (different : other ≠ name) (fields : List (String × α)) :
    (fields.filter fun field => field.1 ≠ name).lookup other = fields.lookup other := by
  induction fields with
  | nil => rfl
  | cons first rest ih =>
      by_cases same : first.1 = name
      · have unequal : (other == first.1) = false := beq_false_of_ne fun found => different (found.trans same)
        rw [List.filter_cons_of_neg (by simpa using same), ih, List.lookup_cons, unequal]
      · rw [List.filter_cons_of_pos (by simpa using same), List.lookup_cons, List.lookup_cons, ih]

theorem nodup_set {fields : List (String × α)} (distinct : (fields.map Prod.fst).Nodup) (name : String) (value : α) :
    ((set name value fields).map Prod.fst).Nodup := by
  induction fields with
  | nil => simp [set]
  | cons first rest ih =>
      rw [List.map_cons, List.nodup_cons] at distinct
      unfold set
      split
      · rename_i same
        rw [List.map_cons, List.nodup_cons]
        exact ⟨fun found => distinct.1 (same ▸ found), distinct.2⟩
      · rename_i other
        rw [List.map_cons, List.nodup_cons]
        refine ⟨fun found => ?_, ih distinct.2⟩
        rcases mem_names_set.mp found with same | found
        · exact other same
        · exact distinct.1 found

theorem nodup_merge {fields : List (String × α)} (distinct : (fields.map Prod.fst).Nodup)
    (changes : List (String × α)) : ((merge fields changes).map Prod.fst).Nodup := by
  unfold merge
  induction changes generalizing fields with
  | nil => exact distinct
  | cons change rest ih => exact ih (nodup_set distinct change.1 change.2)

/-- The last change of a name wins; a name without any keeps what it has. -/
theorem lookup_merge (fields changes : List (String × α)) (name : String) :
    (merge fields changes).lookup name = (changes.reverse.lookup name).or (fields.lookup name) := by
  unfold merge
  induction changes generalizing fields with
  | nil => rfl
  | cons change rest ih =>
      rw [List.foldl_cons, ih, List.reverse_cons, List.lookup_append, Option.or_assoc]
      congr 1
      by_cases same : name = change.1
      · rw [same, lookup_set_self, List.lookup_cons, beq_self_eq_true, Option.some_or]
      · rw [lookup_set_of_ne same, List.lookup_cons, beq_false_of_ne same, List.lookup_nil, Option.none_or]

end ChangeImpact.Json.Fields
