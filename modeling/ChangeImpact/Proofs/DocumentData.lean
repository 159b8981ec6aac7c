import ChangeImpact.Proofs.Fields
import ChangeImpact.Proofs.Outcome
import ChangeImpact.Toml.Value

/-!
The data of a document: what stands at each place inside its values. Neither the order of a table's fields nor whether
it stands within a line counts.
-/

set_option autoImplicit false

namespace ChangeImpact.Toml

/-- A way into a value: the name of a field, or the position of an item. -/
inductive Key where
  | name (text : String)
  | position (number : Nat)
  deriving DecidableEq, Repr

inductive Shape where
  | bool (value : Bool)
  | int (value : Int)
  | float (value : Binary64)
  | str (value : String)
  | moment (kind : MomentKind) (written : String)
  | list
  | table
  | unreachable
  deriving DecidableEq, Repr

namespace Value

def shape : Value → Shape
  | .bool value => .bool value
  | .int value => .int value
  | .float value => .float value
  | .str value => .str value
  | .moment kind written => .moment kind written
  | .list _ => .list
  | .table _ _ => .table
  | .unreachable => .unreachable

def isWhole : Value → Bool
  | .list _ => false
  | .table _ _ => false
  | _ => true

def part? : Value → Key → Option Value
  | .table _ fields, .name text => fields.lookup text
  | .list items, .position number => items[number]?
  | _, _ => none

def at? (value : Value) : List Key → Option Value
  | [] => some value
  | key :: rest => (value.part? key).bind fun part => part.at? rest

/-- The data of a value: what it is at each place. -/
def data (value : Value) (place : List Key) : Option Shape := (value.at? place).map shape

variable {left right : Value}

theorem eq_of_shape (whole : left.isWhole = true) (same : left.shape = right.shape) : left = right := by
  cases left <;> cases right <;> simp_all [shape, isWhole]

theorem data_cons (value : Value) (key : Key) (rest : List Key) :
    value.data (key :: rest) = (value.part? key).bind fun part => part.data rest :=
  Option.map_bind

theorem map_data_eq_iff {first second : Option Value} :
    first.map data = second.map data ↔
      ∀ rest, (first.bind fun part => part.data rest) = second.bind fun part => part.data rest := by
  rcases first with _ | part <;> rcases second with _ | other
  · simp
  · exact ⟨fun same => (nomatch same), fun same => (nomatch same [])⟩
  · exact ⟨fun same => (nomatch same), fun same => (nomatch same [])⟩
  · exact ⟨fun same => congrFun (Option.some.inj same), fun same => congrArg some (funext same)⟩

/-- Values hold the same data if they are of one shape and their parts hold the same data. -/
theorem data_eq_iff :
    left.data = right.data ↔
      left.shape = right.shape ∧ ∀ key, (left.part? key).map data = (right.part? key).map data := by
  simp only [map_data_eq_iff, ← data_cons]
  refine ⟨fun same => ⟨Option.some.inj (congrFun same []), fun key rest => congrFun same (key :: rest)⟩, ?_⟩
  rintro ⟨shapes, parts⟩
  funext place
  cases place with
  | nil => exact congrArg some shapes
  | cons key rest => exact parts key rest

theorem eq_of_data (whole : left.isWhole = true) (same : left.data = right.data) : left = right :=
  eq_of_shape whole (data_eq_iff.mp same).1

/-- A list of texts is told by its data. -/
theorem texts_of_data {texts : List String} (same : (Value.list (texts.map .str)).data = right.data) :
    right = .list (texts.map .str) := by
  obtain ⟨shapes, parts⟩ := data_eq_iff.mp same
  cases right with
  | list items =>
      refine congrArg Value.list (List.ext_getElem? fun number => ?_)
      have here := parts (.position number)
      simp only [part?, List.getElem?_map] at here ⊢
      generalize texts[number]? = text at here ⊢
      generalize items[number]? = item at here ⊢
      rcases text with _ | text <;> rcases item with _ | item
      · rfl
      · cases here
      · cases here
      · exact congrArg some (eq_of_data rfl (Option.some.inj here)).symm
  | _ => cases shapes

theorem table_data {inLine other : Bool} {fields others : Fields} :
    (table inLine fields).data = (table other others).data ↔
      ∀ name, (fields.lookup name).map data = (others.lookup name).map data := by
  refine ⟨fun same name => (data_eq_iff.mp same).2 (.name name), fun same => data_eq_iff.mpr ⟨rfl, fun key => ?_⟩⟩
  cases key with
  | name text => exact same text
  | position number => rfl

theorem fields_of_data {inLine : Bool} {fields : Fields} (same : (table inLine fields).data = right.data) :
    ∃ other others, right = table other others ∧
      ∀ name, (fields.lookup name).map data = (others.lookup name).map data := by
  have shapes := (data_eq_iff.mp same).1
  cases right with
  | table other others => exact ⟨other, others, rfl, table_data.mp same⟩
  | _ => cases shapes

/-! ### Equal values -/

mutual

def same : Value → Value → Bool
  | .list items, .list others => sameItems items others
  | .table inLine fields, .table other others => inLine == other && sameFields fields others
  | left, right => left.isWhole && left.shape == right.shape

def sameItems : List Value → List Value → Bool
  | [], [] => true
  | item :: rest, other :: others => same item other && sameItems rest others
  | _, _ => false

def sameFields : List (String × Value) → List (String × Value) → Bool
  | [], [] => true
  | (name, value) :: rest, (other, found) :: others => name == other && same value found && sameFields rest others
  | _, _ => false

end

mutual

theorem same_iff : (left right : Value) → (same left right = true ↔ left = right)
  | .list items, right => by cases right <;> simp [same, isWhole, sameItems_iff items]
  | .table inLine fields, right => by cases right <;> simp [same, isWhole, sameFields_iff fields]
  | .bool _, right => by cases right <;> simp [same, isWhole, shape]
  | .int _, right => by cases right <;> simp [same, isWhole, shape]
  | .float _, right => by cases right <;> simp [same, isWhole, shape]
  | .str _, right => by cases right <;> simp [same, isWhole, shape]
  | .moment _ _, right => by cases right <;> simp [same, isWhole, shape]
  | .unreachable, right => by cases right <;> simp [same, isWhole, shape]

theorem sameItems_iff : (items others : List Value) → (sameItems items others = true ↔ items = others)
  | [], others => by cases others <;> simp [sameItems]
  | item :: rest, others => by cases others <;> simp [sameItems, same_iff item, sameItems_iff rest]

theorem sameFields_iff : (fields others : List (String × Value)) → (sameFields fields others = true ↔ fields = others)
  | [], others => by cases others <;> simp [sameFields]
  | (name, value) :: rest, others => by
      cases others with
      | nil => simp [sameFields]
      | cons field others => simp [sameFields, same_iff value, sameFields_iff rest, Prod.ext_iff]

end

instance : DecidableEq Value := fun left right => decidable_of_iff _ (same_iff left right)

end Value

end ChangeImpact.Toml
