import ChangeImpact.Number.Binary64

/-!
Values of the interchange format: what metadata, findings and settings hold. An object keeps its
fields in the order in which their names first came.
-/

set_option autoImplicit false

namespace ChangeImpact.Json

inductive Value where
  | null
  | bool (value : Bool)
  | int (value : Int)
  | float (value : Binary64)
  | str (value : String)
  | list (items : List Value)
  | object (fields : List (String × Value))
  deriving Inhabited, Repr

abbrev Fields := List (String × Value)

/-- Sets a field: a known name keeps its place, a new one goes to the end. -/
def Fields.set {α : Type} (name : String) (value : α) : List (String × α) → List (String × α)
  | [] => [(name, value)]
  | field :: rest =>
      if field.1 = name then (name, value) :: rest else field :: Fields.set name value rest

def Fields.merge {α : Type} (fields changes : List (String × α)) : List (String × α) :=
  changes.foldl (fun merged change => Fields.set change.1 change.2 merged) fields

namespace Value

def get? (name : String) : Value → Option Value
  | .object fields => fields.lookup name
  | _ => none

/-- Whether a value counts as given: neither null, false, zero nor empty. -/
def isTruthy : Value → Bool
  | .null => false
  | .bool value => value
  | .int value => value != 0
  | .float value => !value.isZero
  | .str value => !value.isEmpty
  | .list items => !items.isEmpty
  | .object fields => !fields.isEmpty

def ofOption : Option String → Value
  | none => .null
  | some text => .str text

def ofNat (number : Nat) : Value := .int (Int.ofNat number)

def whole? : Value → Option Int
  | .bool value => some (if value then 1 else 0)
  | .int value => some value
  | .float value => value.whole?
  | _ => none

/-- Whether two values are the same number, the same text, or both null. Lists and objects are never
the same. -/
def sameScalar : Value → Value → Bool
  | .null, .null => true
  | .str left, .str right => left == right
  | .float left, .float right => decide (left = right) || (left.isZero && right.isZero)
  | left, right => left.whole?.isSome && left.whole? == right.whole?

end Value

end ChangeImpact.Json
