import ChangeImpact.Json.Value
import ChangeImpact.Text.Basic

/-!
Values of settings documents, why documents cannot be read or written, and places inside a value. A place is
a row of steps into tables and to the ends of lists; a step that does not fit the value there is a fault.
-/

set_option autoImplicit false

namespace ChangeImpact.Toml

inductive MomentKind where
  | date
  | dateTime
  | time
  deriving DecidableEq, Repr

/-- A value of a document. A table may stand within a line. The value of a name that is no text is
unreachable: it is there, but its name does not lead to it. -/
inductive Value where
  | bool (value : Bool)
  | int (value : Int)
  | float (value : Binary64)
  | str (value : String)
  | moment (kind : MomentKind) (written : String)
  | list (items : List Value)
  | table (inLine : Bool) (fields : List (String × Value))
  | unreachable
  deriving Inhabited, Repr

abbrev Fields := List (String × Value)

/-- Why a document cannot be read or written. A malformed document counts as an empty one; the other faults
do not pass unnoticed. Another format may have faults of its own. -/
inductive Fault where
  | malformed
  | outsideText
  | outsideList
  | notSubscriptable (kind : String)
  | notSearchable (kind : String)
  | notIterable (kind : String)
  | notAssignable (kind : String)
  | notExtensible
  | nameIntoText
  | nameIntoList
  | characterTooLarge
  | unsetValue
  | tooDeep
  | unknownName (shown : String)
  | other (message : String)
  deriving DecidableEq, Repr

def Fault.message : Fault → String
  | .malformed => "malformed document"
  | .outsideText => "string index out of range"
  | .outsideList => "list index out of range"
  | .notSubscriptable kind => s!"'{kind}' object is not subscriptable"
  | .notSearchable kind => s!"argument of type '{kind}' is not iterable"
  | .notIterable kind => s!"'{kind}' object is not iterable"
  | .notAssignable kind => s!"'{kind}' object does not support item assignment"
  | .notExtensible => "You can only load a file descriptor, filename or list"
  | .nameIntoText => "string indices must be integers, not 'str'"
  | .nameIntoList => "list indices must be integers or slices, not str"
  | .characterTooLarge => "Python int too large to convert to C int"
  | .unsetValue => "cannot access local variable 'value' where it is not associated with a value"
  | .tooDeep => "maximum recursion depth exceeded while calling a Python object"
  | .unknownName shown => shown
  | .other message => message

def MomentKind.name : MomentKind → String
  | .date => "datetime.date"
  | .dateTime => "datetime.datetime"
  | .time => "datetime.time"

namespace Value

def kindName : Value → String
  | .bool _ => "bool"
  | .int _ => "int"
  | .float _ => "float"
  | .str _ => "str"
  | .moment kind _ => kind.name
  | .list _ => "list"
  | .table true _ => "DynamicInlineTableDict"
  | .table false _ => "dict"
  | .unreachable => "NoneType"

def emptyTable : Value := .table false []

def agrees : Value → Value → Bool
  | .bool _, .bool _ => true
  | .int _, .int _ => true
  | .float _, .float _ => true
  | .str _, .str _ => true
  | .moment left _, .moment right _ => decide (left = .time) == decide (right = .time)
  | .list _, .list _ => true
  | .table _ _, .table _ _ => true
  | _, _ => false

/-- The last of the parts of a value. A table has none. -/
def last? : Value → Except Fault (Option Value)
  | .list items =>
      match items.getLast? with
      | some item => .ok (some item)
      | none => .error .outsideList
  | .str text =>
      match text.toList.getLast? with
      | some c => .ok (some (.str (String.singleton c)))
      | none => .error .outsideText
  | .table _ _ => .ok none
  | other => .error (.notSubscriptable other.kindName)

/-- Whether a value holds a name: a table as that of a field, a list as a member, a text as a part. -/
def holds (name : String) : Value → Except Fault Bool
  | .table _ fields => .ok (fields.any fun field => field.1 == name)
  | .list items => .ok (items.any fun item => match item with | .str text => text == name | _ => false)
  | .str text => .ok (Text.occursIn name text)
  | other => .error (.notSearchable other.kindName)

def field? (name : String) : Value → Except Fault (Option Value)
  | .table _ fields => .ok (fields.lookup name)
  | .str _ => .error .nameIntoText
  | .list _ => .error .nameIntoList
  | other => .error (.notSubscriptable other.kindName)

def setField (name : String) (value : Value) : Value → Except Fault Value
  | .table inLine fields => .ok (.table inLine (Json.Fields.set name value fields))
  | .list _ => .error .nameIntoList
  | other => .error (.notAssignable other.kindName)

def append (value : Value) : Value → Except Fault Value
  | .list items => .ok (.list (items ++ [value]))
  | _ => .error .notExtensible

end Value

inductive Selector where
  | field (name : String)
  | last
  deriving DecidableEq, Repr

namespace Value

/-- The value that one step leads to. A step to a field that is not there leads to no table. -/
def step (value : Value) : Selector → Except Fault Value
  | .field name => do
      match ← value.field? name with
      | some inner => .ok inner
      | none => .error .malformed
  | .last => do
      match ← value.last? with
      | some inner => .ok inner
      | none => .error .malformed

def follow (value : Value) : List Selector → Except Fault Value
  | [] => .ok value
  | step :: rest => do
      let inner ← value.step step
      inner.follow rest

def replace (value inner : Value) : Selector → Value
  | .field name =>
      match value with
      | .table inLine fields => .table inLine (Json.Fields.set name inner fields)
      | other => other
  | .last =>
      match value with
      | .list items => .list (items.dropLast ++ [inner])
      | other => other

def change (change : Value → Except Fault Value) (value : Value) : List Selector → Except Fault Value
  | [] => change value
  | step :: rest => do
      let inner ← value.step step
      let changed ← Value.change change inner rest
      .ok (value.replace changed step)

end Value

mutual

def Value.toJson : Value → Json.Value
  | .bool value => .bool value
  | .int value => .int value
  | .float value => .float value
  | .str value => .str value
  | .moment _ written => .str written
  | .list items => .list (itemsToJson items)
  | .table _ fields => .object (fieldsToJson fields)
  | .unreachable => .null

def itemsToJson : List Value → List Json.Value
  | [] => []
  | item :: rest => item.toJson :: itemsToJson rest

def fieldsToJson : Fields → Json.Fields
  | [] => []
  | (name, value) :: rest => (name, value.toJson) :: fieldsToJson rest

end

end ChangeImpact.Toml
