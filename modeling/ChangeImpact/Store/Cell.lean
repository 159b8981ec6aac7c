import ChangeImpact.Json.Shown
import ChangeImpact.Store.Number

/-!
What a table can hold in one place, and what becomes of a value on its way there. A text column turns numbers
into text; a number column turns text that is a number into one, and a real number without a fraction into a
whole one.
-/

set_option autoImplicit false

namespace ChangeImpact.Store

open ChangeImpact.Json (Value)

inductive Cell where
  | null
  | int (value : Int)
  | real (value : Binary64)
  | text (value : String)
  deriving DecidableEq, Repr

inductive Cause where
  | integerTooLarge
  | unencodable (fault : Text.EncodeFault)
  | unsupported (parameter : Nat) (kind : String)
  | missing (column : String)
  | foreignKey
  | patternTooLong
  | closed
  deriving DecidableEq, Repr

def Cause.message : Cause → String
  | .integerTooLarge => "Python int too large to convert to SQLite INTEGER"
  | .unencodable fault => fault.message
  | .unsupported parameter kind =>
      s!"Error binding parameter {parameter}: type '{kind}' is not supported"
  | .missing column => s!"NOT NULL constraint failed: {column}"
  | .foreignKey => "FOREIGN KEY constraint failed"
  | .patternTooLong => "LIKE or GLOB pattern too complex"
  | .closed => "Cannot operate on a closed database."

namespace Cell

def hasRoom (number : Int) : Bool := -Int.pow 2 63 ≤ number && number < Int.pow 2 63

/-- A value as the content of a place. Values come to a statement as numbered parameters. -/
def bind (parameter : Nat) : Value → Except Cause Cell
  | .null => .ok .null
  | .bool value => .ok (.int (if value then 1 else 0))
  | .int value => if hasRoom value then .ok (.int value) else .error .integerTooLarge
  | .float .undefined => .ok .null
  | .float value => .ok (.real value)
  | .str value =>
      match Text.encodeFault? value with
      | some fault => .error (.unencodable fault)
      | none => .ok (.text value)
  | other => .error (.unsupported parameter other.kindName)

def bindTexts (parameters : List String) : Except Cause Unit :=
  match parameters.findSome? Text.encodeFault? with
  | some fault => .error (.unencodable fault)
  | none => .ok ()

def asText : Cell → Option String
  | .null => none
  | .int value => some (toString value)
  | .real value => some (Number.textOf value)
  | .text value => some value

def required (column : String) (cell : Cell) : Except Cause String :=
  match cell.asText with
  | some kept => .ok kept
  | none => .error (.missing column)

def isInside (number : Int) : Bool := -Int.pow 2 63 < number && number < Int.pow 2 63 - 1

def ofReal (value : Binary64) : Value :=
  match value.whole? with
  | some number => if isInside number then .int number else .float value
  | none => .float value

def numberOf? (text : String) : Option Value := do
  let written ← Number.Written.ofText? text
  match written.whole?.filter hasRoom with
  | some number => some (.int number)
  | none => some (ofReal written.value)

def asNumber : Cell → Value
  | .null => .null
  | .int value => .int value
  | .real value => ofReal value
  | .text value => (numberOf? value).getD (.str value)

end Cell

end ChangeImpact.Store
