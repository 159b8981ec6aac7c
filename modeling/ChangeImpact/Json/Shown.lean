import ChangeImpact.Json.Value
import ChangeImpact.Number.Decimal
import ChangeImpact.Text.Half
import ChangeImpact.Text.Printable

/-!
How messages show values. A text inside a value stands in quotes, single ones unless it holds a single
quote and no double one, and characters that cannot be seen are written by number.
-/

set_option autoImplicit false

namespace ChangeImpact.Json

def quotedChar (quote c : Char) : List Char :=
  if c = quote ∨ c = '\\' then ['\\', c]
  else if c = '\n' then ['\\', 'n']
  else if c = '\t' then ['\\', 't']
  else if c = '\r' then ['\\', 'r']
  else if Text.isPrintable c then [c]
  else if c.toNat < 0x100 then '\\' :: 'x' :: Text.hexDigits 2 c.toNat
  else if c.toNat < 0x10000 then '\\' :: 'u' :: Text.hexDigits 4 c.toNat
  else
    match Text.half? c with
    | some unit => '\\' :: 'u' :: Text.hexDigits 4 unit
    | none => '\\' :: 'U' :: Text.hexDigits 8 c.toNat

def quotedText (text : String) : String :=
  let chars := text.toList
  let quote := if chars.contains '\'' && !chars.contains '"' then '"' else '\''
  String.ofList (quote :: chars.flatMap (quotedChar quote) ++ [quote])

mutual

def Value.quoted : Value → String
  | .null => "None"
  | .bool true => "True"
  | .bool false => "False"
  | .int value => toString value
  | .float value => Decimal.shown value
  | .str value => quotedText value
  | .list items => "[" ++ Text.join ", " (quotedItems items) ++ "]"
  | .object fields => "\x7b" ++ Text.join ", " (quotedFields fields) ++ "\x7d"

def quotedItems : List Value → List String
  | [] => []
  | item :: rest => item.quoted :: quotedItems rest

def quotedFields : List (String × Value) → List String
  | [] => []
  | (name, value) :: rest => (quotedText name ++ ": " ++ value.quoted) :: quotedFields rest

end

/-- A value as plain text: a text stands as it is. -/
def Value.plain : Value → String
  | .str value => value
  | other => other.quoted

def Value.kindName : Value → String
  | .null => "NoneType"
  | .bool _ => "bool"
  | .int _ => "int"
  | .float _ => "float"
  | .str _ => "str"
  | .list _ => "list"
  | .object _ => "dict"

end ChangeImpact.Json
