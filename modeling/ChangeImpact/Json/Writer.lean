import ChangeImpact.Json.Shown

/-!
Texts of values in the interchange format, on one line or indented, with every character or with those
outside the basic range written by number.
-/

set_option autoImplicit false

namespace ChangeImpact.Json

structure Layout where
  /-- Blanks per level; without a number all stands on one line. -/
  indent : Option Nat
  /-- Whether characters outside the basic range are written by number. -/
  basicOnly : Bool

namespace Layout

/-- One line, every character of the basic range. -/
def line : Layout := { indent := none, basicOnly := true }

/-- One line, every character as it is. -/
def openLine : Layout := { indent := none, basicOnly := false }

def page : Layout := { indent := some 2, basicOnly := true }

end Layout

private def unitEscape (unit : Nat) : List Char :=
  '\\' :: 'u' :: Text.hexDigits 4 unit

def writtenChar (basicOnly : Bool) (c : Char) : List Char :=
  if c = '"' then ['\\', '"']
  else if c = '\\' then ['\\', '\\']
  else if c = '\n' then ['\\', 'n']
  else if c = '\r' then ['\\', 'r']
  else if c = '\t' then ['\\', 't']
  else if c = '\x0c' then ['\\', 'f']
  else if c = '\x08' then ['\\', 'b']
  else if c.toNat < 0x20 then unitEscape c.toNat
  else if c.toNat < 0x7F || !basicOnly then [c]
  else if c.toNat < 0x10000 then unitEscape c.toNat
  else
    match Text.half? c with
    | some unit => unitEscape unit
    | none =>
        let offset := c.toNat - 0x10000
        unitEscape (0xD800 + offset / 0x400) ++ unitEscape (0xDC00 + offset % 0x400)

def writtenText (basicOnly : Bool) (text : String) : String :=
  String.ofList ('"' :: text.toList.flatMap (writtenChar basicOnly) ++ ['"'])

def writtenFloat : Binary64 → String
  | .infinite false => "Infinity"
  | .infinite true => "-Infinity"
  | .undefined => "NaN"
  | finite => Decimal.shown finite

private def lineBreak (width level : Nat) : String :=
  String.ofList ('\n' :: List.replicate (width * level) ' ')

def bracketed (layout : Layout) (level : Nat) (opening closing : String) (members : List String) :
    String :=
  if members.isEmpty then opening ++ closing
  else
    match layout.indent with
    | none => opening ++ Text.join ", " members ++ closing
    | some width =>
        opening ++ lineBreak width (level + 1) ++
          Text.join ("," ++ lineBreak width (level + 1)) members ++ lineBreak width level ++ closing

mutual

def Value.writeAt (layout : Layout) (level : Nat) : Value → String
  | .null => "null"
  | .bool true => "true"
  | .bool false => "false"
  | .int value => toString value
  | .float value => writtenFloat value
  | .str value => writtenText layout.basicOnly value
  | .list items => bracketed layout level "[" "]" (writeItems layout (level + 1) items)
  | .object fields => bracketed layout level "\x7b" "\x7d" (writeFields layout (level + 1) fields)

def writeItems (layout : Layout) (level : Nat) : List Value → List String
  | [] => []
  | item :: rest => item.writeAt layout level :: writeItems layout level rest

def writeFields (layout : Layout) (level : Nat) : List (String × Value) → List String
  | [] => []
  | (name, value) :: rest =>
      (writtenText layout.basicOnly name ++ ": " ++ value.writeAt layout level) ::
        writeFields layout level rest

end

def Value.write (layout : Layout) (value : Value) : String :=
  value.writeAt layout 0

end ChangeImpact.Json
