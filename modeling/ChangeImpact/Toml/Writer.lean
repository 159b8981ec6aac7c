import ChangeImpact.Json.Shown
import ChangeImpact.Toml.Pieces

/-!
Writing settings documents. The plain fields of a table come first, then its lists of tables, then the tables
in it, level after level, each under a header with its whole name.
-/

set_option autoImplicit false

namespace ChangeImpact.Toml

open ChangeImpact.Json (quotedText)

/-- Whether an escape by number that follows a text keeps its mark. Backslashes at the end of the text are
counted up to its first character. -/
def keepsMark (text : List Char) : Bool :=
  let run := (text.drop 1).reverse.takeWhile (· = '\\')
  (text.getLast? != some '\\') != (run.length % 2 == 1)

def halveBackslashes : List Char → List Char
  | '\\' :: '\\' :: rest => '\\' :: halveBackslashes rest
  | c :: rest => c :: halveBackslashes rest
  | [] => []

/-- Joins the pieces of a text that two-digit escapes have cut. An empty piece in front is left out. -/
def joinNumbered : List (List Char) → Except Fault (List Char)
  | [] => .ok []
  | [piece] => .ok piece
  | [[], _] => .error .outsideList
  | [] :: first :: second :: rest => joinNumbered (joined first second :: rest)
  | first :: second :: rest => joinNumbered (joined first second :: rest)
termination_by pieces => pieces.length
where
  joined (first second : List Char) : List Char :=
    let text := halveBackslashes first
    text ++ (if keepsMark text then ['x'] else ['u', '0', '0']) ++ second

/-- A text without single quotes around it: those inside are plain, and double ones are escaped. -/
def requoted : List Char → List Char
  | '\\' :: '\'' :: rest => '\'' :: requoted rest
  | '"' :: rest => '\\' :: '"' :: requoted rest
  | c :: rest => c :: requoted rest
  | [] => []

def writeText (text : String) : Except Fault (List Char) := do
  let shown := (quotedText text).toList
  let plain := if shown.head? = some '\'' then requoted (inside shown) else inside shown
  .ok ('"' :: (← joinNumbered (Text.cutAll ['\\', 'x'] plain)) ++ ['"'])

/-- The text of a real number; the power has no zero in front. -/
def writeReal (value : Binary64) : List Char :=
  let shown := (Decimal.shown value).toList
  let shorten := fun (mark text : List Char) =>
    Text.joinWith mark (Text.cutAll (mark ++ ['0']) text)
  shorten ['e', '-'] (shorten ['e', '+'] shown)

mutual

/-- The text of a value in a line. Of a table only the names are written. -/
def writeValue : Value → Except Fault (List Char)
  | .bool value => .ok (if value then "true" else "false").toList
  | .int value => .ok (toString value).toList
  | .float value => .ok (writeReal value)
  | .str value => writeText value
  | .moment _ written => .ok written.toList
  | .list items => do .ok ('[' :: (← writeItems items) ++ [']'])
  | .table _ fields => do .ok ('[' :: (← writeNames fields) ++ [']'])
  | .unreachable => .ok []

def writeItems : List Value → Except Fault (List Char)
  | [] => .ok []
  | item :: rest => do .ok (' ' :: (← writeValue item) ++ ',' :: (← writeItems rest))

def writeNames : Fields → Except Fault (List Char)
  | [] => .ok []
  | field :: rest => do .ok (' ' :: (← writeText field.1) ++ ',' :: (← writeNames rest))

end

/-- Whether a name is written without quotes. A line end behind it does not count. -/
def isBareName (name : List Char) : Bool :=
  let letters := if name.getLast? = some '\n' then name.dropLast else name
  !letters.isEmpty && letters.all isBare

def writeName (name : String) : Except Fault (List Char) :=
  if isBareName name.toList then .ok name.toList else writeText name

def nameIn (outer name : List Char) : List Char :=
  if outer.isEmpty then name else outer ++ '.' :: name

abbrev Tables := List (List Char × Fields)

def Tables.set (name : List Char) (fields : Fields) : Tables → Tables
  | [] => [(name, fields)]
  | table :: rest =>
      if table.1 = name then (name, fields) :: rest else table :: Tables.set name fields rest

def Tables.addAll (outer : List Char) (tables more : Tables) : Tables :=
  more.foldl (fun all table => all.set (nameIn outer table.1) table.2) tables

/-- What there is to write of a table: its plain lines, its lists of tables, and the tables in it. -/
structure Part where
  plain : List Char := []
  lists : List Char := []
  tables : Tables := []

def Part.lines (part : Part) : List Char := part.plain ++ part.lists

def headerLine (name : List Char) : List Char := '[' :: name ++ [']', '\n']

def isTable : Value → Bool
  | .table _ _ => true
  | _ => false

/-- The fields of a member of a list of tables. A member of another kind passes only if it is empty. -/
def memberFields : Value → Except Fault Fields
  | .table _ fields => .ok fields
  | .str text =>
      match text.toList with
      | [] => .ok []
      | first :: _ => do
          let _ ← writeName (String.singleton first)
          .error .nameIntoText
  | .list [] => .ok []
  | .list (.str first :: _) => do
      let _ ← writeName first
      .error .nameIntoList
  | .list _ => .error .nameIntoList
  | other => .error (.notIterable other.kindName)

mutual

def partOf : (fuel : Nat) → (outer : List Char) → Fields → Except Fault Part
  | 0, _, _ => .ok {}
  | fuel + 1, outer, fields => fields.foldlM (addField fuel outer) {}

def addField : (fuel : Nat) → (outer : List Char) → Part → String × Value → Except Fault Part
  | 0, _, part, _ => .ok part
  | fuel + 1, outer, part, (name, value) => do
      let written ← writeName name
      match value with
      | .unreachable => .error (.unknownName (quotedText name))
      | .table _ fields => .ok { part with tables := part.tables.set written fields }
      | other =>
          let items := match other with | .list items => items | _ => []
          if items.any isTable then do
            let lists ← items.foldlM (addListed fuel (nameIn outer written)) part.lists
            .ok { part with lists }
          else do
            let line := written ++ [' ', '=', ' '] ++ (← writeValue other) ++ ['\n']
            .ok { part with plain := part.plain ++ line }

def addListed : (fuel : Nat) → (name : List Char) → List Char → Value → Except Fault (List Char)
  | 0, _, text, _ => .ok text
  | fuel + 1, name, text, item => do
      let part ← partOf fuel name (← memberFields item)
      let lines := part.lines
      let (front, back) := if lines.head? = some '[' then ([], lines) else (lines, [])
      let inner ← innerTables fuel (Tables.addAll name [] part.tables)
      .ok (text ++ ['[', '['] ++ name ++ [']', ']', '\n'] ++ front ++ '\n' :: back ++ inner)

/-- The tables inside one of a list, level after level. -/
def innerTables : (fuel : Nat) → Tables → Except Fault (List Char)
  | 0, _ => .ok []
  | fuel + 1, tables => do
      if tables.isEmpty then .ok []
      else
        let (text, deeper) ← tables.foldlM (addInner fuel) ([], [])
        .ok (text ++ (← innerTables fuel deeper))

/-- Adds a table to its level; one without lines has no header. -/
def addInner : (fuel : Nat) → List Char × Tables → List Char × Fields →
    Except Fault (List Char × Tables)
  | 0, state, _ => .ok state
  | fuel + 1, (text, deeper), (name, fields) => do
      let part ← partOf fuel name fields
      let lines := if part.lines.isEmpty then [] else headerLine name ++ part.lines
      .ok (text ++ lines, deeper.addAll name part.tables)

end

/-- Adds a table to its level; one without lines has a header only if it has no tables either. An empty line
stands before a header. -/
def addTable (fuel : Nat) (state : List Char × Tables) (table : List Char × Fields) :
    Except Fault (List Char × Tables) := do
  let (text, deeper) := state
  let part ← partOf fuel table.1 table.2
  let gap := if text.isEmpty || text.reverse.take 2 = ['\n', '\n'] then [] else ['\n']
  let lines :=
    if part.lines.isEmpty && !part.tables.isEmpty then []
    else gap ++ headerLine table.1 ++ part.lines
  .ok (text ++ lines, deeper.addAll table.1 part.tables)

def addLevels (steps : Nat) : (fuel : Nat) → List Char × Tables → Except Fault (List Char)
  | 0, state => .ok state.1
  | fuel + 1, (text, tables) => do
      if tables.isEmpty then .ok text
      else addLevels steps fuel (← tables.foldlM (addTable steps) (text, []))

mutual

/-- A number above the number of levels of a value. -/
def Value.depth : Value → Nat
  | .list items => itemsDepth items + 1
  | .table _ fields => fieldsDepth fields + 1
  | _ => 1

def itemsDepth : List Value → Nat
  | [] => 0
  | item :: rest => max item.depth (itemsDepth rest)

def fieldsDepth : Fields → Nat
  | [] => 0
  | (_, value) :: rest => max value.depth (fieldsDepth rest)

end

def write (document : Fields) : Except Fault String := do
  let steps := 4 * fieldsDepth document + 4
  let part ← partOf steps [] document
  .ok (String.ofList (← addLevels steps steps (part.lines, part.tables)))

end ChangeImpact.Toml
