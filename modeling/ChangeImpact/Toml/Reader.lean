import ChangeImpact.Toml.Lines
import ChangeImpact.Toml.Pieces

/-!
Reading settings documents. Lines are taken one after another; each sets a field of the table that the last
header names, unless a text over several lines is open.
-/

set_option autoImplicit false

namespace ChangeImpact.Toml

open ChangeImpact.Text (stripChars)

/-- A text over several lines that is not closed yet: the name of its field, what there is of it, and whether
its last line goes on. -/
structure OpenField where
  name : String
  text : List Char
  goesOn : Bool

/-- A text so far with the end of its line: a backslash there joins it to the next one. -/
def OpenField.ofText (name : String) (text : List Char) (isEscaped : Bool) : OpenField :=
  { name, text := if isEscaped then text.dropLast else text ++ ['\n'], goesOn := isEscaped }

/-- The tables that a name leads through, made where they are missing, and the place of the last. -/
def enterLevels (value : Value) (place : List Selector) : List (List Char) →
    Except Fault (Value × List Selector)
  | [] => .ok (value, place)
  | level :: rest => do
      let name := String.ofList level
      let table ← value.follow place
      let isHeld ← table.holds name
      let entered ← if isHeld then .ok value else value.change (Value.setField name .emptyTable) place
      let inner := place ++ [.field name]
      let _ ← entered.follow inner
      enterLevels entered inner rest

def isFree (name : String) : Value → Bool
  | .table _ fields => !fields.any fun field => field.1 == name
  | _ => false

/-- Adds an item to a list, whose last item comes first here; all its items must be of one kind. -/
def addItem (items : List Value) (item : Value) : Except Fault (List Value) :=
  match items with
  | last :: _ => if last.agrees item then .ok (item :: items) else .error .malformed
  | [] => .ok [item]

def maxRoom : Nat := 980

def listRoom : Nat := 2

def tableRoom : Nat := 3

def roomInside (taken room : Nat) : Except Fault Nat :=
  if taken ≤ room then .ok (room - taken) else .error .tooDeep

mutual

def readValue : (fuel room : Nat) → (acceptsNumber : Bool) → List Char → Except Fault Value
  | 0, _, _, _ => .error .malformed
  | fuel + 1, room, acceptsNumber, text =>
      let word := String.ofList text
      match text with
      | [] => .error .malformed
      | first :: _ =>
          if word = "true" then .ok (.bool true)
          else if word = "false" then .ok (.bool false)
          else if Text.lower word = "true" || Text.lower word = "false" then .error .malformed
          else if isQuote first then do .ok (.str (String.ofList (← unquoted first text)))
          else if first = '[' then do
            let inside ← roomInside listRoom room
            let pieces := ((← itemsOf text).map stripChars).filter (!·.isEmpty)
            .ok (.list (← readItems fuel inside pieces []).reverse)
          else if first = '{' then do
            let inside ← roomInside tableRoom room
            readPairs fuel inside [] (← pairsOf text) (.table true [])
          else scalarOf acceptsNumber text

def readItems : (fuel room : Nat) → List (List Char) → List Value → Except Fault (List Value)
  | 0, _, _, _ => .error .malformed
  | _ + 1, _, [], items => .ok items
  | fuel + 1, room, piece :: rest, items => do
      let item ← readValue fuel room true piece
      readItems fuel room rest (← addItem items item)

/-- Sets the pairs of a table within a line, up to one that opens a text over several lines. -/
def readPairs : (fuel room : Nat) → List Selector → List (List Char) → Value → Except Fault Value
  | 0, _, _, _, _ => .error .malformed
  | _ + 1, _, _, [], value => .ok value
  | fuel + 1, room, place, pair :: rest, value => do
      match ← readPair fuel room place pair value with
      | (changed, none) => readPairs fuel room place rest changed
      | (changed, some _) => .ok changed

def readPair : (fuel room : Nat) → List Selector → List Char → Value →
    Except Fault (Value × Option OpenField)
  | 0, _, _, _, _ => .error .malformed
  | fuel + 1, room, place, line, value => do
      let pair ← pairOf line
      let text := pair.value
      let (levels, last) ← levelsOf pair.name
      let (entered, inner) ← enterLevels value place levels
      let key := String.ofList last
      let opened ← openText? text
      let read ←
        match opened with
        | some _ => .ok none
        | none => do .ok (some (← readValue fuel room pair.mayBeNumber text))
      if isFree key (← entered.follow inner) then
        match read, opened with
        | some item, _ => do .ok (← entered.change (Value.setField key item) inner, none)
        | none, some tail =>
            if key.isEmpty then .error .unsetValue
            else .ok (entered, some (.ofText key text (endsEscaped tail)))
        | none, none => .error .malformed
      else .error .malformed

end

/-- Enough steps for a text: each step into a value takes characters away. -/
def enoughFor (text : List Char) : Nat := 3 * text.length + 8

/-- A document that is being read: its value so far, the place of the last header, the names that headers
have made on their way, and a text that is open. -/
structure Reading where
  root : Value := .emptyTable
  place : List Selector := []
  madeOnWay : List String := []
  opened : Option OpenField := none

namespace Reading

def madeBy (isList isLast : Bool) : Value :=
  if isList && isLast then .list [.emptyTable] else .emptyTable

/-- Makes sure that a field of the table at the place is there. A header must not name a table again, unless
it was only made on the way or is a list. -/
def reachField (isList isLast : Bool) (name : String) (reading : Reading) : Except Fault Reading := do
  let make := Value.setField name (madeBy isList isLast)
  match ← reading.root.follow reading.place with
  | .table _ fields =>
      if fields.any fun field => field.1 == name then
        if !isLast then .ok reading
        else if reading.madeOnWay.contains name then
          if isList then .error .malformed
          else .ok { reading with madeOnWay := reading.madeOnWay.erase name }
        else if isList then do
          let place := reading.place ++ [.field name]
          .ok { reading with root := ← reading.root.change (Value.append .emptyTable) place }
        else .error .malformed
      else do
        let madeOnWay := if isLast then reading.madeOnWay else reading.madeOnWay ++ [name]
        .ok { reading with root := ← reading.root.change make reading.place, madeOnWay }
  | current => do
      let place := reading.place ++ [.last]
      match ← current.last? with
      | none => .error .malformed
      | some last =>
          if ← last.holds name then .ok { reading with place }
          else .ok { reading with root := ← reading.root.change make place, place }

/-- Goes into a field; the header of a list goes on to the last of its tables. -/
def enterField (isList isLast : Bool) (reading : Reading) (name : String) :
    Except Fault Reading := do
  if name.isEmpty then .error .malformed
  else
    let reached ← reading.reachField isList isLast name
    let place := reached.place ++ [.field name]
    let value ← reached.root.follow place
    if isList then
      match ← value.last? with
      | some _ => .ok { reached with place := place ++ [.last] }
      | none => .ok { reached with place }
    else .ok { reached with place }

def enterFields (isList : Bool) : List String → Reading → Except Fault Reading
  | [], reading => .ok reading
  | [name], reading => reading.enterField isList true name
  | name :: rest, reading => do enterFields isList rest (← reading.enterField isList false name)

def header (rest : List Char) (reading : Reading) : Except Fault Reading := do
  let top := { reading with place := [] }
  match rest with
  | [] => .error .malformed
  | '[' :: names => enterFields true ((← namesOf [']', ']'] names).map String.ofList) top
  | names => enterFields false ((← namesOf [']'] names).map String.ofList) top

def goOn (field : OpenField) (line : List Char) (reading : Reading) : Except Fault Reading := do
  let text := field.text ++ line
  let quote := text.head?.getD ' '
  let isClosed ←
    if quote = '[' then
      match line.getLast? with
      | some last => .ok (decide (last = ']'))
      | none => .error .outsideText
    else .ok (endsThrice quote line)
  if isClosed then do
    let value ← readValue (enoughFor text) maxRoom true text
    let root ← reading.root.change (Value.setField field.name value) reading.place
    .ok { reading with root, opened := none }
  else .ok { reading with opened := some (.ofText field.name text (endsEscaped text)) }

def plainLine (line : List Char) (reading : Reading) : Except Fault Reading := do
  match line with
  | '[' :: rest => reading.header rest
  | '{' :: _ =>
      if line.getLast? = some '}' then do
        let root ← readPairs (enoughFor line) maxRoom reading.place (← pairsOf line) reading.root
        .ok { reading with root }
      else .error .malformed
  | _ =>
      if line.contains '=' then do
        let (root, opened) ← readPair (enoughFor line) maxRoom reading.place line reading.root
        .ok { reading with root, opened }
      else .ok reading

/-- One line. Blanks around it count only inside an open text. -/
def line (reading : Reading) (given : List Char) : Except Fault Reading :=
  match reading.opened with
  | none =>
      let stripped := stripChars given
      if stripped.isEmpty then .ok reading else reading.plainLine stripped
  | some field =>
      let line := if field.goesOn || !field.text.contains '\n' then stripChars given else given
      if line.isEmpty && field.goesOn then .ok reading else reading.goOn field line

end Reading

def read (document : String) : Except Fault Fields := do
  let reading ← (← lines document).foldlM Reading.line {}
  match reading.root with
  | .table _ fields => .ok fields
  | _ => .error .malformed

end ChangeImpact.Toml
