import ChangeImpact.Text.Blank
import ChangeImpact.Toml.Quoted
import ChangeImpact.Toml.Scalar

/-!
The pieces of lines: name and value of a pair, the levels of a name, the items of a list, and the pairs of a
table within a line. Pieces are found by their commas, points, quotes and brackets alone; what a piece means is
left to others.
-/

set_option autoImplicit false

namespace ChangeImpact.Toml

open ChangeImpact.Text (stripChars)

def isQuote (c : Char) : Bool := c = '"' || c = '\''

def inside (text : List Char) : List Char := (text.drop 1).dropLast

/-- How many separators must be counted up to the first one outside quotes, that one included. -/
def countOutside (separator : List Char) (isQuoted : Bool) : List (List Char) → Nat
  | [] => 1
  | piece :: rest =>
      let count := Text.countOf separator piece
      if !isQuoted && 0 < count then 1 else count + countOutside separator (!isQuoted) rest

/-- A text that starts with a digit, without its underscores. -/
def joinedNumber : List Char → List Char
  | first :: rest => if first.isDigit then first :: rest.filter (· ≠ '_') else first :: rest
  | [] => []

def startsValue (text : List Char) : Bool :=
  match text with
  | [] => true
  | first :: _ =>
      first = ' ' || first = '\t' || isQuote first || first = '[' || first = '{' ||
        stripChars text = "true".toList || stripChars text = "false".toList ||
        (Text.real? text).isSome || (dayOf? text).isSome || (timeOf? text).isSome

structure Pair where
  name : List Char
  value : List Char
  mayBeNumber : Bool

/-- Cuts a line at an equals sign, counted from the front, or at a later one if no value starts there. All
that is tried as a value must be such that it may be a number, if the value is to be one. Underscores are left
out at the first try. -/
def pairFrom (line : List Char) (isFirst : Bool) (mayBe : Bool) :
    (fuel count : Nat) → Except Fault Pair
  | 0, _ => .error .malformed
  | fuel + 1, count =>
      let pieces := Text.cutAt ['='] count line
      let written := pieces.getLast?.getD []
      let mayStillBe := mayBe && mayBeNumber written
      let value := if isFirst then joinedNumber written else written
      if startsValue value then
        .ok
          { name := stripChars (Text.joinWith ['='] pieces.dropLast)
            value := stripChars value
            mayBeNumber := mayStillBe }
      else if (Text.cutAt ['='] (count + 1) line).getLast?.getD [] = value then .error .malformed
      else pairFrom line false mayStillBe fuel (count + 1)

def pairOf (line : List Char) : Except Fault Pair :=
  pairFrom line true true (line.length + 1) (countOutside ['='] false (quotePieces line))

/-- The levels of a name with quotes in it: points count outside of quotes. -/
def quotedLevels (isQuoted : Bool) : List (List Char) → List (List Char)
  | [] => []
  | piece :: rest =>
      if isQuoted then piece :: quotedLevels false rest
      else (Text.cut '.' piece).map stripChars ++ quotedLevels true rest

def levelsOf (name : List Char) : Except Fault (List (List Char) × List Char) :=
  if name.contains '.' then
    let levels := if name.any isQuote then quotedLevels false (quotePieces name) else Text.cut '.' name
    match levels.reverse.dropWhile List.isEmpty with
    | [] => .error .outsideList
    | last :: before => .ok (before.reverse.filter (!·.isEmpty), stripChars last)
  else
    match name.head?, name.getLast? with
    | some first, some last =>
        if first = last && isQuote first then do .ok ([], ← unescape (inside name))
        else .ok ([], name)
    | _, _ => .error .outsideText

def isTextList (text : List Char) : Bool :=
  ((stripChars (inside text)).head?.map isQuote).getD false

/-- The last piece of a list that starts with a quote, from its pieces in reverse. -/
def lastTextPiece : List (List Char) → Except Fault (List Char)
  | [] => .ok []
  | [piece] => .ok piece
  | last :: before :: rest =>
      match last with
      | [] => .error .outsideText
      | c :: _ =>
          if isQuote c then .ok last else lastTextPiece ((before ++ ',' :: last) :: rest)
termination_by pieces => pieces.length

def endsThrice (c : Char) (text : List Char) : Bool :=
  3 ≤ text.length && (text.reverse.take 3).all (· = c)

/-- The text over several lines that a value opens and does not close. -/
def openText? (value : List Char) : Except Fault (Option (List Char)) := do
  if value.length < 3 then .ok none
  else
    let text ←
      if value.head? = some '[' && value.getLast? ≠ some ']' && isTextList value then
        lastTextPiece (Text.cut ',' (stripChars (value.drop 1))).reverse
      else .ok value
    match text with
    | [] => .error .outsideText
    | first :: rest =>
        if !isQuote first then .ok none
        else
          match rest with
          | [] => .error .outsideText
          | second :: more =>
              if second ≠ first then .ok none
              else
                match more with
                | [] => .error .outsideText
                | third :: _ =>
                    if third ≠ first || (5 < text.length && endsThrice first text) then .ok none
                    else .ok (some text)

def isWholeText (piece : List Char) : Bool :=
  match piece with
  | [] => true
  | first :: _ =>
      let fromEnd := piece.reverse
      let isBounded := fromEnd.head? = some first && !endsEscaped (inside piece)
      let isOpen :=
        2 < piece.length && (piece.take 3).all (· = first) && fromEnd[1]? ≠ some first &&
          fromEnd[2]? ≠ some first
      isBounded && !isOpen

/-- Joins pieces of a list of texts that commas inside texts have cut. -/
def joinTexts (isJoined : Bool) : List (List Char) → Except Fault (List (List Char))
  | [] => .ok []
  | piece :: rest =>
      if rest.isEmpty && !isJoined then .ok [piece]
      else if isWholeText (stripChars piece) then do .ok (piece :: (← joinTexts false rest))
      else
        match rest with
        | [] => .error .outsideList
        | next :: more => joinTexts true ((piece ++ ',' :: next) :: more)
termination_by pieces => pieces.length

/-- Cuts the inside of a list at the commas that stand in no inner list. -/
def cutNested (depth : Int) : List Char → List (List Char)
  | [] => [[]]
  | c :: rest =>
      if c = ',' && depth = 0 then [] :: cutNested depth rest
      else
        let deeper := if c = '[' then depth + 1 else if c = ']' then depth - 1 else depth
        match cutNested deeper rest with
        | [] => [[c]]
        | piece :: pieces => (c :: piece) :: pieces

/-- A walk through a list of tables: where the table starts, how deep the walk is in it, and whether it is
in a text. -/
structure TableWalk where
  start : Nat := 1
  depth : Nat
  inText : Bool := false

def tablesFrom (chars : Array Char) : (fuel index : Nat) → TableWalk → List (List Char)
  | 0, _, _ => []
  | fuel + 1, index, walk =>
      if chars.size ≤ index + 1 then []
      else
        let c := chars[index]?.getD ' '
        let before := chars.toList.take index
        let inText :=
          if isQuote c then !walk.inText || (walk.inText && endsEscaped before) else walk.inText
        let depth := if !inText && c = '{' then walk.depth + 1 else walk.depth
        let next : TableWalk := { walk with depth, inText }
        if inText || c ≠ '}' then tablesFrom chars fuel (index + 1) next
        else if 1 < depth then tablesFrom chars fuel (index + 1) { next with depth := depth - 1 }
        else
          let group := (chars.toList.take (index + 1)).drop walk.start
          let skipped := ((chars.toList.drop (index + 2)).takeWhile (· ≠ '{')).length
          let start := if index + 2 + skipped < chars.size then index + 2 + skipped
            else max (index + 2) (chars.size - 1)
          group :: tablesFrom chars fuel (start + 1) { next with start }

def itemsOf (text : List Char) : Except Fault (List (List Char)) := do
  let whole := stripChars text
  let content := inside whole
  let isFlat := !content.contains '[' || !(stripChars (content.takeWhile (· ≠ '['))).isEmpty
  if isFlat then
    let pieces :=
      if (stripChars content).head? = some '{' then
        tablesFrom whole.toArray whole.length 2
          { depth := if whole[1]? = some '{' then 1 else 0 }
      else Text.cut ',' content
    if isTextList whole then joinTexts false pieces else .ok pieces
  else .ok (cutNested 0 content)

def looksWhole (value : List Char) (first last : Char) : Bool :=
  (first = last && isQuote first) || first = '-' || first.isDigit || value = "true".toList ||
    value = "false".toList || (first = '[' && last = ']') || (first = '{' && last = '}')

/-- Joins pieces of a table that commas inside values have cut. -/
def joinPairs : List (List Char) → Except Fault (List (List Char))
  | [] => .ok []
  | piece :: rest =>
      match piece.dropWhile (· ≠ '=') with
      | [] => .error .malformed
      | _ :: after =>
          let value := stripChars after
          match value.head?, value.getLast? with
          | some first, some last =>
              if looksWhole value first last then do .ok (piece :: (← joinPairs rest))
              else
                match rest with
                | next :: more => joinPairs ((piece ++ ',' :: next) :: more)
                | [] => .error .malformed
          | _, _ => .error .outsideText
termination_by pieces => pieces.length

def pairsOf (text : List Char) : Except Fault (List (List Char)) :=
  match Text.cut ',' (inside text) with
  | [piece] => if (stripChars piece).isEmpty then .ok [] else joinPairs [piece]
  | pieces => joinPairs pieces

def isBare (c : Char) : Bool := c.isAlphanum || c = '_' || c = '-'

def closedName? (name : List Char) : Option (List Char) :=
  let whole := stripChars name
  if whole.head? = whole.getLast? && 1 < whole.length then some (inside whole) else none

/-- Takes pieces into a quoted name until its quote closes. -/
def quotedName (name : List Char) : List (List Char) → Except Fault (List Char × List (List Char))
  | [] =>
      match closedName? name with
      | some closed => .ok (closed, [])
      | none => .error .malformed
  | next :: more =>
      match closedName? name with
      | some closed => .ok (closed, next :: more)
      | none => quotedName (name ++ '.' :: next) more

def headerNames : (fuel : Nat) → List (List Char) → Except Fault (List (List Char))
  | 0, _ => .error .malformed
  | _ + 1, [] => .ok []
  | fuel + 1, piece :: rest =>
      let name := stripChars piece
      if (name.head?.map isQuote).getD false then do
        let (whole, left) ← quotedName name rest
        .ok (whole :: (← headerNames fuel left))
      else if !name.isEmpty && name.all isBare then do .ok (name :: (← headerNames fuel rest))
      else .error .malformed

/-- The names of a header that follow its opening, which nothing may stand behind. -/
def namesOf (closing line : List Char) : Except Fault (List (List Char)) :=
  let count := countOutside closing false (quotePieces line)
  let pieces := Text.cutAt closing count line
  if pieces.length < count + 1 || !(stripChars (pieces.getLast?.getD [])).isEmpty then
    .error .malformed
  else
    let names := Text.cut '.' (Text.joinWith closing pieces.dropLast)
    headerNames (names.length + 1) names

end ChangeImpact.Toml
