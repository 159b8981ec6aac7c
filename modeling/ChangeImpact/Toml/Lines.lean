import ChangeImpact.Text.Alphanumeric
import ChangeImpact.Text.Blank
import ChangeImpact.Toml.Value

/-!
The lines of a document. One scan blanks the comments out, joins a list that goes over several lines into one,
and looks at what stands before each equals sign; quotes that do not close are refused. Where the scan looks
back beyond the start of the text it goes on at its end.
-/

set_option autoImplicit false

namespace ChangeImpact.Toml

/-- Where a scan is, seen from the name in front of an equals sign. -/
inductive KeyPhase where
  | outside
  | inside
  | behind
  deriving DecidableEq, Repr

structure Scan where
  chars : Array Char
  openLists : Int := 0
  quote : Option Char := none
  inLongText : Bool := false
  inHeader : Bool := false
  inListHeader : Bool := false
  atLineStart : Bool := true
  phase : KeyPhase := .outside
  isDotted : Bool := false
  isOver : Bool := false

namespace Scan

/-- The index so many characters back; before the start it counts from the end. -/
def indexBack (scan : Scan) (index back : Nat) : Nat :=
  if back ≤ index then index - back else scan.chars.size + index - back

/-- The character so many back, unless that is more than once around. -/
def charBack? (scan : Scan) (index back : Nat) : Option Char :=
  if back ≤ scan.chars.size + index then scan.chars[scan.indexBack index back]? else none

def countBack (scan : Scan) (c : Char) (index : Nat) : Nat :=
  if scan.charBack? index 1 = some c then if scan.charBack? index 2 = some c then 2 else 1 else 0

def oddBackslashes (scan : Scan) (index : Nat) : (fuel back : Nat) → Bool
  | 0, _ => false
  | fuel + 1, back =>
      if scan.charBack? index back = some '\\' then !scan.oddBackslashes index fuel (back + 1)
      else false

def resumeKey (scan : Scan) (index : Nat) : Except Fault Scan :=
  match scan.chars[index + 1]? with
  | none => .error .outsideList
  | some next =>
      if Text.isBlank next || next = '.' then .ok scan else .ok { scan with phase := .inside }

/-- One character of a name. The answer tells whether there is more to be done with it: only the equals
sign behind the name goes on. -/
def keyStep (scan : Scan) (index : Nat) (c : Char) : Except Fault (Scan × Bool) :=
  let ended : Except Fault (Scan × Bool) :=
    if c = '=' then .ok ({ scan with phase := .outside, isDotted := false }, true)
    else .error .malformed
  if c = '\n' then .error .malformed
  else
    match scan.quote, scan.phase with
    | some quote, _ =>
        if c = quote then .ok ({ scan with phase := .behind, quote := none }, false)
        else .ok (scan, false)
    | none, .inside =>
        if Text.isBlank c then .ok ({ scan with phase := .behind }, false)
        else if c = '.' then .ok ({ scan with isDotted := true }, false)
        else if Text.isAlphanumeric c || c = '_' || c = '-' then .ok (scan, false)
        else if scan.isDotted && scan.charBack? index 1 = some '.' && (c = '"' || c = '\'') then
          .ok ({ scan with quote := some c }, false)
        else ended
    | none, _ =>
        if Text.isBlank c then do
          if scan.isDotted then .ok (← scan.resumeKey index, false) else .ok (scan, false)
        else if c = '.' then do .ok (← { scan with isDotted := true }.resumeKey index, false)
        else ended

/-- Opens or closes a text at a quote; three quotes in a row do so with a text over several lines. -/
def toggle (scan : Scan) (c : Char) (isTriple : Bool) : Scan :=
  let isOpen := if isTriple then !scan.inLongText else scan.quote.isNone
  { scan with
    inLongText := if isTriple then !scan.inLongText else scan.inLongText
    quote := if isOpen then some c else none }

def quoteStep (scan : Scan) (index : Nat) (c : Char) : Scan :=
  let before := scan.countBack c index
  if c = '\'' && scan.quote ≠ some '"' then scan.toggle c (before = 2)
  else if c = '"' && scan.quote ≠ some '\'' then
    let fuel := scan.chars.size + index + 1
    if before ≠ 1 && scan.oddBackslashes index fuel (before + 1) then scan
    else scan.toggle c (before = 2)
  else scan

/-- Blanks out the rest of a line. Where no line follows, the scan is over. -/
def dropComment (scan : Scan) (index : Nat) : Scan :=
  let tail := scan.chars.toList.drop index
  let comment := tail.takeWhile (· ≠ '\n')
  let kept := tail.dropWhile (· ≠ '\n')
  let chars := scan.chars.toList.take index ++ List.replicate comment.length ' ' ++ kept
  { scan with chars := chars.toArray, isOver := kept.isEmpty }

def bracketStep (scan : Scan) (index : Nat) (c : Char) : Scan :=
  if scan.quote.isSome then scan
  else if c = '[' && !scan.inHeader && !scan.inListHeader then
    if scan.atLineStart then
      if scan.chars[index + 1]? = some '[' then { scan with inListHeader := true }
      else { scan with inHeader := true }
    else { scan with openLists := scan.openLists + 1 }
  else if c = ']' then
    if scan.inHeader then { scan with inHeader := false }
    else if scan.inListHeader then
      { scan with inListHeader := scan.charBack? index 1 ≠ some ']' }
    else { scan with openLists := scan.openLists - 1 }
  else scan

/-- What the end of a line does: inside a text over several lines two quotes before it become three, inside
a list it becomes a blank, and elsewhere a new line starts. -/
def lineEndStep (scan : Scan) (index : Nat) : Except Fault Scan :=
  if scan.quote.isSome || scan.inLongText then
    if !scan.inLongText then .error .malformed
    else
      match scan.charBack? index 1 with
      | none => .ok scan
      | some quote =>
          if (quote = '"' || quote = '\'') && scan.charBack? index 2 = some quote then
            let closed := scan.chars.setIfInBounds index quote
            let third := scan.indexBack index 3
            if scan.charBack? index 3 = some quote then
              .ok { scan with chars := closed.setIfInBounds third ' ' }
            else .ok { scan with chars := closed }
          else .ok scan
  else if scan.openLists ≠ 0 then .ok { scan with chars := scan.chars.setIfInBounds index ' ' }
  else .ok { scan with atLineStart := true }

def lineStartStep (scan : Scan) (c : Char) : Except Fault Scan :=
  if !scan.atLineStart || c = ' ' || c = '\t' then .ok scan
  else if scan.inHeader || scan.inListHeader then .ok { scan with atLineStart := false }
  else if c = '=' then .error .malformed
  else .ok { scan with atLineStart := false, phase := .inside }

def valueStep (scan : Scan) (index : Nat) (c : Char) : Except Fault Scan :=
  let quoted := scan.quoteStep index c
  if c = '#' && quoted.quote.isNone && !quoted.inHeader && !quoted.inListHeader then
    .ok (quoted.dropComment index)
  else
    let bracketed := quoted.bracketStep index c
    if c = '\n' then bracketed.lineEndStep index else bracketed.lineStartStep c

def step (scan : Scan) (index : Nat) : Except Fault Scan :=
  match scan.isOver, scan.chars[index]? with
  | true, _ => .ok scan
  | _, none => .ok scan
  | false, some c =>
      if scan.phase = .outside then scan.valueStep index c
      else do
        let (after, goesOn) ← scan.keyStep index c
        if goesOn then after.valueStep index c else .ok after

end Scan

def lines (document : String) : Except Fault (List (List Char)) := do
  let chars := document.toList.toArray
  let scan ← (List.range chars.size).foldlM Scan.step { chars }
  if scan.phase ≠ .outside || scan.quote.isSome then .error .malformed
  else .ok (Text.cut '\n' scan.chars.toList)

end ChangeImpact.Toml
