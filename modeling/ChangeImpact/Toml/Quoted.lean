import ChangeImpact.Text.Case
import ChangeImpact.Text.Half
import ChangeImpact.Toml.Value

/-!
Quoted texts of documents. A text in double quotes may hold escapes; one in single quotes stands as it is.
Three quotes on each side count as one.
-/

set_option autoImplicit false

namespace ChangeImpact.Toml

def escaped? : Char → Option Char
  | '0' => some '\x00'
  | 'b' => some '\x08'
  | 'f' => some '\x0c'
  | 'n' => some '\n'
  | 'r' => some '\r'
  | 't' => some '\t'
  | '"' => some '"'
  | _ => none

/-- A text with its one-letter escapes read. An escape by number stays. -/
def unescape : List Char → Except Fault (List Char)
  | '\\' :: mark :: rest =>
      match escaped? mark with
      | some c => do .ok (c :: (← unescape rest))
      | none =>
          if mark = '\\' then do .ok ('\\' :: (← unescape rest))
          else if mark = 'u' || mark = 'U' then do .ok ('\\' :: mark :: (← unescape rest))
          else .error .malformed
  | c :: rest => do .ok (c :: (← unescape rest))
  | [] => .ok []

def endsEscaped (text : List Char) : Bool :=
  (text.reverse.takeWhile (· = '\\')).length % 2 = 1

/-- The character of a number; half a pair has a stand-in. -/
def numberedChar (number : Nat) : Except Fault Char :=
  if Nat.pow 2 31 ≤ number then .error .characterTooLarge
  else if 0x110000 ≤ number then .error .malformed
  else if Text.isHalf number then .ok (Text.ofHalf number)
  else .ok (Char.ofNat number)

/-- The number at the start of what follows the mark of an escape, with the characters after it. Numbers of
half a pair are refused where the first two digits tell. -/
def numberOf (width : Nat) (tail : List Char) : Except Fault (Nat × List Char) :=
  let digits := Text.lowerFrom [] (tail.take width)
  match digits.mapM Text.hexValue? with
  | none => .error .malformed
  | some values =>
      let number := (values.foldl (fun number value => number * 16 + value) 0, tail.drop digits.length)
      match digits with
      | [] => .error .outsideText
      | 'd' :: second :: _ =>
          if '0' ≤ second && second ≤ '7' then .ok number else .error .malformed
      | ['d'] => .error .outsideText
      | _ => .ok number

/-- Reads the escapes between the pieces that their marks leave; a mark after an odd number of backslashes
is none. -/
def numberedFrom (mark : List Char) (width : Nat) (skips : Bool) :
    List (List Char) → Except Fault (List Char)
  | [] => .ok []
  | tail :: rest =>
      if skips then do
        .ok (mark ++ tail ++ (← numberedFrom mark width (endsEscaped tail) rest))
      else do
        let (number, after) ← numberOf width tail
        let c ← numberedChar number
        .ok (c :: after ++ (← numberedFrom mark width false rest))

def unnumber (mark : List Char) (width : Nat) (text : List Char) : Except Fault (List Char) :=
  match Text.cutAll mark text with
  | first :: rest => do .ok (first ++ (← numberedFrom mark width (endsEscaped first) rest))
  | [] => .ok text

/-- Whether every backslash of a text starts a known escape, given the pieces after backslashes. -/
def escapesKnown (afterBackslash : Bool) : List (List Char) → Bool
  | [] => true
  | [] :: rest => escapesKnown (!afterBackslash) rest
  | (mark :: _) :: rest =>
      ((escaped? mark).isSome || mark = 'u' || mark = 'U' || afterBackslash) && escapesKnown false rest

/-- What is known while the pieces of a text between its quotes are looked at: whether it is closed, and how
many quotes stood in a row. -/
structure Closing where
  isClosed : Bool := false
  quotes : Nat := 0

/-- Looks at one piece; after a closed text only pieces that end escaped may come. -/
def Closing.look (isTriple : Bool) (closing : Closing) (piece : List Char) : Except Fault Closing :=
  if piece.isEmpty then
    if isTriple then .ok { closing with quotes := closing.quotes + 1 }
    else .ok { closing with isClosed := true }
  else if endsEscaped piece then .ok closing
  else if closing.isClosed then .error .malformed
  else if !isTriple || 1 < closing.quotes then .ok { closing with isClosed := true }
  else .ok { closing with quotes := 0 }

/-- A text must not go on after its closing quote. -/
def checkClosing (quote : Char) (text : List Char) : Except Fault Unit := do
  let pieces := Text.cut quote (text.drop 1)
  let (isTriple, looked) :=
    match pieces with
    | [] :: [] :: rest => (true, rest)
    | _ => (false, pieces)
  let _ ← looked.foldlM (Closing.look isTriple) {}

def unquoted (quote : Char) (text : List Char) : Except Fault (List Char) := do
  checkClosing quote text
  let plain ←
    if quote = '"' then
      if escapesKnown false ((Text.cut '\\' text).drop 1) then do
        unescape (← unnumber ['\\', 'U'] 8 (← unnumber ['\\', 'u'] 4 text))
      else .error .malformed
    else .ok text
  let inner :=
    match plain with
    | [_, second] => if second = quote then [] else plain
    | _ :: second :: third :: _ =>
        if second = quote && second = third then (plain.drop 2).dropLast.dropLast else plain
    | _ => plain
  .ok (inner.drop 1).dropLast

/-- The pieces of a line between its quotes; every second one stands inside quotes. -/
def quotePieces (line : List Char) : List (List Char) :=
  let doubles := Text.cut '"' line
  match doubles with
  | first :: rest =>
      if !rest.isEmpty && first.contains '\'' then
        let (singles, left) := takeSingles (Text.cut '\'' first) rest
        singles ++ cutOutside false left
      else cutOutside false doubles
  | [] => []
where
  /-- Goes on with a text in single quotes over the double ones in it. -/
  takeSingles (singles : List (List Char)) : List (List Char) → List (List Char) × List (List Char)
    | [] => (singles, [])
    | piece :: rest =>
        if singles.length % 2 = 0 then
          let longer := (singles.getLast?.getD []) ++ '"' :: piece
          takeSingles (singles.dropLast ++ Text.cut '\'' longer) rest
        else (singles, piece :: rest)
  /-- Cuts what stands outside double quotes at the single ones. -/
  cutOutside (isQuoted : Bool) : List (List Char) → List (List Char)
    | [] => []
    | piece :: rest =>
        if isQuoted then piece :: cutOutside isQuoted rest
        else Text.cut '\'' piece ++ cutOutside true rest

end ChangeImpact.Toml
