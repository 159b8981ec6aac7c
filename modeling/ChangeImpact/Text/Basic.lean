/-!
Operations on texts, stated on their lists of characters: cutting at a separator, joining, and the
tests for a beginning, an end or a part.
-/

set_option autoImplicit false

namespace ChangeImpact.Text

def hasNull (text : String) : Bool := text.toList.contains (Char.ofNat 0)

/-- Cuts a text at every separator. There is always one piece more than there are separators. -/
def cut (separator : Char) : List Char → List (List Char)
  | [] => [[]]
  | c :: rest =>
      if c = separator then [] :: cut separator rest
      else
        match cut separator rest with
        | [] => [[c]]
        | piece :: pieces => (c :: piece) :: pieces

/-- Cuts a text at the first occurrences of a separator, at most so many of them. -/
def cutAt (separator : List Char) : (count : Nat) → List Char → List (List Char)
  | 0, text => [text]
  | _ + 1, [] => [[]]
  | count + 1, c :: rest =>
      if !separator.isEmpty && separator.isPrefixOf (c :: rest) then
        [] :: cutAt separator count (rest.drop (separator.length - 1))
      else
        match cutAt separator (count + 1) rest with
        | [] => [[c]]
        | piece :: pieces => (c :: piece) :: pieces
termination_by _ text => text.length
decreasing_by all_goals simp; try omega

def cutAll (separator text : List Char) : List (List Char) :=
  cutAt separator (text.length + 1) text

/-- How often a separator occurs in a text, one occurrence after the other. -/
def countOf (separator text : List Char) : Nat :=
  (cutAll separator text).length - 1

def joinWith (separator : List Char) : List (List Char) → List Char
  | [] => []
  | [piece] => piece
  | piece :: rest => piece ++ separator ++ joinWith separator rest

def split (separator : Char) (text : String) : List String :=
  (cut separator text.toList).map String.ofList

def join (between : String) : List String → String
  | [] => ""
  | first :: rest => rest.foldl (fun joined text => joined ++ between ++ text) first

def isPart (part : List Char) : List Char → Bool
  | [] => part.isEmpty
  | c :: rest => part.isPrefixOf (c :: rest) || isPart part rest

def occursIn (part text : String) : Bool :=
  isPart part.toList text.toList

def startsWith (text beginning : String) : Bool :=
  beginning.toList.isPrefixOf text.toList

def endsWith (text ending : String) : Bool :=
  ending.toList.isSuffixOf text.toList

def exchange (old new : Char) (text : String) : String :=
  String.ofList (text.toList.map fun c => if c = old then new else c)

def dropEndWhile (test : Char → Bool) (text : List Char) : List Char :=
  (text.reverse.dropWhile test).reverse

def splitLast (mark : Char) (text : List Char) : Option (List Char × List Char) :=
  match text.reverse.span (· ≠ mark) with
  | (_, []) => none
  | (after, _ :: before) => some (before.reverse, after.reverse)

def hexDigits (width number : Nat) : List Char :=
  let digits := Nat.toDigits 16 number
  List.replicate (width - digits.length) '0' ++ digits

def hexValue? (c : Char) : Option Nat :=
  if '0' ≤ c ∧ c ≤ '9' then some (c.toNat - 48)
  else if 'a' ≤ c ∧ c ≤ 'f' then some (c.toNat - 87)
  else if 'A' ≤ c ∧ c ≤ 'F' then some (c.toNat - 55)
  else none

def sorted (texts : List String) : List String :=
  texts.mergeSort fun left right => decide (left ≤ right)

end ChangeImpact.Text
