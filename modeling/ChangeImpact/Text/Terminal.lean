import ChangeImpact.Text.Basic

/-!
Text on its way to a channel that is no terminal: the sequences by which a terminal is told to change colours
or to move are taken out, and line ends are single characters.
-/

set_option autoImplicit false

namespace ChangeImpact.Text

def isSequenceMark (c : Char) : Bool := c = ';' || c = '?' || c.isDigit

/-- How many characters of a text that follows an escape character belong to a sequence. -/
def sequenceLength? : List Char → Option Nat
  | '[' :: rest =>
      let marks := rest.takeWhile isSequenceMark
      match rest.drop marks.length with
      | letter :: _ => if letter.isAlpha then some (marks.length + 2) else none
      | [] => none
  | _ => none

/-- A text without sequences, after so many characters that are left out. -/
def withoutSequences : (skipped : Nat) → List Char → List Char
  | _, [] => []
  | skipped + 1, _ :: rest => withoutSequences skipped rest
  | 0, c :: rest =>
      if c = Char.ofNat 0x1B then
        match sequenceLength? rest with
        | some count => withoutSequences count rest
        | none => c :: withoutSequences 0 rest
      else c :: withoutSequences 0 rest

def forChannel (text : String) : String := String.ofList (withoutSequences 0 text.toList)

def singleLineEnds (text : String) : String :=
  String.ofList (joinWith ['\n'] (cutAll ['\r', '\n'] text.toList))

end ChangeImpact.Text
