import ChangeImpact.Number.Binary64
import ChangeImpact.Text.Basic
import ChangeImpact.Text.Integer

/-!
Numbers written as text, beyond plain whole numbers: real numbers with a point or a power, and whole numbers
in a base that their first characters tell.
-/

set_option autoImplicit false

namespace ChangeImpact.Text

/-- A text with the digits of all scripts written as the basic ones, and no blanks around it. -/
def basicDigits (text : List Char) : List Char :=
  let basic := fun (c : Char) =>
    match digitValue? c with
    | some value => Char.ofNat ('0'.toNat + value)
    | none => c
  (withoutNumberBlanks text).map basic

/-- A text without its underscores, if each stands between two digits. -/
def joinDigits? (before : Char) : List Char → Option (List Char)
  | [] => some []
  | '_' :: rest =>
      match rest with
      | next :: _ => if before.isDigit && next.isDigit then joinDigits? '_' rest else none
      | [] => none
  | c :: rest => (joinDigits? c rest).map (c :: ·)

private def signOf : List Char → Bool × List Char
  | '-' :: rest => (true, rest)
  | '+' :: rest => (false, rest)
  | chars => (false, chars)

private def valueOf (digits : List Char) : Nat :=
  digits.foldl (fun number c => number * 10 + (c.toNat - '0'.toNat)) 0

def tens? : List Char → Option Int
  | [] => some 0
  | mark :: rest =>
      let (negative, digits) := signOf rest
      if (mark = 'e' || mark = 'E') && !digits.isEmpty && digits.all Char.isDigit then
        some (if negative then -Int.ofNat (valueOf digits) else Int.ofNat (valueOf digits))
      else none

def unsignedReal? (negative : Bool) (chars : List Char) : Option Binary64 := do
  let (whole, afterWhole) := chars.span Char.isDigit
  let (places, tail) :=
    match afterWhole with
    | '.' :: rest => rest.span Char.isDigit
    | _ => ([], afterWhole)
  let power ← tens? tail
  if whole.isEmpty && places.isEmpty then none
  else
    some (Binary64.ofDecimal negative (valueOf (whole ++ places)) (power - Int.ofNat places.length))

def real? (text : List Char) : Option Binary64 := do
  let joined ← joinDigits? ' ' (basicDigits text)
  let (negative, unsigned) := signOf joined
  match String.ofList (unsigned.map Char.toLower) with
  | "inf" => some (.infinite negative)
  | "infinity" => some (.infinite negative)
  | "nan" => some .undefined
  | _ => unsignedReal? negative unsigned

def inBase? (base : Nat) (digits : List Char) : Option Nat :=
  if digits.isEmpty then none
  else
    digits.foldlM
      (fun number c => (hexValue? c).bind fun value =>
        if value < base then some (number * base + value) else none)
      0

/-- The number of digits in the base that the first two tell. A number in base ten starts with a zero only
if it is zero. -/
def unsignedInteger? : List Char → Option Nat
  | '0' :: mark :: digits =>
      match mark.toLower with
      | 'x' => inBase? 16 digits
      | 'o' => inBase? 8 digits
      | 'b' => inBase? 2 digits
      | _ => (inBase? 10 (mark :: digits)).filter (· = 0)
  | digits => if maxNumberLength < digits.length then none else inBase? 10 digits

def basedInteger? (text : List Char) : Option Int :=
  let (negative, unsigned) := signOf (basicDigits text)
  (unsignedInteger? unsigned).map fun number =>
    if negative then -Int.ofNat number else Int.ofNat number

end ChangeImpact.Text
