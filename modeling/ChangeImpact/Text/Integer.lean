import ChangeImpact.Text.Blank
import ChangeImpact.Text.Digit

/-!
Whole numbers written as text: blanks around, a sign, then digits of any script, with single
underscores between them.
-/

set_option autoImplicit false

namespace ChangeImpact.Text

def isNumberBlank (c : Char) : Bool :=
  isBlank c && !(0x1C ≤ c.toNat && c.toNat ≤ 0x1F)

def withoutNumberBlanks (text : List Char) : List Char :=
  ((text.dropWhile isNumberBlank).reverse.dropWhile isNumberBlank).reverse

/-- The values of digits with single underscores between them. -/
def digitValues? (afterDigit : Bool) : List Char → Option (List Nat)
  | [] => if afterDigit then some [] else none
  | '_' :: rest => if afterDigit then digitValues? false rest else none
  | c :: rest => do
      let value ← digitValue? c
      let values ← digitValues? true rest
      some (value :: values)

def maxNumberLength : Nat := 4300

def integer? (text : String) : Option Int := do
  let chars := withoutNumberBlanks text.toList
  let (negative, unsigned) :=
    match chars with
    | '-' :: rest => (true, rest)
    | '+' :: rest => (false, rest)
    | _ => (false, chars)
  let values ← digitValues? false unsigned
  if maxNumberLength < values.length then none
  else
    let number := Int.ofNat (values.foldl (fun number value => number * 10 + value) 0)
    some (if negative then -number else number)

end ChangeImpact.Text
