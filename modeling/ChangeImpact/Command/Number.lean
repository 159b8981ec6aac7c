import ChangeImpact.Text.Integer

/-!
The numbers of options. A whole number may have zeros in front, underscores between its digits, and a fraction
of zeros.
-/

set_option autoImplicit false

namespace ChangeImpact.Command

/-- What is left after zeros in front of a number, and after underscores among them: the last of them stays
where no other digit comes next. -/
def afterZeros (last : Char) : List Char → Option (List Char)
  | [] => some [last]
  | '.' :: rest => some (last :: '.' :: rest)
  | c :: rest =>
      if c = '0' || c = '_' then afterZeros c rest
      else if c.isDigit then some (c :: rest)
      else none

def withoutZeros : List Char → Option (List Char)
  | [] => none
  | c :: rest => if c = '0' then afterZeros c rest else if c.isDigit then some (c :: rest) else none

def withoutFraction (text : List Char) : List Char :=
  let (whole, fraction) := text.span (· ≠ '.')
  if (fraction.drop 1).all (· = '0') then whole else text

def positive? (text : String) : Option Nat := do
  let unsigned :=
    match Text.withoutNumberBlanks text.toList with
    | '+' :: rest => rest
    | chars => chars
  let values ← Text.digitValues? false (withoutFraction (← withoutZeros unsigned))
  let plain := unsigned.all fun c => c.toNat < 128
  if !plain || Text.maxNumberLength < values.length then none
  else some (values.foldl (fun number value => number * 10 + value) 0)

end ChangeImpact.Command
