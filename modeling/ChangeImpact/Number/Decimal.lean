import ChangeImpact.Number.Binary64

/-!
Decimal texts of binary values. The digits come first: the fewest that read back as the same value. A form
then says where the point stands and when a power is written.
-/

set_option autoImplicit false

namespace ChangeImpact.Decimal

open ChangeImpact.Binary64 (ratio roundHalfEven digitCount)

/-- Significant digits with the power of ten of the first of them. -/
structure Digits where
  digits : List Char
  power : Int
  deriving DecidableEq, Repr

def leadingPower (numerator denominator : Nat) : Int :=
  let guess : Int := Int.ofNat (digitCount numerator) - Int.ofNat (digitCount denominator)
  let reached :=
    if guess < 0 then denominator ≤ numerator * Nat.pow 10 (-guess).toNat
    else denominator * Nat.pow 10 guess.toNat ≤ numerator
  if reached then guess else guess - 1

def inUnits (numerator denominator : Nat) (power : Int) : Nat × Nat :=
  if power < 0 then (numerator * Nat.pow 10 (-power).toNat, denominator)
  else (numerator, denominator * Nat.pow 10 power.toNat)

def ofUnits (count : Nat) (unit : Int) : Digits :=
  let all := Nat.toDigits 10 count
  let kept := (all.reverse.dropWhile (· = '0')).reverse
  { digits := if kept.isEmpty then ['0'] else kept
    power := unit + Int.ofNat all.length - 1 }

/-- Of the two neighbours of a positive finite value on a decimal grid, the nearer one that reads
back as the value. -/
def onGrid? (mantissa : Nat) (exponent unit : Int) : Option Nat :=
  let parts := ratio mantissa exponent
  let scaled := inUnits parts.1 parts.2 unit
  let below := scaled.1 / scaled.2
  let rest := scaled.1 % scaled.2
  let reads := fun count => Binary64.ofDecimal false count unit = .finite false mantissa exponent
  let nearer := roundHalfEven scaled.1 scaled.2
  let farther := if nearer = below then below + 1 else below
  if rest = 0 then (if reads below then some below else none)
  else if reads nearer then some nearer
  else if reads farther then some farther
  else none

/-- The fewest digits that read back, tried from `tried` digits on with `left` more attempts. -/
def searchDigits (mantissa : Nat) (exponent first : Int) : (tried left : Nat) → Digits
  | tried, 0 =>
      let unit := first - Int.ofNat tried + 1
      let parts := ratio mantissa exponent
      let scaled := inUnits parts.1 parts.2 unit
      ofUnits (roundHalfEven scaled.1 scaled.2) unit
  | tried, left + 1 =>
      let unit := first - Int.ofNat tried + 1
      match onGrid? mantissa exponent unit with
      | some count => ofUnits count unit
      | none => searchDigits mantissa exponent first (tried + 1) left

/-- The fewest digits that read back as a finite value; 17 always do. -/
def shortest (mantissa : Nat) (exponent : Int) : Digits :=
  if mantissa = 0 then { digits := ['0'], power := 0 }
  else
    let parts := ratio mantissa exponent
    searchDigits mantissa exponent (leadingPower parts.1 parts.2) 1 16

structure Form where
  /-- Least power of the first digit that is written in place. -/
  leastPlain : Int
  /-- Greatest power of the first digit that is written in place. -/
  greatestPlain : Int
  /-- Whether one digit before a power keeps a point and a zero. -/
  pointBeforePower : Bool

private def padTwo (text : String) : String :=
  if text.length < 2 then "0" ++ text else text

def Form.write (form : Form) (number : Digits) : String :=
  let digits := number.digits
  let text := String.ofList
  if form.leastPlain ≤ number.power ∧ number.power ≤ form.greatestPlain then
    if number.power < 0 then
      "0." ++ text (List.replicate ((-number.power).toNat - 1) '0' ++ digits)
    else
      let before := number.power.toNat + 1
      let padded := digits ++ List.replicate (before - digits.length) '0'
      let after := padded.drop before
      text (padded.take before) ++ "." ++ (if after.isEmpty then "0" else text after)
  else
    let after := digits.drop 1
    let tail :=
      if after.isEmpty then (if form.pointBeforePower then ".0" else "") else "." ++ text after
    let sign := if number.power < 0 then "-" else "+"
    text (digits.take 1) ++ tail ++ "e" ++ sign ++ padTwo (toString number.power.natAbs)

/-- Shown values: in place from `0.0001` to below `1e16`, and no point before a power. -/
def shownForm : Form := { leastPlain := -4, greatestPlain := 15, pointBeforePower := false }

private def signed (negative : Bool) (text : String) : String :=
  if negative then "-" ++ text else text

def shown : Binary64 → String
  | .finite negative mantissa exponent =>
      signed negative (shownForm.write (shortest mantissa exponent))
  | .infinite negative => signed negative "inf"
  | .undefined => "nan"

end ChangeImpact.Decimal
