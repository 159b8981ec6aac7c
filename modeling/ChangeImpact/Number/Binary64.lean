/-!
Binary floating-point values with 53 significant bits, held exactly. A finite value is
`± mantissa * 2 ^ exponent`; every rounding is to the nearest value, a tie goes to the even mantissa.
-/

set_option autoImplicit false

namespace ChangeImpact

inductive Binary64 where
  | finite (negative : Bool) (mantissa : Nat) (exponent : Int)
  | infinite (negative : Bool)
  | undefined
  deriving DecidableEq, Repr

namespace Binary64

/-- The quotient as a whole number: the nearest one, a tie goes to the even one. -/
def roundHalfEven (numerator denominator : Nat) : Nat :=
  let quotient := numerator / denominator
  let rest := numerator % denominator
  if 2 * rest < denominator then quotient
  else if denominator < 2 * rest then quotient + 1
  else quotient + quotient % 2

def scale (numerator denominator : Nat) (exponent : Int) : Nat × Nat :=
  if exponent < 0 then (numerator * Nat.pow 2 (-exponent).toNat, denominator)
  else (numerator, denominator * Nat.pow 2 exponent.toNat)

/-- The whole power of two at or just below a positive fraction. -/
def magnitude (numerator denominator : Nat) : Int :=
  let guess : Int := Int.ofNat numerator.log2 - Int.ofNat denominator.log2
  let scaled := scale numerator denominator guess
  if scaled.2 ≤ scaled.1 then guess else guess - 1

def minExponent : Int := -1074

def maxExponent : Int := 971

/-- The exponent at which a positive fraction has 53 bits before the point, or the smallest one. -/
def exponentOf (numerator denominator : Nat) : Int :=
  max (magnitude numerator denominator - 52) minExponent

/-- A fraction rounded to 53 bits, as mantissa and exponent; the exponent has no upper bound. -/
def roundRatio (numerator denominator : Nat) : Nat × Int :=
  let exponent := exponentOf numerator denominator
  let scaled := scale numerator denominator exponent
  let mantissa := roundHalfEven scaled.1 scaled.2
  if mantissa = Nat.pow 2 53 then (Nat.pow 2 52, exponent + 1) else (mantissa, exponent)

def ofRatio (negative : Bool) (numerator denominator : Nat) : Binary64 :=
  if numerator = 0 then .finite negative 0 minExponent
  else
    let rounded := roundRatio numerator denominator
    if maxExponent < rounded.2 then .infinite negative
    else .finite negative rounded.1 rounded.2

def digitCount (number : Nat) : Nat :=
  (Nat.toDigits 10 number).length

/-- The value nearest to `digits * 10 ^ power`. Powers far outside the range are cut short. -/
def ofDecimal (negative : Bool) (digits : Nat) (power : Int) : Binary64 :=
  if digits = 0 then .finite negative 0 minExponent
  else
    let size : Int := Int.ofNat (digitCount digits) + power
    if 400 < size then .infinite negative
    else if size < -400 then .finite negative 0 minExponent
    else if power < 0 then ofRatio negative digits (Nat.pow 10 (-power).toNat)
    else ofRatio negative (digits * Nat.pow 10 power.toNat) 1

def ratio (mantissa : Nat) (exponent : Int) : Nat × Nat :=
  if exponent < 0 then (mantissa, Nat.pow 2 (-exponent).toNat)
  else (mantissa * Nat.pow 2 exponent.toNat, 1)

def mul : Binary64 → Binary64 → Binary64
  | .finite negative mantissa exponent, .finite negative' mantissa' exponent' =>
      let left := ratio mantissa exponent
      let right := ratio mantissa' exponent'
      ofRatio (negative != negative') (left.1 * right.1) (left.2 * right.2)
  | .finite negative mantissa _, .infinite negative' =>
      if mantissa = 0 then .undefined else .infinite (negative != negative')
  | .infinite negative, .finite negative' mantissa _ =>
      if mantissa = 0 then .undefined else .infinite (negative != negative')
  | .infinite negative, .infinite negative' => .infinite (negative != negative')
  | _, _ => .undefined

def div : Binary64 → Binary64 → Binary64
  | .finite negative mantissa exponent, .finite negative' mantissa' exponent' =>
      let left := ratio mantissa exponent
      let right := ratio mantissa' exponent'
      if mantissa' = 0 then
        if mantissa = 0 then .undefined else .infinite (negative != negative')
      else ofRatio (negative != negative') (left.1 * right.2) (left.2 * right.1)
  | .finite negative _ _, .infinite negative' => .finite (negative != negative') 0 minExponent
  | .infinite negative, .finite negative' _ _ => .infinite (negative != negative')
  | _, _ => .undefined

def isZero : Binary64 → Bool
  | .finite _ mantissa _ => mantissa == 0
  | _ => false

def truncate? : Binary64 → Option Int
  | .finite negative mantissa exponent =>
      let parts := ratio mantissa exponent
      let whole : Int := Int.ofNat (parts.1 / parts.2)
      some (if negative then -whole else whole)
  | _ => none

def whole? : Binary64 → Option Int
  | .finite negative mantissa exponent =>
      let parts := ratio mantissa exponent
      if parts.1 % parts.2 = 0 then
        let whole : Int := Int.ofNat (parts.1 / parts.2)
        some (if negative then -whole else whole)
      else none
  | _ => none

end Binary64

end ChangeImpact
