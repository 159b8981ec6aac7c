import ChangeImpact.Number.Binary64

/-!
Binary floating-point arithmetic with 64 significant bits, on values that are not negative. A value is
`mantissa * 2 ^ exponent`; every operation gives the exact result rounded to the nearest such value, a tie
goes to the even mantissa. The exponent has no bounds.
-/

set_option autoImplicit false

namespace ChangeImpact

structure Extended where
  mantissa : Nat
  exponent : Int
  deriving DecidableEq, Repr

namespace Extended

open ChangeImpact.Binary64 (magnitude roundHalfEven scale)

/-- The value nearest to a fraction times a power of two. -/
def ofRatio (numerator denominator : Nat) (power : Int) : Extended :=
  if numerator = 0 then { mantissa := 0, exponent := 0 }
  else
    let exponent := magnitude numerator denominator - 63
    let scaled := scale numerator denominator exponent
    { mantissa := roundHalfEven scaled.1 scaled.2, exponent := exponent + power }

def ofNat (number : Nat) : Extended := ofRatio number 1 0

/-- A finite value of 53 bits without its sign; other values have no counterpart and count as zero. -/
def ofBinary64 : Binary64 → Extended
  | .finite _ mantissa exponent => ofRatio mantissa 1 exponent
  | _ => ofNat 0

def ratio (value : Extended) : Nat × Nat := Binary64.ratio value.mantissa value.exponent

def toBinary64 (negative : Bool) (value : Extended) : Binary64 :=
  Binary64.ofRatio negative value.ratio.1 value.ratio.2

def mul (left right : Extended) : Extended :=
  ofRatio (left.mantissa * right.mantissa) 1 (left.exponent + right.exponent)

def div (left right : Extended) : Extended :=
  ofRatio left.mantissa right.mantissa (left.exponent - right.exponent)

/-- The mantissas of two values at their smaller exponent, with that exponent. -/
def aligned (left right : Extended) : Nat × Nat × Int :=
  let exponent := min left.exponent right.exponent
  (left.mantissa * Nat.pow 2 (left.exponent - exponent).toNat,
    right.mantissa * Nat.pow 2 (right.exponent - exponent).toNat, exponent)

def add (left right : Extended) : Extended :=
  let (first, second, exponent) := aligned left right
  ofRatio (first + second) 1 exponent

def le (left right : Extended) : Bool :=
  let (first, second, _) := aligned left right
  first ≤ second

def lt (left right : Extended) : Bool := !right.le left

def split (value : Extended) : Nat × Extended :=
  let (numerator, denominator) := value.ratio
  (numerator / denominator, ofRatio (numerator % denominator) denominator 0)

def ten : Extended := ofNat 10

/-- Powers of ten by repeated squaring, from a product so far and the square reached. -/
def powerFrom (product square : Extended) (power : Nat) : Extended :=
  let next := if power % 2 = 1 then product.mul square else product
  if power / 2 = 0 then next else powerFrom next (square.mul square) (power / 2)
termination_by power
decreasing_by omega

def tenTo (power : Nat) : Extended := powerFrom (ofNat 1) ten power

end Extended

end ChangeImpact
