import ChangeImpact.Number.Decimal
import ChangeImpact.Number.Extended

/-!
Numbers and their texts, as columns turn one into the other. The arithmetic has 64 bits, so a text is read as
the nearest value in most cases only, and the fifteen digits of a value are the right ones in most cases only.
-/

set_option autoImplicit false

namespace ChangeImpact.Store.Number

structure Written where
  negative : Bool
  whole : List Char
  places : List Char
  powerNegative : Bool
  power : List Char
  hasTail : Bool

def isSpace (c : Char) : Bool :=
  c = ' ' || (9 ≤ c.toNat && c.toNat ≤ 13)

private def cutSign : List Char → Bool × List Char
  | '-' :: rest => (true, rest)
  | '+' :: rest => (false, rest)
  | chars => (false, chars)

/-- The power of ten after a number, as its sign and digits; nothing stands for none. -/
def powerOf? : List Char → Option (Bool × List Char)
  | [] => some (false, [])
  | mark :: rest =>
      if mark = 'e' || mark = 'E' then
        let (negative, digits) := cutSign rest
        if digits.isEmpty || !digits.all Char.isDigit then none else some (negative, digits)
      else none

def Written.ofText? (text : String) : Option Written := do
  let chars := text.toList.dropWhile isSpace
  let trimmed := (chars.reverse.dropWhile isSpace).reverse
  let (negative, unsigned) := cutSign trimmed
  let (whole, rest) := unsigned.span Char.isDigit
  let (places, tail) :=
    match rest with
    | '.' :: after => after.span Char.isDigit
    | _ => ([], rest)
  let (powerNegative, power) ← powerOf? tail
  if whole.isEmpty && places.isEmpty then none
  else some { negative, whole, places, powerNegative, power, hasTail := !rest.isEmpty }

private def digitOf (c : Char) : Nat := c.toNat - '0'.toNat

def largest : Nat := Nat.pow 2 63 - 1

def roomForDigit : Nat := (largest - 9) / 10

/-- Adds a digit before the point; one that has no room counts as a power. -/
def addWhole (state : Nat × Int) (c : Char) : Nat × Int :=
  if state.1 < roomForDigit then (state.1 * 10 + digitOf c, state.2) else (state.1, state.2 + 1)

/-- Adds a digit after the point; one that has no room is left out. -/
def addPlace (state : Nat × Int) (c : Char) : Nat × Int :=
  if state.1 < roomForDigit then (state.1 * 10 + digitOf c, state.2 - 1) else state

/-- Adds a digit of the power, which does not grow far. -/
def addPower (power : Nat) (c : Char) : Nat :=
  if power < 10000 then power * 10 + digitOf c else 10000

def Written.significand (written : Written) : Nat × Int :=
  let (significand, shift) := written.places.foldl addPlace (written.whole.foldl addWhole (0, 0))
  let power := Int.ofNat (written.power.foldl addPower 0)
  (significand, (if written.powerNegative then -power else power) + shift)

/-- Moves tens from a power into a significand, while it has room or can be divided. -/
def settle (negative : Bool) : (significand power : Nat) → Nat × Nat
  | significand, 0 => (significand, 0)
  | significand, power + 1 =>
      if negative then
        if significand % 10 = 0 then settle negative (significand / 10) power
        else (significand, power + 1)
      else if significand < largest / 10 then settle negative (significand * 10) power
      else (significand, power + 1)

def timesPower (inverse : Bool) (significand power : Nat) : Extended :=
  let number := Extended.ofNat significand
  let tens := Extended.tenTo power
  if inverse then number.div tens else number.mul tens

def stepPower : Nat := 308

def onceMore (inverse : Bool) (value : Binary64) : Binary64 :=
  let step := Binary64.ofDecimal false 1 stepPower
  if inverse then value.div step else value.mul step

def Written.value (written : Written) : Binary64 :=
  let (digits, shift) := written.significand
  let inverse := decide (shift < 0)
  let zero := Binary64.finite written.negative 0 Binary64.minExponent
  if digits = 0 then zero
  else
    let (significand, power) := settle inverse digits shift.natAbs
    if power = 0 then Binary64.ofRatio written.negative significand 1
    else if power < stepPower then
      (timesPower inverse significand power).toBinary64 written.negative
    else if power < stepPower + 34 then
      onceMore inverse
        ((timesPower inverse significand (power - stepPower)).toBinary64 written.negative)
    else if inverse then zero
    else .infinite written.negative

def Written.whole? (written : Written) : Option Int :=
  if written.hasTail then none
  else
    let number := Int.ofNat (written.whole.foldl (fun number c => number * 10 + digitOf c) 0)
    some (if written.negative then -number else number)

private def constant (digits : Nat) (power : Int) : Extended :=
  .ofBinary64 (.ofDecimal false digits power)

/-- Half a unit of the fifteenth digit of a value from one to ten. -/
def halfUnit : Extended :=
  .ofBinary64 (Binary64.mul (.ofDecimal false 5 (-5)) (.ofDecimal false 1 (-10)))

/-- Raises a scale by a factor while a value reaches it; the power of ten goes with it. -/
def raise (value factor : Extended) (step : Nat) : (fuel : Nat) → Extended × Int → Extended × Int
  | 0, state => state
  | fuel + 1, (scaling, power) =>
      if power ≤ 350 && (factor.mul scaling).le value then
        raise value factor step fuel (scaling.mul factor, power + step)
      else (scaling, power)

def lift (bound factor : Extended) (step : Nat) : (fuel : Nat) → Extended × Int → Extended × Int
  | 0, state => state
  | fuel + 1, (value, power) =>
      if value.lt bound then lift bound factor step fuel (value.mul factor, power - step)
      else (value, power)

def normalized (value : Extended) : Extended × Int :=
  let hundreds := raise value (constant 1 100) 100 4 (.ofNat 1, 0)
  let tens := raise value (constant 1 10) 10 36 hundreds
  let ones := raise value .ten 1 36 tens
  let lowered := (value.div ones.1, ones.2)
  let eights := lift (constant 1 (-8)) (constant 1 8) 8 64 lowered
  lift (.ofNat 1) .ten 1 16 eights

def digitsOf : (count : Nat) → Extended → List Char
  | 0, _ => []
  | count + 1, value =>
      let (digit, rest) := value.split
      Char.ofNat ('0'.toNat + digit) :: digitsOf count (rest.mul .ten)

def fifteenDigits (value : Extended) : Decimal.Digits :=
  let (significand, power) := normalized value
  let raised := significand.add halfUnit
  let (first, leading) :=
    if Extended.ten.le raised then (raised.mul (constant 1 (-1)), power + 1) else (raised, power)
  let digits := digitsOf 15 first
  let kept := (digits.reverse.dropWhile (· = '0')).reverse
  { digits := if kept.isEmpty then ['0'] else kept, power := leading }

/-- Values kept as text: in place from `0.0001` to below `1e15`, and always a point. -/
def textForm : Decimal.Form := { leastPlain := -4, greatestPlain := 14, pointBeforePower := true }

def textOf : Binary64 → String
  | .finite negative mantissa exponent =>
      if mantissa = 0 then "0.0"
      else
        let text := textForm.write (fifteenDigits (.ofRatio mantissa 1 exponent))
        if negative then "-" ++ text else text
  | .infinite negative => if negative then "-Inf" else "Inf"
  | .undefined => ""

end ChangeImpact.Store.Number
