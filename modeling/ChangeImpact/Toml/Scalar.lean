import ChangeImpact.Text.Numeral
import ChangeImpact.Toml.Value

/-!
Moments and numbers of documents.
-/

set_option autoImplicit false

namespace ChangeImpact.Toml

private def pairOf? (tens units : Char) : Option Nat :=
  if tens.isDigit && units.isDigit then
    some ((tens.toNat - '0'.toNat) * 10 + (units.toNat - '0'.toNat))
  else none

def timeOf? : List Char → Option (Nat × Nat × Nat)
  | a :: b :: ':' :: c :: d :: ':' :: e :: f :: _ => do
      some (← pairOf? a b, ← pairOf? c d, ← pairOf? e f)
  | _ => none

def isTimeOfDay (time : Nat × Nat × Nat) : Bool :=
  time.1 < 24 && time.2.1 < 60 && time.2.2 < 60

def isLeapYear (year : Int) : Bool :=
  year % 4 = 0 && (year % 100 ≠ 0 || year % 400 = 0)

def daysOf (year month : Int) : Int :=
  if month = 2 then if isLeapYear year then 29 else 28
  else if month = 4 || month = 6 || month = 9 || month = 11 then 30
  else 31

def numberIn? (text : List Char) (start stop : Nat) : Option Int :=
  Text.integer? (String.ofList ((text.drop start).take (stop - start)))

def hasDay (text : List Char) : Bool :=
  match numberIn? text 0 4, numberIn? text 5 7, numberIn? text 8 10 with
  | some year, some month, some day =>
      1 ≤ year && year ≤ 9999 && 1 ≤ month && month ≤ 12 && 1 ≤ day && day ≤ daysOf year month
  | _, _, _ => false

def hasTime (text : List Char) : Bool :=
  match numberIn? text 11 13, numberIn? text 14 16, numberIn? text 17 19 with
  | some hour, some minute, some second =>
      0 ≤ hour && hour ≤ 23 && 0 ≤ minute && minute ≤ 59 && 0 ≤ second && second ≤ 59
  | _, _, _ => false

def isOffset (offset : List Char) : Bool :=
  offset = ['Z'] || ((numberIn? offset 1 3).isSome && (numberIn? offset 4 6).isSome)

def secondPart (tail : List Char) : List Char × Option (List Char) :=
  let cut := fun (mark : Char) => (tail.takeWhile (· ≠ mark), some (tail.dropWhile (· ≠ mark)))
  match tail.getLast? with
  | some last =>
      if last = 'Z' || last = 'z' then (tail.dropLast, some ['Z'])
      else if tail.contains '+' then cut '+'
      else if tail.contains '-' then cut '-'
      else (tail, none)
  | none => (tail, none)

/-- Whether the part of a second behind the point fits. One that cannot be read does not count. -/
def secondPartFits (text : List Char) : Bool :=
  match text.drop 19 with
  | '.' :: tail =>
      let (digits, offset) := secondPart tail
      if (offset.map isOffset).getD true then
        match Text.integer? (String.ofList digits) with
        | some number =>
            let size := digits.length
            if size ≤ 6 then
              let micros := number * Int.pow 10 (6 - size)
              0 ≤ micros && micros < 1000000
            else -Int.pow 10 (size - 6) < number && number < Int.pow 10 size
        | none => true
      else true
  | _ => true

def dayOf? (text : List Char) : Option MomentKind :=
  if !(text.drop 1).contains '-' then none
  else if text.length = 10 then if hasDay text then some .date else none
  else if hasDay text && hasTime text && secondPartFits text then some .dateTime
  else none

/-- The opposite of a value; zero has none. -/
def negated : Binary64 → Binary64
  | .finite negative mantissa exponent => .finite (mantissa ≠ 0 && !negative) mantissa exponent
  | .infinite negative => .infinite (!negative)
  | .undefined => .undefined

def realOf? (text : List Char) : Option Binary64 :=
  let afterPoint := (text.dropWhile (· ≠ '.')).drop 1
  if text.contains '.' && afterPoint.isEmpty then none
  else
    match text with
    | first :: _ => if first.isDigit then Text.real? text else none
    | [] => none

def looksReal (text : List Char) : Bool :=
  text.contains '.' || (!text.contains 'x' && (text.contains 'e' || text.contains 'E'))

def numberOf? (text : List Char) : Option Value :=
  let (isNegative, unsigned) :=
    match text with
    | '-' :: rest => (true, rest)
    | '+' :: rest => (false, rest)
    | _ => (false, text)
  let joined := unsigned.filter (· ≠ '_')
  let signed := fun (value : Binary64) => Value.float (if isNegative then negated value else value)
  let word := String.ofList (joined.map Char.toLower)
  if looksReal joined then (realOf? joined).map signed
  else if word = "inf" || word = "nan" then (Text.real? joined).map signed
  else (Text.basedInteger? joined).map fun number => .int (if isNegative then -number else number)

/-- Whether a number starts with a zero that another digit, or after a sign anything but a point, follows. -/
def hasLeadingZero : List Char → Bool
  | '0' :: next :: _ => !(next = '.' || next = 'x' || next = 'o' || next = 'b')
  | sign :: '0' :: next :: _ => (sign = '+' || sign = '-') && next ≠ '.'
  | _ => false

/-- Whether a number has an underscore at an end, beside its point or beside another one. -/
def hasLooseUnderscore (text : List Char) : Bool :=
  text.head? = some '_' || text.getLast? = some '_' || Text.isPart ['_', '.'] text ||
    Text.isPart ['.', '_'] text || (1 < text.length && Text.isPart ['_', '_'] text)

def mayBeNumber (text : List Char) : Bool :=
  let number := Text.stripChars text
  !number.isEmpty && !hasLeadingZero number && !hasLooseUnderscore number

def scalarOf (acceptsNumber : Bool) (text : List Char) : Except Fault Value :=
  match timeOf? text with
  | some time =>
      if isTimeOfDay time then .ok (.moment .time (String.ofList text)) else .error .malformed
  | none =>
      match dayOf? text with
      | some kind => .ok (.moment kind (String.ofList text))
      | none =>
          match if acceptsNumber then numberOf? text else none with
          | some number => .ok number
          | none => .error .malformed

end ChangeImpact.Toml
