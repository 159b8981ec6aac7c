import ChangeImpact.Json.Value
import ChangeImpact.Text.Half

/-!
Reading values of the interchange format. A refusal names its cause and the position, in characters,
at which the text went wrong. Beyond the plain format the reader takes `NaN` and the infinities.
-/

set_option autoImplicit false

namespace ChangeImpact.Json

inductive Cause where
  | expectingValue
  | expectingName
  | expectingColon
  | expectingComma
  | controlCharacter
  | unterminatedText
  | invalidEscape
  | invalidUnitEscape
  | extraData
  | byteOrderMark
  deriving DecidableEq, Repr

inductive Container where
  | list
  | object
  deriving DecidableEq, Repr

/-- A refused text: malformed at a position, a whole number with too many digits, or a value too deep
inside others. -/
inductive Refusal where
  | malformed (cause : Cause) (position : Nat)
  | tooManyDigits (count : Nat)
  | tooDeep (container : Container)
  deriving DecidableEq, Repr

def Cause.message : Cause → String
  | .expectingValue => "Expecting value"
  | .expectingName => "Expecting property name enclosed in double quotes"
  | .expectingColon => "Expecting ':' delimiter"
  | .expectingComma => "Expecting ',' delimiter"
  | .controlCharacter => "Invalid control character at"
  | .unterminatedText => "Unterminated string starting at"
  | .invalidEscape => "Invalid \\escape"
  | .invalidUnitEscape => "Invalid \\uXXXX escape"
  | .extraData => "Extra data"
  | .byteOrderMark => "Unexpected UTF-8 BOM (decode using utf-8-sig)"

def lineColumn (text : List Char) (position : Nat) : Nat × Nat :=
  let before := text.take position
  (before.count '\n' + 1, (before.reverse.takeWhile (· ≠ '\n')).length + 1)

def maxDigits : Nat := 4300

def tooManyDigitsMessage (count : Nat) : String :=
  s!"Exceeds the limit ({maxDigits} digits) for integer string conversion: value has {count} digits; use sys.set_int_max_str_digits() to increase the limit"

def Container.name : Container → String
  | .list => "array"
  | .object => "object"

/-- How deep values may stand inside each other where nothing else says so. The room that a reader has depends on what
it is called from. -/
def maxDepth : Nat := 990

def tooDeepMessage (container : Container) : String :=
  s!"maximum recursion depth exceeded while decoding a JSON {container.name} from a unicode string"

def Refusal.message (text : String) : Refusal → String
  | .malformed cause position =>
      let place := lineColumn text.toList position
      s!"{cause.message}: line {place.1} column {place.2} (char {position})"
  | .tooManyDigits count => tooManyDigitsMessage count
  | .tooDeep container => tooDeepMessage container

/-- What is left of a text, with the position of its first character. -/
structure Rest where
  chars : List Char
  position : Nat

abbrev Reading (α : Type) := Except Refusal (α × Rest)

def refuse {α : Type} (cause : Cause) (position : Nat) : Except Refusal α :=
  .error (.malformed cause position)

def isSpace (c : Char) : Bool :=
  c = ' ' || c = '\t' || c = '\n' || c = '\r'

def skipSpaces : List Char → Nat → Rest
  | [], position => { chars := [], position }
  | c :: rest, position =>
      if isSpace c then skipSpaces rest (position + 1) else { chars := c :: rest, position }

def Rest.skip (rest : Rest) : Rest := skipSpaces rest.chars rest.position

def unitValue? : List Char → Option Nat
  | [a, b, c, d] => do
      let first ← Text.hexValue? a
      let second ← Text.hexValue? b
      let third ← Text.hexValue? c
      let fourth ← Text.hexValue? d
      some (((first * 16 + second) * 16 + third) * 16 + fourth)
  | _ => none

def isHighUnit (unit : Nat) : Bool := 0xD800 ≤ unit && unit < 0xDC00

def isLowUnit (unit : Nat) : Bool := 0xDC00 ≤ unit && unit < 0xE000

/-- The character of a unit; half a pair has a stand-in. -/
def unitChar (unit : Nat) : Char :=
  if Text.isHalf unit then Text.ofHalf unit else Char.ofNat unit

/-- The character that an escape `\u` with at least one character after its digits stands for, the
characters left and their number. The position is that of the `u`. -/
def readUnit (afterMark : List Char) (position : Nat) : Except Refusal (Char × List Char × Nat) :=
  match afterMark with
  | a :: b :: c :: d :: next :: rest =>
      match unitValue? [a, b, c, d] with
      | none => refuse .invalidUnitEscape position
      | some unit =>
          let alone := (unitChar unit, next :: rest, 6)
          if isHighUnit unit then
            match next :: rest with
            | '\\' :: 'u' :: a' :: b' :: c' :: d' :: last :: rest' =>
                match unitValue? [a', b', c', d'] with
                | none => refuse .invalidUnitEscape (position + 6)
                | some low =>
                    if isLowUnit low then
                      .ok (Char.ofNat (0x10000 + (unit - 0xD800) * 0x400 + (low - 0xDC00)),
                        last :: rest', 12)
                    else .ok alone
            | _ => .ok alone
          else .ok alone
  | _ => refuse .invalidUnitEscape position

def escapedChar? : Char → Option Char
  | '"' => some '"'
  | '\\' => some '\\'
  | '/' => some '/'
  | 'b' => some '\x08'
  | 'f' => some '\x0c'
  | 'n' => some '\n'
  | 'r' => some '\r'
  | 't' => some '\t'
  | _ => none

/-- Reads a text after its opening quote; the characters read so far are given in reverse. -/
def readText (opening : Nat) : (fuel : Nat) → List Char → Nat → List Char → Reading String
  | 0, _, _, _ => refuse .unterminatedText opening
  | _ + 1, [], _, _ => refuse .unterminatedText opening
  | fuel + 1, c :: rest, position, done =>
      if c = '"' then .ok (String.ofList done.reverse, { chars := rest, position := position + 1 })
      else if c = '\\' then
        match rest with
        | [] => refuse .unterminatedText opening
        | 'u' :: digits =>
            match readUnit digits (position + 1) with
            | .error refusal => .error refusal
            | .ok (decoded, left, length) =>
                readText opening fuel left (position + length) (decoded :: done)
        | mark :: left =>
            match escapedChar? mark with
            | none => refuse .invalidEscape position
            | some decoded => readText opening fuel left (position + 2) (decoded :: done)
      else if c.toNat ≤ 0x1F then refuse .controlCharacter position
      else readText opening fuel rest (position + 1) (c :: done)

def isDigit (c : Char) : Bool := '0' ≤ c && c ≤ '9'

def digitsValue (digits : List Char) : Nat :=
  digits.foldl (fun value digit => value * 10 + (digit.toNat - 48)) 0

/-- Digits after a point, if there is one with a digit behind it. -/
def readFraction : List Char → List Char × List Char
  | '.' :: rest =>
      let digits := rest.takeWhile isDigit
      if digits.isEmpty then ([], '.' :: rest) else (digits, rest.dropWhile isDigit)
  | rest => ([], rest)

def readSign : List Char → Bool × Nat × List Char
  | '-' :: rest => (true, 1, rest)
  | '+' :: rest => (false, 1, rest)
  | rest => (false, 0, rest)

/-- A power after its mark, if a digit is among it, with the length of mark, sign and digits. -/
def readPower : List Char → Option (Int × Nat) × List Char
  | mark :: rest =>
      if mark = 'e' || mark = 'E' then
        let (negative, signLength, unsigned) := readSign rest
        let digits := unsigned.takeWhile isDigit
        if digits.isEmpty then (none, mark :: rest)
        else
          let size := Int.ofNat (digitsValue digits)
          (some (if negative then -size else size, 1 + signLength + digits.length),
            unsigned.dropWhile isDigit)
      else (none, mark :: rest)
  | [] => (none, [])

def readNumber (chars : List Char) (position : Nat) : Reading Value :=
  let (negative, unsigned) :=
    match chars with
    | '-' :: rest => (true, rest)
    | _ => (false, chars)
  let whole :=
    match unsigned with
    | '0' :: _ => ['0']
    | _ => unsigned.takeWhile isDigit
  if whole.isEmpty then refuse .expectingValue position
  else
    let (fraction, afterFraction) := readFraction (unsigned.drop whole.length)
    let (power, left) := readPower afterFraction
    let wholeLength := (if negative then 1 else 0) + whole.length
    let fractionLength := if fraction.isEmpty then 0 else 1 + fraction.length
    let powerLength := (power.map Prod.snd).getD 0
    let rest : Rest :=
      { chars := left, position := position + wholeLength + fractionLength + powerLength }
    if fraction.isEmpty && power.isNone then
      if maxDigits < whole.length then .error (.tooManyDigits whole.length)
      else
        let value := Int.ofNat (digitsValue whole)
        .ok (.int (if negative then -value else value), rest)
    else
      let digits := digitsValue (whole ++ fraction)
      let shift := (power.map Prod.fst).getD 0 - Int.ofNat fraction.length
      .ok (.float (Binary64.ofDecimal negative digits shift), rest)

def words : List (String × Value) :=
  [("null", .null), ("true", .bool true), ("false", .bool false), ("NaN", .float .undefined),
    ("Infinity", .float (.infinite false)), ("-Infinity", .float (.infinite true))]

def readWord? (chars : List Char) : Option (Value × Nat) :=
  (words.find? fun word => word.1.toList.isPrefixOf chars).map fun word => (word.2, word.1.length)

mutual

def readValue : (fuel levels : Nat) → Rest → Reading Value
  | 0, _, rest => refuse .expectingValue rest.position
  | fuel + 1, levels, rest =>
      match rest.chars with
      | [] => refuse .expectingValue rest.position
      | '"' :: chars =>
          match readText rest.position fuel chars (rest.position + 1) [] with
          | .error refusal => .error refusal
          | .ok (text, left) => .ok (.str text, left)
      | '{' :: chars =>
          match levels with
          | 0 => .error (.tooDeep .object)
          | inside + 1 =>
              let inner := skipSpaces chars (rest.position + 1)
              match inner.chars with
              | '}' :: left => .ok (.object [], { chars := left, position := inner.position + 1 })
              | _ => readFields fuel inside inner []
      | '[' :: chars =>
          match levels with
          | 0 => .error (.tooDeep .list)
          | inside + 1 =>
              let inner := skipSpaces chars (rest.position + 1)
              match inner.chars with
              | ']' :: left => .ok (.list [], { chars := left, position := inner.position + 1 })
              | _ => readItems fuel inside inner []
      | chars =>
          match readWord? chars with
          | some (value, length) =>
              .ok (value, { chars := chars.drop length, position := rest.position + length })
          | none => readNumber chars rest.position

def readItems : (fuel levels : Nat) → Rest → List Value → Reading Value
  | 0, _, rest, _ => refuse .expectingValue rest.position
  | fuel + 1, levels, rest, done =>
      match readValue fuel levels rest with
      | .error refusal => .error refusal
      | .ok (item, afterItem) =>
          let next := afterItem.skip
          match next.chars with
          | ']' :: left =>
              .ok (.list (item :: done).reverse, { chars := left, position := next.position + 1 })
          | ',' :: left => readItems fuel levels (skipSpaces left (next.position + 1)) (item :: done)
          | _ => refuse .expectingComma next.position

def readFields : (fuel levels : Nat) → Rest → Fields → Reading Value
  | 0, _, rest, _ => refuse .expectingName rest.position
  | fuel + 1, levels, rest, done =>
      match rest.chars with
      | '"' :: chars =>
          match readText rest.position fuel chars (rest.position + 1) [] with
          | .error refusal => .error refusal
          | .ok (name, afterName) =>
              let colon := afterName.skip
              match colon.chars with
              | ':' :: left =>
                  match readValue fuel levels (skipSpaces left (colon.position + 1)) with
                  | .error refusal => .error refusal
                  | .ok (value, afterValue) =>
                      let fields := Fields.set name value done
                      let next := afterValue.skip
                      match next.chars with
                      | '}' :: left' =>
                          .ok (.object fields, { chars := left', position := next.position + 1 })
                      | ',' :: left' =>
                          readFields fuel levels (skipSpaces left' (next.position + 1)) fields
                      | _ => refuse .expectingComma next.position
              | _ => refuse .expectingColon colon.position
      | _ => refuse .expectingName rest.position

end

def read (text : String) (levels : Nat := maxDepth) : Except Refusal Value :=
  let chars := text.toList
  match chars with
  | '\ufeff' :: _ => refuse .byteOrderMark 0
  | _ =>
      match readValue (2 * chars.length + 1) levels (skipSpaces chars 0) with
      | .error refusal => .error refusal
      | .ok (value, afterValue) =>
          let left := afterValue.skip
          if left.chars.isEmpty then .ok value else refuse .extraData left.position

end ChangeImpact.Json
