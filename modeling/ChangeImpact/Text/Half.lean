import ChangeImpact.Text.Basic

/-!
Halves of a pair of units. An escape can name one half without the other, which no character stands for.
Such a half is kept as a stand-in, the private character at a fixed distance above it, and a text that holds one
cannot be written as octets. The stand-ins are lost as characters of their own: a text that has one of them by other
means, from a pair of escapes or from four octets, is taken to have the half.
-/

set_option autoImplicit false

namespace ChangeImpact.Text

/-- The stand-in of a half is this much above it. -/
def halfOffset : Nat := 0x100000

def isHalf (unit : Nat) : Bool := 0xD800 ≤ unit && unit < 0xE000

def ofHalf (unit : Nat) : Char := Char.ofNat (halfOffset + unit)

def half? (c : Char) : Option Nat :=
  if halfOffset ≤ c.toNat && isHalf (c.toNat - halfOffset) then some (c.toNat - halfOffset) else none

/-- A row of halves in a text: where it starts, the first half, and how many there are. -/
structure EncodeFault where
  position : Nat
  unit : Nat
  count : Nat
  deriving DecidableEq, Repr

def EncodeFault.message (fault : EncodeFault) : String :=
  let reason := "surrogates not allowed"
  if fault.count = 1 then
    let digits := String.ofList (hexDigits 4 fault.unit)
    s!"'utf-8' codec can't encode character '\\u{digits}' in position {fault.position}: {reason}"
  else
    let last := fault.position + fault.count - 1
    s!"'utf-8' codec can't encode characters in position {fault.position}-{last}: {reason}"

def encodeFault? (text : String) : Option EncodeFault :=
  let (before, after) := text.toList.span fun c => (half? c).isNone
  let row := after.takeWhile fun c => (half? c).isSome
  (row.head?.bind half?).map fun unit =>
    { position := before.length, unit, count := row.length }

def numberHalves (text : String) : String :=
  String.ofList (text.toList.flatMap fun c =>
    match half? c with
    | some unit => '\\' :: 'u' :: hexDigits 4 unit
    | none => [c])

end ChangeImpact.Text
