import ChangeImpact.Number.Binary64
import ChangeImpact.Text.Basic

/-!
How much of a graph a change touches, as a percentage. The quotient is taken in binary64 arithmetic, a half
is added and rounded again, and the whole part counts.
-/

set_option autoImplicit false

namespace ChangeImpact.Impact

inductive ScoreFault where
  | quotientTooLarge
  deriving DecidableEq, Repr

def ScoreFault.message : ScoreFault → String
  | .quotientTooLarge => "integer division result too large for a float"

/-- The whole part of a quotient plus a half, with both results rounded to the format. -/
def roundedQuotient (numerator denominator : Nat) : Except ScoreFault Nat :=
  let quotient := Binary64.roundRatio numerator denominator
  if Binary64.maxExponent < quotient.2 then .error .quotientTooLarge
  else
    let exact := Binary64.ratio quotient.1 quotient.2
    let sum := Binary64.roundRatio (2 * exact.1 + exact.2) (2 * exact.2)
    let whole := Binary64.ratio sum.1 sum.2
    .ok (whole.1 / whole.2)

/-- The part of a total that is affected, in percent, at least one when anything is. -/
def score (affected total : Int) : Except ScoreFault Nat :=
  if total ≤ 0 ∨ affected ≤ 0 then .ok 0
  else do
    let percent ← roundedQuotient (100 * affected.toNat) total.toNat
    .ok (min 100 (max 1 percent))

/-- Whether a finding is about a file: its path is that of the file, with or without directories in
front. -/
def sameFile (found : Option String) (target : String) : Bool :=
  match found with
  | none => false
  | some file => file ≠ "" && (file == target || Text.endsWith file ("/" ++ target))

end ChangeImpact.Impact
