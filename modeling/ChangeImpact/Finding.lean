import ChangeImpact.Json.Shown

/-!
Findings of scanners. A finding that has not been stored yet may hold any values.
-/

set_option autoImplicit false

namespace ChangeImpact

open ChangeImpact.Json (Value)

structure Finding where
  severity : Value
  title : Value
  file : Value := .null
  line : Value := .null
  scanner : Value := .str ""
  ruleId : Value := .null
  description : Value := .str ""
  id : Value := .str ""
  analysis : String := ""
  deriving Inhabited

namespace Finding

/-- The severities, worst first. -/
def severities : List String := ["critical", "high", "medium", "low", "info"]

def rank (severity : String) : Nat :=
  (severities.findIdx? (· == severity)).getD 99

def isSeverity : Value → Bool
  | .str text => severities.contains text
  | _ => false

end Finding

end ChangeImpact
