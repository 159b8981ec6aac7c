import ChangeImpact.Text.Wildcard

/-!
Patterns of a search in a table: a percent sign stands for any row of characters, an underscore for any one,
and the case of ASCII letters does not matter. A pattern and a text end at their first null character.
-/

set_option autoImplicit false

namespace ChangeImpact.Text

/-- The character that one is compared as: the two that are no characters count as the replacement. -/
def comparedAs (c : Char) : Char :=
  if c.toNat = 0xFFFE || c.toNat = 0xFFFF then '�' else c.toLower

def likePiece (mark : Char) : Wildcard.Piece :=
  if mark = '%' then .row
  else if mark = '_' then .one fun _ => true
  else .one fun c => comparedAs mark = comparedAs c

def beforeNull (text : String) : List Char := text.toList.takeWhile fun c => c.toNat ≠ 0

def like (pattern text : String) : Bool :=
  Wildcard.covers ((beforeNull pattern).map likePiece) (beforeNull text)

def maxLikeOctets : Nat := 50000

end ChangeImpact.Text
