/-!
Patterns made of pieces, each of which stands for one character or for any row of them. The ends of a text
that a pattern covers are found piece by piece from its last one on, so the work is the product of the two
lengths, however many rows there are.
-/

set_option autoImplicit false

namespace ChangeImpact.Wildcard

inductive Piece where
  | row
  | one (admits : Char → Bool)

/-- The ends of a text, the whole text first, of which only the empty one is covered. -/
def emptyEnd (text : List Char) : List Bool :=
  text.map (fun _ => false) ++ [true]

def afterRow (covered : List Bool) : List Bool :=
  covered.foldr (fun hit later => (hit || later.head?.getD false) :: later) []

def afterOne (admits : Char → Bool) (text : List Char) (covered : List Bool) : List Bool :=
  List.zipWith (fun c later => admits c && later) text covered.tail ++ [false]

/-- For each end of a text, the whole text first, whether a pattern covers it. -/
def ends (text : List Char) : List Piece → List Bool
  | [] => emptyEnd text
  | .row :: rest => afterRow (ends text rest)
  | .one admits :: rest => afterOne admits text (ends text rest)

def covers (pattern : List Piece) (text : List Char) : Bool :=
  (ends text pattern).head?.getD false

end ChangeImpact.Wildcard
