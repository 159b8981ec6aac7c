import ChangeImpact.Json.Value
import ChangeImpact.Syntax.Tree

/-!
Trees of files, directories and links. Files come with what the grammar of their language finds in them; links
name a path that starts from their own directory. Places are rows of names from the top, without links. A tree is what
the process can list and ask for sizes: entries of other kinds are not in it, and neither are directories that it may
not enter or files whose size it cannot have.
-/

set_option autoImplicit false

namespace ChangeImpact

open ChangeImpact.Syntax (Outline)

inductive Entry where
  | file (octets : ByteArray) (outline : Option Outline)
  | directory (entries : List (String × Entry))
  | link (target : String) (outline : Option Outline)
  deriving Inhabited

namespace Entry

mutual

def weight : Entry → Nat
  | .file _ _ => 1
  | .link _ _ => 1
  | .directory entries => 1 + weights entries

def weights : List (String × Entry) → Nat
  | [] => 0
  | (_, entry) :: rest => entry.weight + weights rest

end

theorem weight_pos (entry : Entry) : 0 < entry.weight := by
  cases entry <;> simp only [weight] <;> omega

theorem weights_perm {left right : List (String × Entry)} (same : left.Perm right) :
    weights left = weights right := by
  induction same with
  | nil => rfl
  | cons head _ ih => simp only [weights, ih]
  | swap first second rest => simp only [weights]; omega
  | trans _ _ first second => exact first.trans second

def inOrder (entries : List (String × Entry)) : List (String × Entry) :=
  entries.mergeSort fun left right => decide (left.1 ≤ right.1)

theorem weights_inOrder (entries : List (String × Entry)) :
    weights (inOrder entries) = weights entries :=
  weights_perm (List.mergeSort_perm entries _)

mutual

/-- How much text the targets of the links at and under an entry hold. -/
def linkText : Entry → Nat
  | .file _ _ => 0
  | .link target _ => target.length + 1
  | .directory entries => linkTexts entries

def linkTexts : List (String × Entry) → Nat
  | [] => 0
  | (_, entry) :: rest => entry.linkText + linkTexts rest

end

def at? : List String → List (String × Entry) → Option Entry
  | [], entries => some (.directory entries)
  | name :: rest, entries =>
      match entries.lookup name with
      | some (.directory inner) => at? rest inner
      | found => if rest.isEmpty then found else none

/-- Puts an entry at a place, making the directories on the way. A file on the way stays as it is. -/
def put : List String → Entry → List (String × Entry) → List (String × Entry)
  | [], _, entries => entries
  | [name], entry, entries =>
      match entry, entries.lookup name with
      | .directory [], some (.directory _) => entries
      | _, _ => Json.Fields.set name entry entries
  | name :: rest, entry, entries =>
      match entries.lookup name with
      | none => Json.Fields.set name (.directory (put rest entry [])) entries
      | some (.directory inner) => Json.Fields.set name (.directory (put rest entry inner)) entries
      | some _ => entries

def drop : List String → List (String × Entry) → List (String × Entry)
  | [], entries => entries
  | [name], entries => entries.filter fun entry => entry.1 ≠ name
  | name :: rest, entries =>
      match entries.lookup name with
      | some (.directory inner) => Json.Fields.set name (.directory (drop rest inner)) entries
      | _ => entries

end Entry

end ChangeImpact
