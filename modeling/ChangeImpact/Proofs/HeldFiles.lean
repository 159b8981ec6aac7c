import ChangeImpact.Project.Workspace

/-!
Workspaces with a few entries at their top: what paths to the files among them lead to.
-/

set_option autoImplicit false

namespace ChangeImpact.Workspace

open ChangeImpact.Syntax (Outline)

def holding (entries : List (String × Entry)) : Workspace :=
  { location := "w"
    tree := Entry.put base (.directory entries) [] }

def sole (name : String) (octets : ByteArray) (outline : Option Outline) : Workspace :=
  holding [(name, .file octets outline)]

def Names (path name : String) : Prop :=
  Text.hasNull path = false ∧ path.utf8ByteSize ≤ maxPathOctets ∧ startOf path = base ∧
    Path.components path = [name] ∧ name.utf8ByteSize ≤ maxNameOctets ∧ name ∉ [".", "/", ".."]

instance (path name : String) : Decidable (Names path name) :=
  inferInstanceAs (Decidable (_ ∧ _ ∧ _ ∧ _ ∧ _ ∧ _))

theorem holding_tree (entries : List (String × Entry)) :
    (holding entries).tree = [("tmp", .directory [("/here", .directory entries)])] := by
  cases entries <;> rfl

section

variable {entries : List (String × Entry)} {path name : String} {octets : ByteArray} {outline : Option Outline}
  (listed : entries.lookup name = some (.file octets outline))

theorem holding_folder : (holding entries).folder? "." = some entries := by
  have plain : Text.hasNull "." = false := by decide +kernel
  have short : ¬ maxPathOctets < ".".utf8ByteSize := by decide +kernel
  have parts : Path.components "." = [] := by decide +kernel
  unfold folder? locate route
  rw [plain, if_neg short, parts, follow, holding_tree]
  rfl

include listed

theorem holding_at : Entry.at? (base ++ [name]) (holding entries).tree = some (.file octets outline) := by
  rw [holding_tree]
  change Entry.at? [name] entries = _
  unfold Entry.at?
  rw [listed]
  rfl

theorem holding_route (names : Names path name) (purpose : Purpose) :
    (holding entries).route purpose path = .ok (.found (base ++ [name])) := by
  obtain ⟨plain, short, start, parts, fits, proper⟩ := names
  unfold route
  simp only [List.mem_cons, List.not_mem_nil, or_false, not_or] at proper
  obtain ⟨noDot, noSlash, noDots⟩ := proper
  rw [plain, if_neg (Nat.not_lt.mpr short), start, parts, follow, holding_at listed]
  · rw [if_neg Bool.false_ne_true, if_neg (by simp), if_neg (Nat.not_lt.mpr fits)]
    rfl
  · exact noDot
  · exact noSlash
  · exact noDots

theorem holding_locate (names : Names path name) :
    (holding entries).locate path = .ok (base ++ [name], .file octets outline) := by
  unfold locate
  rw [holding_route listed names]
  dsimp only [bind, Except.bind]
  rw [holding_at listed]

theorem holding_readFile (names : Names path name) :
    (holding entries).readFile path = .ok (octets, outline) := by
  have own : (holding entries).outlineBy path (base ++ [name]) outline = outline := by
    unfold outlineBy
    rw [holding_route listed names]
    dsimp only
    rw [holding_at listed]
  unfold readFile
  rw [holding_locate listed names]
  dsimp only [bind, Except.bind]
  rw [own]

end

theorem sole_readFile {path name : String} {octets : ByteArray} {outline : Option Outline} (names : Names path name) :
    (sole name octets outline).readFile path = .ok (octets, outline) :=
  holding_readFile List.lookup_cons_self names

end ChangeImpact.Workspace
