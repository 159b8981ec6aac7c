import ChangeImpact.Project.Workspace
import ChangeImpact.Proofs.Distinct
import ChangeImpact.Proofs.Fields
import ChangeImpact.Proofs.Outcome

/-!
Trees as a file system has them: the names in a directory differ, none is empty, and a slash stands in none but in
front. A workspace begins with such a tree and keeps it when entries are put in, and in such a tree different places
have different paths.
-/

set_option autoImplicit false

namespace ChangeImpact

/-! ### Names and paths -/

namespace Path

/-- A name that an entry can have. The slash in front is that of the directory in which everything happens. -/
def IsName (name : String) : Prop := name ≠ "" ∧ '/' ∉ name.toList.tail

instance (name : String) : Decidable (IsName name) := inferInstanceAs (Decidable (_ ∧ _))

theorem mark_not_mem_cut {mark : Char} (text : List Char) : ∀ piece ∈ Text.cut mark text, mark ∉ piece := by
  induction text with
  | nil => simp [Text.cut]
  | cons c rest ih =>
      unfold Text.cut
      by_cases same : c = mark
      · rw [if_pos same]
        exact List.forall_mem_cons.mpr ⟨List.not_mem_nil, ih⟩
      · rw [if_neg same]
        cases pieces : Text.cut mark rest with
        | nil => simp [Ne.symm same]
        | cons piece others =>
            rw [pieces] at ih
            obtain ⟨first, later⟩ := List.forall_mem_cons.mp ih
            refine List.forall_mem_cons.mpr ⟨?_, later⟩
            simp [first, Ne.symm same]

theorem isName_of_mem_components {path name : String} (member : name ∈ components path) : IsName name := by
  unfold components Text.split at member
  obtain ⟨isPiece, kept⟩ := List.mem_filter.mp member
  obtain ⟨piece, listed, rfl⟩ := List.mem_map.mp isPiece
  simp only [Bool.and_eq_true, decide_eq_true_eq] at kept
  refine ⟨kept.1, fun slash => mark_not_mem_cut _ piece listed ?_⟩
  rw [String.toList_ofList] at slash
  exact List.mem_of_mem_tail slash

theorem isName_of_mem_steps {path name : String} (member : name ∈ steps path) : IsName name := by
  have either : name ∈ components path ∨ name = "." ∨ name = "/" := by
    unfold steps at member
    dsimp only at member
    split at member
    · rcases List.mem_append.mp member with part | last
      · exact Or.inl part
      · exact Or.inr (Or.inl (List.mem_singleton.mp last))
    · split at member
      · rcases List.mem_append.mp member with part | last
        · exact Or.inl part
        · exact Or.inr (Or.inr (List.mem_singleton.mp last))
      · exact Or.inl member
  rcases either with part | rfl | rfl
  · exact isName_of_mem_components part
  · decide
  · decide

theorem join_concat (between : String) (outer : List String) (name : String) :
    Text.join between (outer ++ [name]) =
      if outer = [] then name else Text.join between outer ++ between ++ name := by
  cases outer with
  | nil => rfl
  | cons first rest =>
      rw [if_neg (List.cons_ne_nil _ _)]
      simp [Text.join]

def afterFirst : List String → List Char
  | [] => []
  | second :: rest => '/' :: (Text.join "/" (second :: rest)).toList

theorem toList_join_cons (first : String) (rest : List String) :
    (Text.join "/" (first :: rest)).toList = first.toList ++ afterFirst rest := by
  cases rest with
  | nil => simp [Text.join, afterFirst]
  | cons second others =>
      have moved : ∀ start : String,
          others.foldl (fun joined text => joined ++ "/" ++ text) (first ++ "/" ++ start) =
            first ++ "/" ++ others.foldl (fun joined text => joined ++ "/" ++ text) start := by
        induction others with
        | nil => intro start; rfl
        | cons third later ih =>
            intro start
            rw [List.foldl_cons, List.foldl_cons, ← ih]
            simp only [String.append_assoc]
      simp only [Text.join, afterFirst, List.foldl_cons, moved]
      simp

theorem join_ne_empty {row : List String} (filled : row ≠ []) (named : ∀ name ∈ row, IsName name) :
    Text.join "/" row ≠ "" := by
  cases row with
  | nil => exact absurd rfl filled
  | cons first rest =>
      intro empty
      have chars := toList_join_cons first rest
      rw [empty] at chars
      have none : first.toList = [] := (List.append_eq_nil_iff.mp chars.symm).1
      exact (named first List.mem_cons_self).1 (String.toList_eq_nil_iff.mp none)

/-- Texts without a mark that are followed by nothing or by the mark can be told apart. -/
theorem append_inj_of_mark {mark : Char} {left right before behind : List Char} (first : mark ∉ left)
    (second : mark ∉ right) (ended : ∀ c ∈ before.head?, c = mark) (closed : ∀ c ∈ behind.head?, c = mark)
    (same : left ++ before = right ++ behind) : left = right ∧ before = behind := by
  induction left generalizing right with
  | nil =>
      cases right with
      | nil => exact ⟨rfl, same⟩
      | cons c rest =>
          rw [List.nil_append, List.cons_append] at same
          have found : c = mark := ended c (by rw [same]; rfl)
          exact absurd (found ▸ List.mem_cons_self) second
  | cons c rest ih =>
      cases right with
      | nil =>
          rw [List.nil_append, List.cons_append] at same
          have found : c = mark := closed c (by rw [← same]; rfl)
          exact absurd (found ▸ List.mem_cons_self) first
      | cons d others =>
          rw [List.cons_append, List.cons_append] at same
          obtain ⟨rfl, later⟩ := List.cons.inj same
          obtain ⟨rfl, rfl⟩ := ih (fun found => first (List.mem_cons_of_mem _ found))
            (fun found => second (List.mem_cons_of_mem _ found)) later
          exact ⟨rfl, rfl⟩

theorem head?_afterFirst (rest : List String) : ∀ c ∈ (afterFirst rest).head?, c = '/' := by
  intro c found
  cases rest with
  | nil => cases found
  | cons second others =>
      cases found
      rfl

/-- Only the first character of a name can be a slash, so a path tells where its first name ends. -/
theorem join_cons_inj {first second : String} {rest later : List String} (isName : IsName first)
    (isOther : IsName second) (same : Text.join "/" (first :: rest) = Text.join "/" (second :: later)) :
    first = second ∧ afterFirst rest = afterFirst later := by
  have chars := congrArg String.toList same
  rw [toList_join_cons, toList_join_cons] at chars
  cases front : first.toList with
  | nil => exact absurd (String.toList_eq_nil_iff.mp front) isName.1
  | cons c tail =>
      cases start : second.toList with
      | nil => exact absurd (String.toList_eq_nil_iff.mp start) isOther.1
      | cons d ending =>
          rw [front, start, List.cons_append, List.cons_append] at chars
          obtain ⟨rfl, tails⟩ := List.cons.inj chars
          have plain : '/' ∉ tail := fun found => isName.2 (by rw [front]; exact found)
          have clear : '/' ∉ ending := fun found => isOther.2 (by rw [start]; exact found)
          obtain ⟨rfl, behind⟩ :=
            append_inj_of_mark plain clear (head?_afterFirst rest) (head?_afterFirst later) tails
          exact ⟨String.toList_inj.mp (front.trans start.symm), behind⟩

theorem join_eq_of_afterFirst {rest later : List String} (same : afterFirst rest = afterFirst later) :
    Text.join "/" rest = Text.join "/" later := by
  cases rest with
  | nil =>
      cases later with
      | nil => rfl
      | cons second others => cases same
  | cons first tail =>
      cases later with
      | nil => cases same
      | cons second others => exact String.toList_inj.mp (List.cons.inj same).2

/-- A path tells the names on the way. -/
theorem join_injective {left right : List String} (named : ∀ name ∈ left, IsName name)
    (others : ∀ name ∈ right, IsName name) (same : Text.join "/" left = Text.join "/" right) : left = right := by
  induction left generalizing right with
  | nil =>
      by_cases empty : right = []
      · exact empty.symm
      · exact absurd same.symm (join_ne_empty empty others)
  | cons first rest ih =>
      cases right with
      | nil => exact absurd same (join_ne_empty (List.cons_ne_nil _ _) named)
      | cons second later =>
          obtain ⟨isName, restNamed⟩ := List.forall_mem_cons.mp named
          obtain ⟨isOther, laterNamed⟩ := List.forall_mem_cons.mp others
          obtain ⟨rfl, behind⟩ := join_cons_inj isName isOther same
          rw [ih restNamed laterNamed (join_eq_of_afterFirst behind)]

end Path

/-! ### Proper trees -/

namespace Entry

/-- An entry as a file system can have it. -/
inductive Proper : Entry → Prop
  | file (octets : ByteArray) (outline : Option Syntax.Outline) : Proper (.file octets outline)
  | link (target : String) (outline : Option Syntax.Outline) : Proper (.link target outline)
  | directory {entries : List (String × Entry)} (distinct : (entries.map Prod.fst).Nodup)
      (named : ∀ name ∈ entries.map Prod.fst, Path.IsName name)
      (below : ∀ field ∈ entries, field.2.Proper) : Proper (.directory entries)

theorem Proper.distinct {entries : List (String × Entry)} (proper : (Entry.directory entries).Proper) :
    (entries.map Prod.fst).Nodup := by
  cases proper with
  | directory distinct named below => exact distinct

theorem proper_nil : (directory []).Proper :=
  .directory List.nodup_nil (List.forall_mem_nil _) (List.forall_mem_nil _)

variable {entries : List (String × Entry)} {entry : Entry}

theorem Proper.cons {name : String} (proper : (Entry.directory ((name, entry) :: entries)).Proper) :
    name ∉ entries.map Prod.fst ∧ Path.IsName name ∧ entry.Proper ∧ (Entry.directory entries).Proper := by
  cases proper with
  | directory distinct named below =>
      obtain ⟨fresh, others⟩ := List.nodup_cons.mp distinct
      obtain ⟨isName, namedLater⟩ := List.forall_mem_cons.mp named
      obtain ⟨here, later⟩ := List.forall_mem_cons.mp below
      exact ⟨fresh, isName, here, .directory others namedLater later⟩

theorem Proper.lookup (proper : (Entry.directory entries).Proper) {name : String}
    (found : entries.lookup name = some entry) : Path.IsName name ∧ entry.Proper := by
  cases proper with
  | directory distinct named below =>
      have member := Json.Fields.mem_of_lookup found
      exact ⟨named name (List.mem_map_of_mem member), below _ member⟩

theorem Proper.set (proper : (Entry.directory entries).Proper) {name : String} (isName : Path.IsName name)
    (inner : entry.Proper) : (Entry.directory (Json.Fields.set name entry entries)).Proper := by
  cases proper with
  | directory distinct named below =>
      have after := Json.Fields.nodup_set distinct name entry
      refine .directory after ?_ ?_
      · intro other member
        rcases Json.Fields.mem_names_set.mp member with rfl | old
        · exact isName
        · exact named other old
      · intro field member
        have found := Json.Fields.lookup_of_mem after member
        by_cases same : field.1 = name
        · rw [same, Json.Fields.lookup_set_self] at found
          rw [← Option.some.inj found]
          exact inner
        · rw [Json.Fields.lookup_set_of_ne same] at found
          exact below _ (Json.Fields.mem_of_lookup found)

/-- What lies at a place is proper, and names lead to it. -/
theorem Proper.at? (proper : (Entry.directory entries).Proper) {place : List String}
    (found : Entry.at? place entries = some entry) : (∀ name ∈ place, Path.IsName name) ∧ entry.Proper := by
  fun_induction Entry.at? place entries with
  | case1 entries =>
      cases found
      exact ⟨List.forall_mem_nil _, proper⟩
  | case2 name rest entries inner there ih =>
      obtain ⟨isName, inside⟩ := proper.lookup there
      obtain ⟨later, reached⟩ := ih inside found
      exact ⟨List.forall_mem_cons.mpr ⟨isName, later⟩, reached⟩
  | case3 name rest entries ends =>
      obtain ⟨isName, inside⟩ := proper.lookup found
      rw [List.isEmpty_iff.mp ends]
      exact ⟨List.forall_mem_singleton.mpr isName, inside⟩
  | case4 => cases found

theorem Proper.put (proper : (Entry.directory entries).Proper) {place : List String}
    (named : ∀ name ∈ place, Path.IsName name) (inner : entry.Proper) :
    (Entry.directory (Entry.put place entry entries)).Proper := by
  fun_induction Entry.put place entry entries with
  | case1 => exact proper
  | case2 => exact proper
  | case3 => exact proper.set (named _ List.mem_cons_self) inner
  | case4 name rest entry entries more absent ih =>
      obtain ⟨isName, later⟩ := List.forall_mem_cons.mp named
      exact proper.set isName (ih proper_nil later inner)
  | case5 name rest entry entries more inside there ih =>
      obtain ⟨isName, later⟩ := List.forall_mem_cons.mp named
      exact proper.set isName (ih (proper.lookup there).2 later inner)
  | case6 => exact proper

/-! ### Order and places -/

theorem Proper.inOrder (proper : (Entry.directory entries).Proper) : (Entry.directory (inOrder entries)).Proper := by
  cases proper with
  | directory distinct named below =>
      have same : (Entry.inOrder entries).Perm entries := List.mergeSort_perm entries _
      refine .directory ((same.map Prod.fst).symm.nodup distinct) ?_ ?_
      · exact fun name member => named name ((same.map Prod.fst).mem_iff.mp member)
      · exact fun field member => below field (same.mem_iff.mp member)

theorem lookup_inOrder (distinct : (entries.map Prod.fst).Nodup) (name : String) :
    (inOrder entries).lookup name = entries.lookup name :=
  Json.Fields.lookup_perm distinct (List.mergeSort_perm entries _).symm name

/-- The names rise from each entry to the next. -/
theorem inOrder_ascending (distinct : (entries.map Prod.fst).Nodup) :
    (inOrder entries).Pairwise fun left right => left.1 < right.1 :=
  mergeSort_ascending distinct

theorem at?_congr {left right : List (String × Entry)} {name : String} (same : left.lookup name = right.lookup name)
    (tail : List String) : at? (name :: tail) left = at? (name :: tail) right := by
  unfold at?
  rw [same]

theorem at?_directory {name : String} {inner : List (String × Entry)}
    (there : entries.lookup name = some (.directory inner)) (tail : List String) :
    at? (name :: tail) entries = at? tail inner := by
  rw [at?, there]

theorem at?_of_none {name : String} (absent : entries.lookup name = none) (tail : List String) :
    at? (name :: tail) entries = none := by
  rw [at?, absent]
  cases tail <;> rfl

theorem at?_leaf {name : String} {entry : Entry} (there : entries.lookup name = some entry)
    (leaf : ∀ inner, entry ≠ .directory inner) (tail : List String) :
    at? (name :: tail) entries = if tail.isEmpty then some entry else none := by
  rw [at?, there]
  cases entry with
  | directory inner => exact absurd rfl (leaf inner)
  | file octets outline => rfl
  | link target outline => rfl

end Entry

/-! ### Workspaces -/

namespace Workspace

def Proper (workspace : Workspace) : Prop := (Entry.directory workspace.tree).Proper

theorem isName_of_mem_base : ∀ name ∈ base, Path.IsName name := by decide

variable {workspace : Workspace}

theorem Proper.folder? (proper : workspace.Proper) {path : String} {entries : List (String × Entry)}
    (found : workspace.folder? path = some entries) : (Entry.directory entries).Proper := by
  unfold Workspace.folder? at found
  split at found
  · rename_i place inner located
    cases found
    unfold locate at located
    obtain ⟨route, _, ends⟩ := Outcome.bind_ok located
    split at ends
    · cases ends
    · split at ends
      · rename_i there
        cases ends
        exact (Entry.Proper.at? proper there).2
      · cases ends
  · cases found

def Route.names : Route → List String
  | .found place => place
  | .absent place rest => place ++ rest

theorem isName_of_follow {tree : List (String × Entry)} {purpose : Purpose} {links : Nat} {here parts : List String}
    {route : Route} (behind : ∀ name ∈ here, Path.IsName name) (ahead : ∀ name ∈ parts, Path.IsName name)
    (done : follow tree purpose links here parts = .ok route) : ∀ name ∈ route.names, Path.IsName name := by
  fun_induction follow tree purpose links here parts with
  | case1 =>
      cases done
      exact behind
  | case2 links here rest ih => exact ih behind (List.forall_mem_cons.mp ahead).2 done
  | case3 links here rest ih => exact ih behind (List.forall_mem_cons.mp ahead).2 done
  | case4 links here rest ih =>
      have above : ∀ name ∈ here.dropLast, Path.IsName name :=
        fun name member => behind name ((List.dropLast_sublist here).subset member)
      exact ih above (List.forall_mem_cons.mp ahead).2 done
  | case7 =>
      cases done
      exact List.forall_mem_append.mpr ⟨behind, ahead⟩
  | case8 links here name rest _ _ _ _ _ entries there ih =>
      obtain ⟨isName, later⟩ := List.forall_mem_cons.mp ahead
      exact ih (List.forall_mem_append.mpr ⟨behind, List.forall_mem_singleton.mpr isName⟩) later done
  | case9 | case11 =>
      cases done
      exact List.forall_mem_append.mpr ⟨behind, List.forall_mem_singleton.mpr (List.forall_mem_cons.mp ahead).1⟩
  | case13 here name rest _ _ _ _ _ target outline there _ left start ih =>
      have starts : ∀ name ∈ start, Path.IsName name := by
        by_cases rooted : Path.isRooted target = true
        · simp [start, rooted]
        · simpa [start, rooted] using behind
      refine ih starts (List.forall_mem_append.mpr ⟨?_, (List.forall_mem_cons.mp ahead).2⟩) done
      exact fun name member => Path.isName_of_mem_steps member
  | case5 | case6 | case10 | case12 => cases done

theorem isName_of_route {purpose : Purpose} {path : String} {route : Route}
    (done : workspace.route purpose path = .ok route) : ∀ name ∈ route.names, Path.IsName name := by
  unfold Workspace.route at done
  split at done
  · cases done
  · split at done
    · cases done
    · refine isName_of_follow ?_ (fun name member => Path.isName_of_mem_components member) done
      unfold startOf
      split
      · exact List.forall_mem_nil _
      · exact isName_of_mem_base

theorem Proper.putAt (proper : workspace.Proper) {place : List String} {entry : Entry}
    (named : ∀ name ∈ place, Path.IsName name) (inner : entry.Proper) : (workspace.putAt place entry).Proper :=
  Entry.Proper.put proper named inner

theorem Proper.makeLast? (proper : workspace.Proper) {path : String} {made : List String × Workspace}
    (done : workspace.makeLast? path = .ok (some made)) : made.2.Proper := by
  unfold Workspace.makeLast? at done
  obtain ⟨route, leads, ends⟩ := Outcome.bind_ok done
  have named := isName_of_route leads
  split at ends
  · cases ends
    exact proper.putAt named Entry.proper_nil
  · cases ends
  · split at ends
    · cases ends
      exact proper
    · cases ends

theorem Proper.makeFolders (proper : workspace.Proper) {parts : List String} {made : List String × Workspace}
    (done : workspace.makeFolders parts = .ok made) : made.2.Proper := by
  induction parts generalizing made with
  | nil =>
      cases done
      exact proper
  | cons name before ih =>
      unfold Workspace.makeFolders at done
      obtain ⟨answer, asked, ends⟩ := Outcome.bind_ok done
      split at ends
      · cases ends
        exact proper.makeLast? asked
      · obtain ⟨⟨place, prepared⟩, earlier, later⟩ := Outcome.bind_ok ends
        obtain ⟨second, asked, ends⟩ := Outcome.bind_ok later
        split at ends
        · cases ends
          exact (ih earlier).makeLast? asked
        · cases ends

theorem Proper.makeFolder (proper : workspace.Proper) {path : String} {made : List String × Workspace}
    (done : workspace.makeFolder path = .ok made) : made.2.Proper := by
  unfold Workspace.makeFolder at done
  split at done
  · cases done
  · exact proper.makeFolders done

theorem Proper.writeFile (proper : workspace.Proper) {path : String} {octets : ByteArray}
    {outline : Option Syntax.Outline} {made : Workspace} (done : workspace.writeFile path octets outline = .ok made) :
    made.Proper := by
  unfold Workspace.writeFile at done
  obtain ⟨place, found, ends⟩ := Outcome.bind_ok done
  cases ends
  refine proper.putAt ?_ (.file octets outline)
  unfold filePlace at found
  obtain ⟨route, leads, ends⟩ := Outcome.bind_ok found
  have named := isName_of_route leads
  split at ends
  · cases ends
    exact named
  · cases ends
  · split at ends
    · cases ends
    · cases ends
      exact named

theorem Proper.create (proper : workspace.Proper) {path : String} {entry : Entry} {made : Workspace}
    (done : workspace.create path entry = .ok made) : made.Proper := by
  unfold Workspace.create at done
  cases entry with
  | directory entries =>
      obtain ⟨⟨place, folder⟩, prepared, ends⟩ := Outcome.bind_ok done
      cases ends
      exact proper.makeFolder prepared
  | file octets outline =>
      obtain ⟨⟨place, folder⟩, prepared, ends⟩ := Outcome.bind_ok done
      exact (proper.makeFolder prepared).writeFile ends
  | link target outline =>
      obtain ⟨⟨place, folder⟩, prepared, ends⟩ := Outcome.bind_ok done
      obtain ⟨route, leads, ends⟩ := Outcome.bind_ok ends
      have named := isName_of_route leads
      split at ends
      · cases ends
        exact (proper.makeFolder prepared).putAt named (.link target outline)
      · cases ends
      · cases ends

/-- Whatever entry is put in, and at whatever path, the tree stays proper. -/
theorem Proper.put (proper : workspace.Proper) (path : String) (entry : Entry) :
    (workspace.put path entry).Proper := by
  unfold Workspace.put
  cases done : workspace.create path entry with
  | error fault => exact proper
  | ok made => exact proper.create done

end Workspace

end ChangeImpact
