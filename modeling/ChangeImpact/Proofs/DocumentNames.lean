import ChangeImpact.Proofs.DocumentData
import ChangeImpact.Toml.Reader

/-!
No table of a document that was read has two fields by one name. Every line keeps this, whatever it sets and wherever.
-/

set_option autoImplicit false

namespace ChangeImpact.Toml

namespace Value

/-- A value in which no table has two fields by one name. -/
def Distinct (value : Value) : Prop :=
  ∀ place inLine fields, value.at? place = some (.table inLine fields) → (fields.map Prod.fst).Nodup

theorem distinct_iff {value : Value} :
    value.Distinct ↔
      (∀ inLine fields, value = .table inLine fields → (fields.map Prod.fst).Nodup) ∧
        ∀ key part, value.part? key = some part → part.Distinct := by
  constructor
  · intro distinct
    refine ⟨fun inLine fields same => distinct [] inLine fields (congrArg some same), ?_⟩
    intro key part found place inLine fields reached
    refine distinct (key :: place) inLine fields ?_
    unfold at?
    rw [found]
    exact reached
  · rintro ⟨here, inside⟩ place inLine fields reached
    cases place with
    | nil => exact here inLine fields (Option.some.inj reached)
    | cons key rest =>
        obtain ⟨part, found, reached⟩ := Option.bind_eq_some_iff.mp reached
        exact inside key part found rest inLine fields reached

theorem distinct_of_isWhole {value : Value} (whole : value.isWhole = true) : value.Distinct := by
  refine distinct_iff.mpr ⟨?_, ?_⟩
  · rintro inLine fields rfl
    cases whole
  · intro key part found
    cases value with
    | list items => cases whole
    | table inLine fields => cases whole
    | _ => exact nomatch found

theorem distinct_list {items : List Value} : (list items).Distinct ↔ ∀ item ∈ items, item.Distinct := by
  rw [distinct_iff]
  constructor
  · rintro ⟨_, inside⟩ item member
    obtain ⟨number, found⟩ := List.getElem?_of_mem member
    exact inside (.position number) item found
  · intro each
    refine ⟨fun _ _ same => (nomatch same), fun key part found => ?_⟩
    cases key with
    | name text => cases found
    | position number => exact each part (List.mem_of_getElem? found)

theorem distinct_table {inLine : Bool} {fields : Fields} :
    (table inLine fields).Distinct ↔
      (fields.map Prod.fst).Nodup ∧ ∀ name value, fields.lookup name = some value → value.Distinct := by
  rw [distinct_iff]
  constructor
  · rintro ⟨here, inside⟩
    exact ⟨here inLine fields rfl, fun name value found => inside (.name name) value found⟩
  · rintro ⟨names, each⟩
    refine ⟨?_, fun key part found => ?_⟩
    · rintro _ _ ⟨⟩
      exact names
    · cases key with
      | name text => exact each text part found
      | position number => cases found

theorem distinct_emptyTable (inLine : Bool) : (table inLine []).Distinct :=
  distinct_table.mpr ⟨List.nodup_nil, fun _ _ found => (nomatch found)⟩

theorem Distinct.set {inLine : Bool} {fields : Fields} (distinct : (table inLine fields).Distinct) (name : String)
    {value : Value} (inner : value.Distinct) : (table inLine (Json.Fields.set name value fields)).Distinct := by
  obtain ⟨names, each⟩ := distinct_table.mp distinct
  refine distinct_table.mpr ⟨Json.Fields.nodup_set names name value, fun other found here => ?_⟩
  by_cases same : other = name
  · rw [same, Json.Fields.lookup_set_self] at here
    cases here
    exact inner
  · rw [Json.Fields.lookup_set_of_ne same] at here
    exact each other found here

def KeepsDistinct (change : Value → Except Fault Value) : Prop :=
  ∀ value changed, value.Distinct → change value = .ok changed → changed.Distinct

theorem keepsDistinct_setField (name : String) {value : Value} (inner : value.Distinct) :
    KeepsDistinct (setField name value) := by
  intro target changed distinct done
  cases target with
  | table inLine fields =>
      cases done
      exact distinct.set name inner
  | _ => cases done

theorem keepsDistinct_append {value : Value} (inner : value.Distinct) : KeepsDistinct (append value) := by
  intro target changed distinct done
  cases target with
  | list items =>
      cases done
      refine distinct_list.mpr fun item member => ?_
      rcases List.mem_append.mp member with before | last
      · exact distinct_list.mp distinct item before
      · rw [List.mem_singleton.mp last]
        exact inner
  | _ => cases done

theorem Distinct.last {value : Value} (distinct : value.Distinct) {inner : Value}
    (found : value.last? = .ok (some inner)) : inner.Distinct := by
  unfold last? at found
  split at found
  · split at found
    · rename_i last
      cases found
      exact distinct_list.mp distinct inner (List.mem_of_getLast? last)
    · cases found
  · split at found
    · cases found
      exact distinct_of_isWhole rfl
    · cases found
  · cases found
  · cases found

theorem Distinct.step {value : Value} (distinct : value.Distinct) {taken : Selector} {inner : Value}
    (found : value.step taken = .ok inner) : inner.Distinct := by
  cases taken with
  | field name =>
      obtain ⟨field, fieldFound, rest⟩ := Outcome.bind_ok found
      cases field with
      | none => cases rest
      | some held =>
          cases rest
          cases value with
          | table inLine fields => exact (distinct_table.mp distinct).2 name inner (Except.ok.inj fieldFound)
          | _ => cases fieldFound
  | last =>
      obtain ⟨item, itemFound, rest⟩ := Outcome.bind_ok found
      cases item with
      | none => cases rest
      | some held =>
          cases rest
          exact distinct.last itemFound

theorem Distinct.replace {value inner : Value} (distinct : value.Distinct) (replacing : inner.Distinct)
    (taken : Selector) :
    (value.replace inner taken).Distinct := by
  cases taken with
  | field name =>
      cases value with
      | table inLine fields => exact distinct.set name replacing
      | _ => exact distinct
  | last =>
      cases value with
      | list items =>
          refine distinct_list.mpr fun item member => ?_
          rcases List.mem_append.mp member with before | last
          · exact distinct_list.mp distinct item (List.dropLast_subset items before)
          · rw [List.mem_singleton.mp last]
            exact replacing
      | _ => exact distinct

theorem KeepsDistinct.change {make : Value → Except Fault Value} (keeps : KeepsDistinct make) {value changed : Value}
    {place : List Selector} (distinct : value.Distinct) (done : value.change make place = .ok changed) :
    changed.Distinct := by
  induction place generalizing value changed with
  | nil => exact keeps value changed distinct done
  | cons taken rest ih =>
      obtain ⟨inner, stepped, done⟩ := Outcome.bind_ok done
      obtain ⟨made, madeInside, done⟩ := Outcome.bind_ok done
      cases done
      exact distinct.replace (ih (distinct.step stepped) madeInside) taken

end Value

open ChangeImpact.Text (stripChars)
open Value (Distinct KeepsDistinct distinct_of_isWhole distinct_list distinct_emptyTable keepsDistinct_setField)

/-! ### Values of lines -/

theorem numberOf_isWhole {text : List Char} {value : Value} (done : numberOf? text = some value) :
    value.isWhole = true := by
  unfold numberOf? at done
  split at done
  dsimp only at done
  split at done
  · obtain ⟨_, _, rfl⟩ := Option.map_eq_some_iff.mp done
    rfl
  split at done
  · obtain ⟨_, _, rfl⟩ := Option.map_eq_some_iff.mp done
    rfl
  · obtain ⟨_, _, rfl⟩ := Option.map_eq_some_iff.mp done
    rfl

theorem scalarOf_isWhole {acceptsNumber : Bool} {text : List Char} {value : Value}
    (done : scalarOf acceptsNumber text = .ok value) : value.isWhole = true := by
  unfold scalarOf at done
  split at done
  · split at done <;> cases done
    rfl
  split at done
  · cases done
    rfl
  split at done
  · rename_i number read
    cases done
    split at read
    · exact numberOf_isWhole read
    · cases read
  · cases done

theorem enterLevels_distinct {value entered : Value} {place inner : List Selector} {levels : List (List Char)}
    (distinct : value.Distinct) (done : enterLevels value place levels = .ok (entered, inner)) : entered.Distinct := by
  induction levels generalizing value place with
  | nil =>
      cases done
      exact distinct
  | cons level rest ih =>
      unfold enterLevels at done
      obtain ⟨table, _, done⟩ := Outcome.bind_ok done
      obtain ⟨isHeld, _, done⟩ := Outcome.bind_ok done
      dsimp only at done
      split at done
      · obtain ⟨_, same, done⟩ := Outcome.bind_ok done
        obtain ⟨_, _, done⟩ := Outcome.bind_ok done
        cases same
        exact ih distinct done
      · obtain ⟨next, made, done⟩ := Outcome.bind_ok done
        obtain ⟨_, _, done⟩ := Outcome.bind_ok done
        exact ih ((keepsDistinct_setField _ (distinct_emptyTable false)).change distinct made) done

theorem addItem_distinct {items added : List Value} {item : Value} (distinct : ∀ other ∈ items, other.Distinct)
    (inner : item.Distinct) (done : addItem items item = .ok added) : ∀ other ∈ added, other.Distinct := by
  have all : ∀ other ∈ item :: items, other.Distinct := List.forall_mem_cons.mpr ⟨inner, distinct⟩
  unfold addItem at done
  split at done
  · split at done
    · cases done
      exact all
    · cases done
  · cases done
    exact all

structure ReadsDistinct (fuel : Nat) : Prop where
  value : ∀ room acceptsNumber text found, readValue fuel room acceptsNumber text = .ok found → found.Distinct
  items : ∀ room pieces items found, readItems fuel room pieces items = .ok found →
    (∀ item ∈ items, item.Distinct) → ∀ item ∈ found, item.Distinct
  pairs : ∀ room place pairs value found, readPairs fuel room place pairs value = .ok found →
    value.Distinct → found.Distinct
  pair : ∀ room place line value found opened, readPair fuel room place line value = .ok (found, opened) →
    value.Distinct → found.Distinct

section

variable {fuel : Nat} (below : ReadsDistinct fuel)

include below

theorem readValue_distinct {room : Nat} {acceptsNumber : Bool} {text : List Char} {found : Value}
    (done : readValue (fuel + 1) room acceptsNumber text = .ok found) : found.Distinct := by
  unfold readValue at done
  dsimp only at done
  split at done
  · cases done
  split at done
  · cases done
    exact distinct_of_isWhole rfl
  split at done
  · cases done
    exact distinct_of_isWhole rfl
  split at done
  · cases done
  split at done
  · obtain ⟨_, _, done⟩ := Outcome.bind_ok done
    cases done
    exact distinct_of_isWhole rfl
  split at done
  · obtain ⟨_, _, done⟩ := Outcome.bind_ok done
    obtain ⟨_, _, done⟩ := Outcome.bind_ok done
    obtain ⟨items, read, done⟩ := Outcome.bind_ok done
    cases done
    have each := below.items _ _ _ _ read (List.forall_mem_nil _)
    exact distinct_list.mpr fun item member => each item (List.mem_reverse.mp member)
  split at done
  · obtain ⟨_, _, done⟩ := Outcome.bind_ok done
    obtain ⟨_, _, done⟩ := Outcome.bind_ok done
    exact below.pairs _ _ _ _ _ done (distinct_emptyTable true)
  · exact distinct_of_isWhole (scalarOf_isWhole done)

theorem readItems_distinct {room : Nat} {pieces : List (List Char)} {items found : List Value}
    (done : readItems (fuel + 1) room pieces items = .ok found) (distinct : ∀ item ∈ items, item.Distinct) :
    ∀ item ∈ found, item.Distinct := by
  cases pieces with
  | nil =>
      unfold readItems at done
      cases done
      exact distinct
  | cons piece rest =>
      unfold readItems at done
      obtain ⟨item, read, done⟩ := Outcome.bind_ok done
      obtain ⟨added, addedItem, done⟩ := Outcome.bind_ok done
      exact below.items _ _ _ _ done (addItem_distinct distinct (below.value _ _ _ _ read) addedItem)

theorem readPairs_distinct {room : Nat} {place : List Selector} {pairs : List (List Char)} {value found : Value}
    (done : readPairs (fuel + 1) room place pairs value = .ok found) (distinct : value.Distinct) :
    found.Distinct := by
  cases pairs with
  | nil =>
      unfold readPairs at done
      cases done
      exact distinct
  | cons pair rest =>
      unfold readPairs at done
      obtain ⟨⟨changed, opened⟩, read, done⟩ := Outcome.bind_ok done
      have inner := below.pair _ _ _ _ _ _ read distinct
      cases opened with
      | none => exact below.pairs _ _ _ _ _ done inner
      | some field =>
          cases done
          exact inner

theorem readPair_distinct {room : Nat} {place : List Selector} {line : List Char} {value found : Value}
    {opened : Option OpenField} (done : readPair (fuel + 1) room place line value = .ok (found, opened))
    (distinct : value.Distinct) : found.Distinct := by
  unfold readPair at done
  obtain ⟨pair, _, done⟩ := Outcome.bind_ok done
  dsimp only at done
  obtain ⟨⟨levels, last⟩, _, done⟩ := Outcome.bind_ok done
  obtain ⟨⟨entered, inner⟩, entering, done⟩ := Outcome.bind_ok done
  have before := enterLevels_distinct distinct entering
  obtain ⟨textOpened, _, done⟩ := Outcome.bind_ok done
  cases textOpened with
  | some tail =>
      -- An open text is no value yet: only the tables on the way to its field are new.
      obtain ⟨_, nothing, done⟩ := Outcome.bind_ok done
      obtain ⟨_, _, done⟩ := Outcome.bind_ok done
      cases nothing
      split at done
      · dsimp only at done
        split at done
        · cases done
        · cases done
          exact before
      · cases done
  | none =>
      obtain ⟨item, read, done⟩ := Outcome.bind_ok done
      obtain ⟨_, same, done⟩ := Outcome.bind_ok done
      obtain ⟨_, _, done⟩ := Outcome.bind_ok done
      cases same
      split at done
      · obtain ⟨changed, changing, done⟩ := Outcome.bind_ok done
        cases done
        exact (keepsDistinct_setField _ (below.value _ _ _ _ read)).change before changing
      · cases done

end

/-- By induction on the steps: each reader calls the others with one step less. -/
theorem readsDistinct (fuel : Nat) : ReadsDistinct fuel := by
  induction fuel with
  | zero =>
      refine ⟨?_, ?_, ?_, ?_⟩
      · intro room acceptsNumber text found done
        simp [readValue] at done
      · intro room pieces items found done
        simp [readItems] at done
      · intro room place pairs value found done
        simp [readPairs] at done
      · intro room place line value found opened done
        simp [readPair] at done
  | succ fuel below =>
      exact ⟨fun _ _ _ _ => readValue_distinct below, fun _ _ _ _ => readItems_distinct below,
        fun _ _ _ _ _ => readPairs_distinct below, fun _ _ _ _ _ _ => readPair_distinct below⟩

/-! ### Lines of a document -/

namespace Reading

variable {reading next : Reading}

theorem madeBy_distinct (isList isLast : Bool) : (madeBy isList isLast).Distinct := by
  unfold madeBy
  split
  · refine distinct_list.mpr fun item member => ?_
    rw [List.mem_singleton.mp member]
    exact distinct_emptyTable false
  · exact distinct_emptyTable false

theorem reachField_distinct {isList isLast : Bool} {name : String}
    (done : reading.reachField isList isLast name = .ok next) (distinct : reading.root.Distinct) :
    next.root.Distinct := by
  unfold reachField at done
  obtain ⟨current, _, done⟩ := Outcome.bind_ok done
  have making := keepsDistinct_setField name (madeBy_distinct isList isLast)
  split at done
  · split at done
    · split at done
      · cases done
        exact distinct
      split at done
      · split at done <;> cases done
        exact distinct
      split at done
      · obtain ⟨root, changing, done⟩ := Outcome.bind_ok done
        cases done
        exact (Value.keepsDistinct_append (distinct_emptyTable false)).change distinct changing
      · cases done
    · obtain ⟨root, changing, done⟩ := Outcome.bind_ok done
      cases done
      exact making.change distinct changing
  · obtain ⟨last, _, done⟩ := Outcome.bind_ok done
    split at done
    · cases done
    · obtain ⟨isHeld, _, done⟩ := Outcome.bind_ok done
      split at done
      · cases done
        exact distinct
      · obtain ⟨root, changing, done⟩ := Outcome.bind_ok done
        cases done
        exact making.change distinct changing

theorem enterField_distinct {isList isLast : Bool} {name : String}
    (done : reading.enterField isList isLast name = .ok next) (distinct : reading.root.Distinct) :
    next.root.Distinct := by
  unfold enterField at done
  split at done
  · cases done
  · obtain ⟨reached, reaching, done⟩ := Outcome.bind_ok done
    have after := reachField_distinct reaching distinct
    obtain ⟨value, _, done⟩ := Outcome.bind_ok done
    split at done
    · obtain ⟨last, _, done⟩ := Outcome.bind_ok done
      cases last <;> cases done <;> exact after
    · cases done
      exact after

theorem enterFields_distinct {isList : Bool} {names : List String}
    (done : enterFields isList names reading = .ok next) (distinct : reading.root.Distinct) : next.root.Distinct := by
  fun_induction enterFields isList names reading with
  | case1 reading =>
      cases done
      exact distinct
  | case2 name reading => exact enterField_distinct done distinct
  | case3 name rest reading _ ih =>
      obtain ⟨entered, entering, done⟩ := Outcome.bind_ok done
      exact ih entered done (enterField_distinct entering distinct)

theorem header_distinct {rest : List Char} (done : reading.header rest = .ok next)
    (distinct : reading.root.Distinct) : next.root.Distinct := by
  unfold header at done
  dsimp only at done
  split at done
  · cases done
  · obtain ⟨names, _, done⟩ := Outcome.bind_ok done
    exact enterFields_distinct done distinct
  · obtain ⟨names, _, done⟩ := Outcome.bind_ok done
    exact enterFields_distinct done distinct

theorem goOn_distinct {field : OpenField} {line : List Char} (done : reading.goOn field line = .ok next)
    (distinct : reading.root.Distinct) : next.root.Distinct := by
  -- Which line closes a text depends on its quotes; what is done then does not.
  have finish : ∀ isClosed text, (if isClosed = true then (do
      let value ← readValue (enoughFor text) maxRoom true text
      let root ← reading.root.change (Value.setField field.name value) reading.place
      .ok { reading with root, opened := none })
      else .ok { reading with opened := some (.ofText field.name text (endsEscaped text)) }) = .ok next →
      next.root.Distinct := by
    intro isClosed text done
    split at done
    · obtain ⟨value, read, done⟩ := Outcome.bind_ok done
      obtain ⟨root, changing, done⟩ := Outcome.bind_ok done
      cases done
      exact (keepsDistinct_setField _ ((readsDistinct _).value _ _ _ _ read)).change distinct changing
    · cases done
      exact distinct
  unfold goOn at done
  dsimp only at done
  split at done
  · split at done
    · obtain ⟨isClosed, _, done⟩ := Outcome.bind_ok done
      exact finish isClosed _ done
    · obtain ⟨_, failed, _⟩ := Outcome.bind_ok done
      cases failed
  · obtain ⟨isClosed, _, done⟩ := Outcome.bind_ok done
    exact finish isClosed _ done

theorem plainLine_distinct {line : List Char} (done : reading.plainLine line = .ok next)
    (distinct : reading.root.Distinct) : next.root.Distinct := by
  unfold plainLine at done
  split at done
  · exact header_distinct done distinct
  · split at done
    · obtain ⟨pairs, _, done⟩ := Outcome.bind_ok done
      obtain ⟨root, read, done⟩ := Outcome.bind_ok done
      cases done
      exact (readsDistinct _).pairs _ _ _ _ _ read distinct
    · cases done
  · split at done
    · obtain ⟨⟨root, opened⟩, read, done⟩ := Outcome.bind_ok done
      cases done
      exact (readsDistinct _).pair _ _ _ _ _ _ read distinct
    · cases done
      exact distinct

theorem line_distinct {given : List Char} (done : reading.line given = .ok next) (distinct : reading.root.Distinct) :
    next.root.Distinct := by
  unfold line at done
  split at done
  · dsimp only at done
    split at done
    · cases done
      exact distinct
    · exact plainLine_distinct done distinct
  · rename_i field _
    generalize (if field.goesOn || !field.text.contains '\n' then stripChars given else given) = text at done
    dsimp only at done
    split at done
    · cases done
      exact distinct
    · exact goOn_distinct done distinct

theorem lines_distinct {lines : List (List Char)} (done : lines.foldlM line reading = .ok next)
    (distinct : reading.root.Distinct) : next.root.Distinct := by
  induction lines generalizing reading with
  | nil =>
      cases done
      exact distinct
  | cons given rest ih =>
      rw [List.foldlM_cons] at done
      obtain ⟨after, read, done⟩ := Outcome.bind_ok done
      exact ih done (line_distinct read distinct)

end Reading

theorem read_distinct {text : String} {document : Fields} (done : read text = .ok document) (inLine : Bool) :
    (Value.table inLine document).Distinct := by
  unfold read at done
  obtain ⟨lines, _, done⟩ := Outcome.bind_ok done
  obtain ⟨reading, folded, done⟩ := Outcome.bind_ok done
  have distinct := Reading.lines_distinct folded (distinct_emptyTable false)
  split at done
  · rename_i root
    cases done
    rw [root] at distinct
    exact Value.distinct_table.mpr (Value.distinct_table.mp distinct)
  · cases done

end ChangeImpact.Toml
