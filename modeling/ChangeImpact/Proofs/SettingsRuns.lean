import ChangeImpact.Proofs.SettingsValues

/-!
Runs of steps on a settings file. Whatever is loaded, saved, set and reset, the other sections keep their data, each
save merges its values into the section before it, and every settings that are given can be worked with.
-/

set_option autoImplicit false

namespace ChangeImpact.Settings

open ChangeImpact.Json (Value Fields)
open ChangeImpact.Toml.Value (data)

/-! ### What is asked of a host -/

/-- A document that is loaded has no name twice in any of its tables. -/
def Host.LoadsDistinct (host : Host) : Prop :=
  ∀ text document, host.load text = .ok document → (Toml.Value.table false document).Distinct

/-- A document that is dumped without a fault and that, loaded again, holds the same data. -/
def Host.Keeps (host : Host) (document : Toml.Fields) : Prop :=
  ∃ text back, host.dump document = (text, .ok ()) ∧ host.load text = .ok back ∧
    ∀ name, (back.lookup name).map data = (document.lookup name).map data

theorem Host.standard_loadsDistinct : Host.standard.LoadsDistinct := fun _ _ done => Toml.read_distinct done false

theorem Host.standard_dump {document : Toml.Fields} {text : String} (writes : Toml.write document = .ok text) :
    Host.standard.dump document = (text, .ok ()) := by
  unfold Host.standard
  dsimp only
  rw [writes]

/-! ### Values of documents -/

theorem settingOf_storedValue {key : String} {value stored : Value} (accepted : Accepts key value stored) :
    settingOf (storedValue stored) = stored := by
  cases accepted with
  | exclude texts => simp [storedValue, settingOf, Function.comp_def, Value.plain, Toml.Value.toJson]
  | _ => rfl

theorem texts_of_settingOf {value : Toml.Value} {texts : List String}
    (seen : settingOf value = .list (texts.map .str)) : value = .list (texts.map .str) := by
  cases value with
  | list items =>
      rw [settingOf, Value.list.injEq] at seen
      refine congrArg Toml.Value.list ?_
      induction items generalizing texts with
      | nil => cases texts <;> simp_all
      | cons item rest ih =>
          cases texts with
          | nil => cases seen
          | cons text others =>
              rw [List.map_cons, List.map_cons, List.cons.injEq] at seen
              rw [List.map_cons, ih seen.2]
              cases item <;> simp_all [Toml.Value.toJson]
  | _ => simp [settingOf, Toml.Value.toJson] at seen

/-- A value that is accepted is told by its data. -/
theorem Accepts.eq_of_data {key : String} {stored : Value} {value other : Toml.Value}
    (accepted : Accepts key (settingOf value) stored) (same : value.data = other.data) : other = value := by
  generalize seen : settingOf value = shown at accepted
  -- Only a list of texts has parts; every other accepted value is told by its shape.
  cases accepted with
  | exclude texts =>
      rw [texts_of_settingOf seen] at same ⊢
      exact Toml.Value.texts_of_data same
  | _ =>
      cases value with
      | list items => cases seen
      | table inLine fields => cases seen
      | _ => exact (Toml.Value.eq_of_data rfl same).symm

def viewOf (fields : Toml.Fields) (key : String) : Option Value := (fields.lookup key).map settingOf

theorem lookup_settingsOf (fields : Toml.Fields) : (fun key => (settingsOf fields).lookup key) = viewOf fields :=
  funext fun key => Json.Fields.lookup_map settingOf key fields

theorem read_settingsOf {processors : Option Nat} {fields : Toml.Fields} (distinct : (fields.map Prod.fst).Nodup)
    {settings : Settings} :
    read processors (settingsOf fields) = .ok settings ↔ settings.Reflects processors (viewOf fields) := by
  rw [← lookup_settingsOf]
  refine read_eq_ok ?_
  simpa [settingsOf, Function.comp_def] using distinct

theorem Reflects.of_data {processors : Option Nat} {settings : Settings} {fields others : Toml.Fields}
    (reflects : settings.Reflects processors (viewOf fields))
    (same : ∀ key, (others.lookup key).map data = (fields.lookup key).map data) :
    settings.Reflects processors (viewOf others) := by
  have views : viewOf others = viewOf fields := by
    funext key
    have here := same key
    unfold viewOf
    rcases found : fields.lookup key with _ | value
    · rw [found] at here
      rw [Option.map_eq_none_iff.mp here]
    · rw [found] at here
      obtain ⟨other, there, sameData⟩ := Option.map_eq_some_iff.mp here
      obtain ⟨stored, accepted, _⟩ := reflects.named key (settingOf value) (by rw [viewOf, found]; rfl)
      rw [there, accepted.eq_of_data sameData.symm]
  rw [views]
  exact reflects

/-! ### Sections of documents -/

theorem documentOf_distinct {host : Host} (distinct : host.LoadsDistinct) {text : Option String}
    {document : Toml.Fields} (parsed : documentOf text host = .ok document) :
    (Toml.Value.table false document).Distinct := by
  cases text with
  | none =>
      cases parsed
      exact Toml.Value.distinct_emptyTable false
  | some text =>
      unfold documentOf at parsed
      dsimp only at parsed
      split at parsed
      · cases parsed
        exact Toml.Value.distinct_emptyTable false
      · exact distinct text document parsed

theorem documentOf_of_load {host : Host} {text : String} {document : Toml.Fields}
    (done : host.load text = .ok document) : documentOf (some text) host = .ok document := by
  unfold documentOf
  dsimp only
  rw [done]

/-- The section of settings as loading takes it: a missing one is empty, and one that is no table is none. -/
def sectionIn (document : Toml.Fields) : Option Toml.Fields :=
  match document.lookup sectionName with
  | none => some []
  | some (.table _ fields) => some fields
  | some _ => none

theorem reflects_nothing (processors : Option Nat) : (standard processors).Reflects processors fun _ => none :=
  ⟨fun _ _ found => (nomatch found), fun _ _ => rfl⟩

theorem ofDocument_eq_ok {host : Host} {document : Toml.Fields}
    (distinct : (Toml.Value.table false document).Distinct) {settings : Settings} :
    ofDocument document host = .ok settings ↔
      ∃ fields, sectionIn document = some fields ∧ settings.Reflects host.processors (viewOf fields) := by
  unfold ofDocument sectionIn
  rcases found : document.lookup sectionName with _ | value
  · constructor
    · rintro ⟨⟩
      exact ⟨[], rfl, reflects_nothing host.processors⟩
    · rintro ⟨fields, ⟨⟩, reflects⟩
      exact congrArg Except.ok ((reflects_nothing host.processors).unique reflects)
  · cases value with
    | table inLine fields =>
        have inner := (Toml.Value.distinct_table.mp distinct).2 _ _ found
        simp [read_settingsOf (Toml.Value.distinct_table.mp inner).1]
    | _ => simp

theorem ofText_eq_ok {host : Host} (distinct : host.LoadsDistinct) {text : Option String} {document : Toml.Fields}
    (parsed : documentOf text host = .ok document) {settings : Settings} :
    ofText text host = .ok settings ↔
      ∃ fields, sectionIn document = some fields ∧ settings.Reflects host.processors (viewOf fields) := by
  rw [← ofDocument_eq_ok (documentOf_distinct distinct parsed)]
  unfold ofText
  rw [parsed]
  exact Outcome.mapError_eq_ok

theorem tableOf_distinct {value : Toml.Value} {fields : Toml.Fields} (distinct : value.Distinct)
    (done : tableOf value = .ok fields) : (fields.map Prod.fst).Nodup := by
  cases value with
  | table inLine held =>
      cases done
      exact (Toml.Value.distinct_table.mp distinct).1
  | list items =>
      obtain ⟨pairs, _, done⟩ := Outcome.bind_ok done
      cases done
      refine Json.Fields.nodup_merge ?_ pairs
      exact List.nodup_nil
  | str text =>
      obtain ⟨pairs, _, done⟩ := Outcome.bind_ok done
      cases done
      refine Json.Fields.nodup_merge ?_ pairs
      exact List.nodup_nil
  | _ => cases done

/-! ### Updates -/

/-- The new values of a save as they are stored, and the section that they are merged into. -/
structure Update (document : Toml.Fields) (values checked : Fields) (held : Toml.Fields) : Prop where
  checks : check values = .ok checked
  holds : tableOf ((document.lookup sectionName).getD .emptyTable) = .ok held

/-- What an update makes of a section: the last new value of a setting wins, and the others stay. -/
def updated (checked : Fields) (held : Toml.Fields) (key : String) : Option Value :=
  (checked.reverse.lookup key).or (viewOf held key)

def merged (checked : Fields) (held : Toml.Fields) : Toml.Fields :=
  Json.Fields.merge held (checked.map fun field => (field.1, storedValue field.2))

theorem lookup_merged (checked : Fields) (held : Toml.Fields) (key : String) :
    (merged checked held).lookup key = ((checked.reverse.lookup key).map storedValue).or (held.lookup key) := by
  rw [merged, Json.Fields.lookup_merge, ← List.map_reverse, Json.Fields.lookup_map]

namespace Update

variable {document : Toml.Fields} {values checked : Fields} {held : Toml.Fields}

theorem unique (update : Update document values checked held) {others : Fields} {before : Toml.Fields}
    (again : Update document values others before) : others = checked ∧ before = held :=
  ⟨Except.ok.inj (again.checks.symm.trans update.checks), Except.ok.inj (again.holds.symm.trans update.holds)⟩

theorem accepts (update : Update document values checked held) {key : String} {value : Value}
    (found : checked.reverse.lookup key = some value) : ∃ given, Accepts key given value :=
  (check_eq_ok.mp update.checks).mem_accepts (List.mem_reverse.mp (Json.Fields.mem_of_lookup found))

theorem viewOf_merged (update : Update document values checked held) :
    viewOf (merged checked held) = updated checked held := by
  funext key
  unfold viewOf updated
  rw [lookup_merged]
  rcases found : checked.reverse.lookup key with _ | value
  · rfl
  · obtain ⟨given, accepted⟩ := update.accepts found
    exact congrArg some (settingOf_storedValue accepted)

/-- A new value is told by its data: it is seen wherever that is. -/
theorem viewOf_new (update : Update document values checked held) {fields : Toml.Fields} {key : String}
    (same : (fields.lookup key).map data = ((merged checked held).lookup key).map data) {value : Value}
    (new : checked.reverse.lookup key = some value) : viewOf fields key = some value := by
  obtain ⟨given, accepted⟩ := update.accepts new
  have shown := settingOf_storedValue accepted
  have again : Accepts key (settingOf (storedValue value)) value := shown.symm ▸ accepted.again
  rw [lookup_merged, new] at same
  obtain ⟨other, found, sameData⟩ := Option.map_eq_some_iff.mp same
  rw [viewOf, found, again.eq_of_data sameData.symm]
  exact congrArg some shown

theorem lookup_unmentioned (update : Update document values checked held) {key : String}
    (unmentioned : key ∉ values.map Prod.fst) : (merged checked held).lookup key = held.lookup key := by
  have absent : checked.reverse.lookup key = none := by
    refine Json.Fields.lookup_eq_none fun member => unmentioned ?_
    rw [List.map_reverse, List.mem_reverse, (check_eq_ok.mp update.checks).names] at member
    exact member
  rw [lookup_merged, absent]
  rfl

theorem distinct (update : Update document values checked held) (proper : (Toml.Value.table false document).Distinct) :
    ((merged checked held).map Prod.fst).Nodup := by
  refine Json.Fields.nodup_merge (tableOf_distinct ?_ update.holds) _
  rcases found : document.lookup sectionName with _ | value
  · exact Toml.Value.distinct_emptyTable false
  · exact (Toml.Value.distinct_table.mp proper).2 _ _ found

def change (document : Toml.Fields) (checked : Fields) (held : Toml.Fields) : Change :=
  { document := Json.Fields.set sectionName (.table false (merged checked held)) document
    fields := merged checked held }

theorem settings_eq_ok (update : Update document values checked held)
    (proper : (Toml.Value.table false document).Distinct) {host : Host} {settings : Settings} :
    (change document checked held).settings host = .ok settings ↔
      settings.Reflects host.processors (updated checked held) := by
  rw [← update.viewOf_merged, ← read_settingsOf (update.distinct proper)]
  exact Outcome.mapError_eq_ok

end Update

def SameElsewhere (document later : Toml.Fields) : Prop :=
  ∀ name, name ≠ sectionName → (later.lookup name).map data = (document.lookup name).map data

theorem ofValues_eq_ok {host : Host} {text : Option String} {document : Toml.Fields}
    (parsed : documentOf text host = .ok document) {values : Fields} {change : Change} :
    Change.ofValues text values host = .ok change ↔
      ∃ checked held, Update document values checked held ∧ change = Update.change document checked held := by
  unfold Change.ofValues
  rw [parsed]
  constructor
  · intro done
    obtain ⟨checked, checks, done⟩ := Outcome.bind_ok done
    obtain ⟨_, same, done⟩ := Outcome.bind_ok done
    cases same
    obtain ⟨held, holds, done⟩ := Outcome.bind_ok done
    cases done
    exact ⟨checked, held, ⟨Outcome.mapError_eq_ok.mp checks, Outcome.mapError_eq_ok.mp holds⟩, rfl⟩
  · rintro ⟨checked, held, update, rfl⟩
    rw [update.checks]
    exact Outcome.bind_of_ok (Outcome.mapError_eq_ok.mpr update.holds)

section

variable {host : Host} {document : Toml.Fields} {written : String} {result : Except Toml.Fault Unit}

theorem overwrite_of_dump (dumped : host.dump document = (written, result)) :
    overwrite document host = (written, result.mapError .document) := by
  unfold overwrite
  rw [dumped]

theorem apply_of_dump {change : Change} (dumped : host.dump change.document = (written, result))
    (text : Option String) :
    apply text (.ok change) host = (do result.mapError .document; change.settings host, some written) := by
  unfold apply
  dsimp only
  rw [overwrite_of_dump dumped]

theorem reset_of_dump {text : Option String} (cleared : withoutSection? text host = .ok (some document))
    (dumped : host.dump document = (written, result)) :
    reset text host = (result.mapError .document, some written) := by
  unfold reset
  rw [cleared]
  dsimp only
  rw [overwrite_of_dump dumped]

end

/-- A change whose document is kept is carried out, and what is written can be read. -/
theorem apply_of_keeps {host : Host} {change : Change} (keeps : host.Keeps change.document)
    (text : Option String) :
    ∃ written back, apply text (.ok change) host = (change.settings host, some written) ∧
      documentOf (some written) host = .ok back ∧
      ∀ name, (back.lookup name).map data = (change.document.lookup name).map data := by
  obtain ⟨written, back, writes, reads, same⟩ := keeps
  exact ⟨written, back, apply_of_dump writes text, documentOf_of_load reads, same⟩

structure Saves (host : Host) (document : Toml.Fields) (values : Fields) (before : Option String)
    (answer : Except ChangeFault Settings) (after : Option String) : Prop where
  untouched : (¬ ∃ checked held, Update document values checked held) → after = before
  stored : ∀ checked held, Update document values checked held →
    ∃ later fields, documentOf after host = .ok later ∧ sectionIn later = some fields ∧
      (∀ key value, checked.reverse.lookup key = some value → viewOf fields key = some value) ∧
      ∀ key, key ∉ values.map Prod.fst → (fields.lookup key).map data = (held.lookup key).map data
  answered : ∀ settings, answer = .ok settings ↔
    ∃ checked held, Update document values checked held ∧ settings.Reflects host.processors (updated checked held)
  wins : ∀ settings checked held, answer = .ok settings → Update document values checked held →
    ∀ key value, checked.reverse.lookup key = some value → settings.toFields.lookup key = some value
  loaded : ∀ settings, answer = .ok settings → ofText after host = .ok settings

/-- The data of a document that an update has written: that of its settings, and for the other names what was there. -/
theorem section_of_update {document : Toml.Fields} {checked : Fields} {held back : Toml.Fields}
    (same : ∀ name, (back.lookup name).map data =
      ((Update.change document checked held).document.lookup name).map data) :
    (∃ fields, sectionIn back = some fields ∧
      ∀ key, (fields.lookup key).map data = ((merged checked held).lookup key).map data) ∧
      SameElsewhere document back := by
  constructor
  · have here := same sectionName
    rw [Update.change, Json.Fields.lookup_set_self] at here
    obtain ⟨value, found, sameData⟩ := Option.map_eq_some_iff.mp here
    obtain ⟨inLine, fields, rfl, inside⟩ := Toml.Value.fields_of_data sameData.symm
    refine ⟨fields, ?_, fun key => (inside key).symm⟩
    unfold sectionIn
    rw [found]
  · intro name other
    rw [same name, Update.change, Json.Fields.lookup_set_of_ne other]

theorem Reflects.wins {processors : Option Nat} {document : Toml.Fields} {values checked : Fields}
    {held : Toml.Fields} {settings : Settings} (update : Update document values checked held)
    (reflects : settings.Reflects processors (updated checked held)) {key : String} {value : Value}
    (found : checked.reverse.lookup key = some value) : settings.toFields.lookup key = some value := by
  obtain ⟨stored, accepted, here⟩ := reflects.named key value (by rw [updated, found]; rfl)
  obtain ⟨given, before⟩ := update.accepts found
  rw [here, before.again.unique accepted]

section

variable {host : Host} {text : Option String} {document : Toml.Fields} (distinct : host.LoadsDistinct)
  (parsed : documentOf text host = .ok document)

include parsed

theorem withoutSection?_eq :
    withoutSection? text host = .ok (if (document.lookup sectionName).isSome
      then some (document.filter fun field => field.1 ≠ sectionName) else none) := by
  unfold withoutSection?
  rw [parsed, Outcome.bind_of_ok rfl]
  split <;> rfl

include distinct

theorem saves_of_update {values checked : Fields} {held : Toml.Fields}
    (update : Update document values checked held) {back fields : Toml.Fields} {written : String}
    (reads : documentOf (some written) host = .ok back) (found : sectionIn back = some fields)
    (same : ∀ key, (fields.lookup key).map data = ((merged checked held).lookup key).map data) :
    Saves host document values text ((Update.change document checked held).settings host) (some written) := by
  have proper := documentOf_distinct distinct parsed
  refine ⟨fun none => absurd ⟨checked, held, update⟩ none, ?_, ?_, ?_, ?_⟩
  · intro others before again
    obtain ⟨rfl, rfl⟩ := update.unique again
    refine ⟨back, fields, reads, found, ?_, ?_⟩
    · exact fun key value new => update.viewOf_new (same key) new
    · intro key unmentioned
      rw [same key, update.lookup_unmentioned unmentioned]
  · intro settings
    rw [update.settings_eq_ok proper]
    constructor
    · exact fun reflects => ⟨checked, held, update, reflects⟩
    · rintro ⟨others, before, again, reflects⟩
      obtain ⟨rfl, rfl⟩ := update.unique again
      exact reflects
  · intro settings others before answered again key value new
    obtain ⟨rfl, rfl⟩ := update.unique again
    exact Reflects.wins update ((update.settings_eq_ok proper).mp answered) new
  · -- The answer was found before the file was read again, from the section as it was merged.
    intro settings answered
    have reflects := (update.settings_eq_ok proper).mp answered
    rw [← update.viewOf_merged] at reflects
    exact (ofText_eq_ok distinct reads).mpr ⟨fields, found, reflects.of_data same⟩

theorem save_saves {values : Fields}
    (keeps : ∀ change, Change.ofValues text values host = .ok change → host.Keeps change.document) :
    Saves host document values text (save text values host).1 (save text values host).2 ∧
      ∃ later, documentOf (save text values host).2 host = .ok later ∧ SameElsewhere document later := by
  unfold save
  rcases made : Change.ofValues text values host with fault | change
  · have never : ¬ ∃ checked held, Update document values checked held := by
      rintro ⟨checked, held, update⟩
      rw [(ofValues_eq_ok parsed).mpr ⟨checked, held, update, rfl⟩] at made
      cases made
    refine ⟨⟨fun _ => rfl, ?_, ?_, ?_, ?_⟩, document, parsed, fun _ _ => rfl⟩
    · exact fun checked held update => absurd ⟨checked, held, update⟩ never
    · refine fun settings => ⟨fun answered => (nomatch answered), ?_⟩
      rintro ⟨checked, held, update, _⟩
      exact absurd ⟨checked, held, update⟩ never
    · exact fun _ _ _ answered => (nomatch answered)
    · exact fun _ answered => (nomatch answered)
  · obtain ⟨checked, held, update, rfl⟩ := (ofValues_eq_ok parsed).mp made
    obtain ⟨written, back, applied, reads, same⟩ := apply_of_keeps (keeps _ made) text
    obtain ⟨⟨fields, found, inside⟩, others⟩ := section_of_update same
    rw [applied]
    exact ⟨saves_of_update distinct parsed update reads found inside, back, reads, others⟩

theorem ofText_of_absent (absent : document.lookup sectionName = none) :
    ofText text host = .ok (standard host.processors) := by
  refine (ofText_eq_ok distinct parsed).mpr ⟨[], ?_, reflects_nothing host.processors⟩
  unfold sectionIn
  rw [absent]

theorem reset_clears (keeps : ∀ left, withoutSection? text host = .ok (some left) → host.Keeps left) :
    ((reset text host).1 = .ok () ∧ ofText (reset text host).2 host = .ok (standard host.processors)) ∧
      ∃ later, documentOf (reset text host).2 host = .ok later ∧ SameElsewhere document later := by
  have parts := withoutSection?_eq parsed
  rcases found : document.lookup sectionName with _ | value
  · rw [found] at parts
    have done : reset text host = (.ok (), text) := by
      unfold reset
      rw [parts]
      rfl
    rw [done]
    exact ⟨⟨rfl, ofText_of_absent distinct parsed found⟩, document, parsed, fun _ _ => rfl⟩
  · rw [found, Option.isSome_some, if_pos rfl] at parts
    obtain ⟨written, back, writes, reads, same⟩ := keeps _ parts
    have done : reset text host = (.ok (), some written) := reset_of_dump parts writes
    have after := documentOf_of_load reads
    have absent : back.lookup sectionName = none := by
      have here := same sectionName
      rw [Json.Fields.lookup_filter_ne] at here
      exact Option.map_eq_none_iff.mp here
    rw [done]
    refine ⟨⟨rfl, ofText_of_absent distinct after absent⟩, back, after, fun name other => ?_⟩
    rw [same name, Json.Fields.lookup_filter_of_ne other]

end

/-! ### Runs -/

inductive FileStep where
  | load
  | save (values : Fields)
  | set (key raw : String)
  | reset

namespace FileStep

/-- Takes a step: its answer, with the settings if it gives any, and the text of the file after it. -/
def take (host : Host) (text : Option String) : FileStep → Except ChangeFault (Option Settings) × Option String
  | .load => ((ofText text host).map some, text)
  | .save values => ((Settings.save text values host).1.map some, (Settings.save text values host).2)
  | .set key raw => ((saveText text key raw host).1.map some, (saveText text key raw host).2)
  | .reset => ((Settings.reset text host).1.map fun _ => none, (Settings.reset text host).2)

def written? (host : Host) (text : Option String) : FileStep → Option Toml.Fields
  | .load => none
  | .save values => (Change.ofValues text values host).toOption.map Change.document
  | .set key raw => (Change.ofText text key raw host).toOption.map Change.document
  | .reset => (withoutSection? text host).toOption.join

/-- The file holds what a step writes. -/
theorem take_of_written {host : Host} {text : Option String} {step : FileStep} {document : Toml.Fields}
    {written : String} (makes : step.written? host text = some document)
    (writes : host.dump document = (written, .ok ())) : (step.take host text).2 = some written := by
  have applied : ∀ made : Except ChangeFault Change, made.toOption.map Change.document = some document →
      (apply text made host).2 = some written := by
    intro made found
    cases made with
    | error fault => cases found
    | ok change =>
        cases found
        exact congrArg Prod.snd (apply_of_dump writes text)
  cases step with
  | load => cases makes
  | save values => exact applied _ makes
  | set key raw => exact applied _ makes
  | reset =>
      have cleared : withoutSection? text host = .ok (some document) :=
        Outcome.ok_of_toOption (Option.join_eq_some_iff.mp makes)
      exact congrArg Prod.snd (reset_of_dump cleared writes)

def Law (host : Host) (document : Toml.Fields) (text : Option String) : FileStep → Prop
  | .load => ∀ settings, ofText text host = .ok settings ↔
      ∃ fields, sectionIn document = some fields ∧ settings.Reflects host.processors (viewOf fields)
  | .save values =>
      Saves host document values text (Settings.save text values host).1 (Settings.save text values host).2
  | .set key raw =>
      (∀ fault, valueOfText key raw = .error fault → saveText text key raw host = (.error (.setting fault), text)) ∧
        ∀ value, valueOfText key raw = .ok value →
          Saves host document [(key, value)] text (saveText text key raw host).1 (saveText text key raw host).2
  | .reset =>
      (Settings.reset text host).1 = .ok () ∧
        ofText (Settings.reset text host).2 host = .ok (standard host.processors)

/-- A step in a run that began with a document: it does what it has to, and the other sections have the data that they
had at first. -/
structure Lawful (host : Host) (first : Toml.Fields) (text : Option String) (step : FileStep) : Prop where
  before : ∃ document,
    documentOf text host = .ok document ∧ SameElsewhere first document ∧ step.Law host document text
  after : ∃ later, documentOf (step.take host text).2 host = .ok later ∧ SameElsewhere first later
  valid : ∀ settings, (step.take host text).1 = .ok (some settings) → settings.Valid

theorem map_some_ok {answer : Except ChangeFault Settings} {settings : Settings}
    (done : answer.map some = .ok (some settings)) : answer = .ok settings := by
  cases answer with
  | error fault => cases done
  | ok other =>
      cases done
      rfl

theorem saveText_of_ok {key raw : String} {value : Value} (host : Host) (text : Option String)
    (done : valueOfText key raw = .ok value) :
    Change.ofText text key raw host = Change.ofValues text [(key, value)] host ∧
      saveText text key raw host = Settings.save text [(key, value)] host := by
  have same : Change.ofText text key raw host = Change.ofValues text [(key, value)] host := by
    unfold Change.ofText
    rw [done]
    rfl
  unfold saveText Settings.save
  rw [same]
  exact ⟨rfl, rfl⟩

theorem saveText_of_error {key raw : String} {fault : Fault} (host : Host) (text : Option String)
    (failed : valueOfText key raw = .error fault) :
    saveText text key raw host = (.error (.setting fault), text) := by
  unfold saveText Change.ofText
  rw [failed]
  rfl

variable {host : Host} {text : Option String} {document : Toml.Fields} {step : FileStep}
  (distinct : host.LoadsDistinct) (parsed : documentOf text host = .ok document)
  (keeps : ∀ left, step.written? host text = some left → host.Keeps left)

include distinct parsed keeps

/-- One step: it obeys its law, the other sections keep their data, and the settings that it gives are valid. -/
theorem law :
    step.Law host document text ∧
      (∃ later, documentOf (step.take host text).2 host = .ok later ∧ SameElsewhere document later) ∧
      ∀ settings, (step.take host text).1 = .ok (some settings) → settings.Valid := by
  have valid : ∀ {values answer after}, Saves host document values text answer after →
      ∀ settings, answer.map some = .ok (some settings) → settings.Valid := by
    intro values answer after saves settings done
    obtain ⟨_, _, _, reflects⟩ := (saves.answered settings).mp (map_some_ok done)
    exact reflects.valid
  cases step with
  | load =>
      refine ⟨fun settings => ofText_eq_ok distinct parsed, ⟨document, parsed, fun _ _ => rfl⟩, fun settings done => ?_⟩
      obtain ⟨_, _, reflects⟩ := (ofText_eq_ok distinct parsed).mp (map_some_ok done)
      exact reflects.valid
  | save values =>
      obtain ⟨saves, frame⟩ := save_saves distinct parsed fun change made => keeps _ (by rw [written?, made]; rfl)
      exact ⟨saves, frame, valid saves⟩
  | set key raw =>
      dsimp only [Law, take]
      rcases read : valueOfText key raw with fault | value
      · rw [saveText_of_error host text read]
        refine ⟨⟨fun _ same => ?_, fun _ same => (nomatch same)⟩, ⟨document, parsed, fun _ _ => rfl⟩, ?_⟩
        · cases same
          rfl
        · exact fun _ done => (nomatch done)
      · obtain ⟨made, saved⟩ := saveText_of_ok host text read
        obtain ⟨saves, frame⟩ := save_saves distinct parsed fun change same =>
          keeps _ (by rw [written?, made, same]; rfl)
        rw [saved]
        refine ⟨⟨fun _ same => (nomatch same), fun _ same => ?_⟩, frame, valid saves⟩
        cases same
        exact saves
  | reset =>
      obtain ⟨cleared, frame⟩ := reset_clears distinct parsed fun left found => keeps _ (by rw [written?, found]; rfl)
      refine ⟨cleared, frame, fun settings done => ?_⟩
      unfold take at done
      rw [cleared.1] at done
      cases done

end FileStep

def run (host : Host) (text : Option String) (steps : List FileStep) : Option String :=
  steps.foldl (fun text step => (step.take host text).2) text

/-- Every document that is written in a run is kept: loaded again it holds the same data. -/
def Faithful (host : Host) : Option String → List FileStep → Prop
  | _, [] => True
  | text, step :: rest =>
      (∀ document, step.written? host text = some document → host.Keeps document) ∧
        Faithful host (step.take host text).2 rest

section

variable {host : Host}

theorem faithful_append {text : Option String} {earlier later : List FileStep} :
    Faithful host text (earlier ++ later) ↔
      Faithful host text earlier ∧ Faithful host (run host text earlier) later := by
  induction earlier generalizing text with
  | nil => simp [Faithful, run]
  | cons step rest ih =>
      rw [List.cons_append, Faithful, Faithful, ih, and_assoc]
      rfl

/-- A whole run keeps the data of the other sections. -/
theorem run_sameElsewhere (distinct : host.LoadsDistinct) {text : Option String} {steps : List FileStep}
    {document : Toml.Fields} (parsed : documentOf text host = .ok document) (faithful : Faithful host text steps) :
    ∃ later, documentOf (run host text steps) host = .ok later ∧ SameElsewhere document later := by
  induction steps generalizing text document with
  | nil => exact ⟨document, parsed, fun _ _ => rfl⟩
  | cons step rest ih =>
      obtain ⟨_, ⟨next, reads, same⟩, _⟩ := step.law distinct parsed faithful.1
      obtain ⟨later, readsLater, sameLater⟩ := ih reads faithful.2
      exact ⟨later, readsLater, fun name other => (sameLater name other).trans (same name other)⟩

end

/-- In every run on a settings file that can be read, each step is lawful: load gives the settings of the section, save
and set merge into it, reset takes it away, and nothing else changes. The format of the documents may be any that keeps
those that the run writes. -/
theorem run_lawful (host : Host) (distinct : host.LoadsDistinct) (text : Option String) (steps : List FileStep)
    {document : Toml.Fields} (parsed : documentOf text host = .ok document) (faithful : Faithful host text steps)
    {earlier : List FileStep} {step : FileStep} (taken : earlier ++ [step] <+: steps) :
    step.Lawful host document (run host text earlier) := by
  obtain ⟨later, rfl⟩ := taken
  obtain ⟨past, present, _⟩ := faithful_append.mp (List.append_assoc earlier [step] later ▸ faithful)
  obtain ⟨held, reads, same⟩ := run_sameElsewhere distinct parsed past
  obtain ⟨law, ⟨next, readsNext, sameNext⟩, valid⟩ := step.law distinct reads present
  exact ⟨⟨held, reads, same, law⟩, ⟨next, readsNext, fun name other => (sameNext name other).trans (same name other)⟩,
    valid⟩

/-! ### A run -/

theorem faithful_cons {text : Option String} {written : String} {step : FileStep} {rest : List FileStep}
    {document : Toml.Fields} (reads : (Toml.read written).toOption = some document)
    (writes : (Toml.write document).toOption = some written) (makes : step.written? .standard text = some document)
    (later : Faithful .standard (some written) rest) : Faithful .standard text (step :: rest) := by
  have done := Host.standard_dump (Outcome.ok_of_toOption writes)
  refine ⟨fun other found => ?_, FileStep.take_of_written makes done ▸ later⟩
  rw [makes] at found
  cases found
  exact ⟨written, document, done, Outcome.ok_of_toOption reads, fun _ => rfl⟩

/-- One setting is saved, another is set from a text in lower case, and both are reset. -/
def tuning : List FileStep := [.save [("max_files", .int 7)], .set "log_level" "debug", .reset]

theorem tuning_faithful : Faithful .standard (some "x = 1\n") tuning := by
  have first : (Toml.read "x = 1\n\n[graph]\nmax_files = 7\n").toOption =
      some [("x", .int 1), ("graph", .table false [("max_files", .int 7)])] := by decide +kernel
  have second : (Toml.read "x = 1\n\n[graph]\nmax_files = 7\nlog_level = \"DEBUG\"\n").toOption =
      some [("x", .int 1), ("graph", .table false [("max_files", .int 7), ("log_level", .str "DEBUG")])] := by
    decide +kernel
  have third : (Toml.read "x = 1\n").toOption = some [("x", .int 1)] := by decide +kernel
  refine faithful_cons first (by decide +kernel) (by decide +kernel) ?_
  refine faithful_cons second (by decide +kernel) (by decide +kernel) ?_
  exact faithful_cons third (by decide +kernel) (by decide +kernel) trivial

theorem run_lawful_tuning :
    Host.standard.LoadsDistinct ∧ documentOf (some "x = 1\n") .standard = .ok [("x", .int 1)] ∧
      Faithful .standard (some "x = 1\n") tuning ∧
      [FileStep.save [("max_files", .int 7)]] ++ [.set "log_level" "debug"] <+: tuning ∧
      (FileStep.set "log_level" "debug").Lawful .standard [("x", .int 1)]
        (run .standard (some "x = 1\n") [.save [("max_files", .int 7)]]) := by
  have distinct := Host.standard_loadsDistinct
  have parsed : documentOf (some "x = 1\n") .standard = .ok [("x", .int 1)] :=
    Outcome.ok_of_toOption (by decide +kernel)
  have taken : [FileStep.save [("max_files", .int 7)]] ++ [.set "log_level" "debug"] <+: tuning := ⟨[.reset], rfl⟩
  exact ⟨distinct, parsed, tuning_faithful, taken,
    run_lawful .standard distinct (some "x = 1\n") tuning parsed tuning_faithful taken⟩

end ChangeImpact.Settings
