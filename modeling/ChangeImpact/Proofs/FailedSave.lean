import ChangeImpact.Proofs.SettingsRuns

/-!
What a save that fails leaves behind. New values are checked before anything is written, but the section that they are
merged into is checked only when it has been written, and a document that cannot be written has emptied the file by
then. So a save may fail and still have changed what the file holds.
-/

set_option autoImplicit false

namespace ChangeImpact.Settings

open ChangeImpact.Json (Value Fields)
open ChangeImpact.Toml (Key Shape)
open ChangeImpact.Toml.Value (data)

/-- An empty text is loaded as a document without entries. -/
def Host.LoadsEmpty (host : Host) : Prop := host.load "" = .ok []

/-- A document that cannot be dumped leaves the file empty. -/
def Host.FailsEmpty (host : Host) : Prop :=
  ∀ document cause, (host.dump document).2 = .error cause → (host.dump document).1 = ""

theorem Host.standard_loadsEmpty : Host.standard.LoadsEmpty := Outcome.ok_of_toOption (by decide +kernel)

theorem Host.standard_failsEmpty : Host.standard.FailsEmpty := by
  intro document cause fails
  unfold Host.standard at fails ⊢
  dsimp only at fails ⊢
  cases written : Toml.write document with
  | ok text =>
      rw [written] at fails
      cases fails
  | error other => rfl

/-- What a settings file holds: the data under each name, unless it cannot be read. -/
def content (text : Option String) (host : Host) : Except Toml.Fault (String → Option (List Key → Option Shape)) :=
  (documentOf text host).map fun document name => (document.lookup name).map data

/-- An entry that a save leaves in the section is none that a setting may have. -/
def LeavesBad (values : Fields) (held : Toml.Fields) : Prop :=
  ∃ key value, key ∉ values.map Prod.fst ∧ viewOf held key = some value ∧ ¬ ∃ stored, Accepts key value stored

/-- The section of a document is a table that has every new value already. -/
def AlreadyHolds (document : Toml.Fields) (checked : Fields) : Prop :=
  ∃ inLine fields, document.lookup sectionName = some (.table inLine fields) ∧
    ∀ key value, checked.reverse.lookup key = some value → fields.lookup key = some (storedValue value)

/-! ### Sections that are refused -/

theorem exists_read_iff {processors : Option Nat} {fields : Fields} (distinct : (fields.map Prod.fst).Nodup) :
    (∃ settings, read processors fields = .ok settings) ↔
      ∀ key value, fields.lookup key = some value → ∃ stored, Accepts key value stored := by
  constructor
  · rintro ⟨settings, done⟩ key value found
    obtain ⟨stored, accepted, _⟩ := ((read_eq_ok distinct).mp done).named key value found
    exact ⟨stored, accepted⟩
  · intro each
    obtain ⟨checked, stored⟩ := exists_stored fun field member =>
      each field.1 field.2 (Json.Fields.lookup_of_mem distinct member)
    exact ⟨ofSection processors checked, Outcome.bind_of_ok (check_eq_ok.mpr stored)⟩

section

variable {document : Toml.Fields} {values checked : Fields} {held : Toml.Fields}

theorem Update.new_eq_none_iff (update : Update document values checked held) {key : String} :
    checked.reverse.lookup key = none ↔ key ∉ values.map Prod.fst := by
  rw [← (check_eq_ok.mp update.checks).names, List.lookup_eq_none_iff, List.mem_map]
  constructor
  · rintro apart ⟨field, member, rfl⟩
    simpa using apart field (List.mem_reverse.mpr member)
  · intro absent field member
    exact bne_iff_ne.mpr fun same => absent ⟨field, List.mem_reverse.mp member, same.symm⟩

/-- The new values are good, so what is refused of a merged section was there before. -/
theorem Update.settings_error_iff (update : Update document values checked held)
    (proper : (Toml.Value.table false document).Distinct) (host : Host) :
    (∃ fault, (Update.change document checked held).settings host = .error fault) ↔ LeavesBad values held := by
  have names : ((settingsOf (merged checked held)).map Prod.fst).Nodup := by
    simpa [settingsOf, Function.comp_def] using update.distinct proper
  have shown : ∀ key, (settingsOf (merged checked held)).lookup key = updated checked held key := fun key =>
    (congrFun (lookup_settingsOf _) key).trans (congrFun update.viewOf_merged key)
  have goes : (∃ fault, (Update.change document checked held).settings host = .error fault) ↔
      ¬ ∃ settings, read host.processors (settingsOf (merged checked held)) = .ok settings := by
    unfold Change.settings Update.change
    cases read host.processors (settingsOf (merged checked held)) <;> simp [Except.mapError]
  rw [goes, exists_read_iff names]
  simp only [shown, not_forall]
  constructor
  · rintro ⟨key, value, found, refused⟩
    rcases new : checked.reverse.lookup key with _ | stored
    · exact ⟨key, value, update.new_eq_none_iff.mp new, by simpa [updated, new] using found, refused⟩
    · obtain ⟨given, accepted⟩ := update.accepts new
      have same : stored = value := by simpa [updated, new] using found
      exact absurd ⟨stored, same ▸ accepted.again⟩ refused
  · rintro ⟨key, value, unmentioned, found, refused⟩
    refine ⟨key, value, ?_, refused⟩
    rw [updated, update.new_eq_none_iff.mpr unmentioned, Option.none_or, found]

/-! ### What is written -/

theorem content_of_documentOf {host : Host} {text : Option String} (parsed : documentOf text host = .ok document) :
    content text host = .ok fun name => (document.lookup name).map data := by
  unfold content
  rw [parsed]
  rfl

/-- A new value is told by its data. -/
theorem Update.stored_iff_data (update : Update document values checked held) {key : String} {value : Value}
    (new : checked.reverse.lookup key = some value) (found : Option Toml.Value) :
    found.map data = some (storedValue value).data ↔ found = some (storedValue value) := by
  constructor
  · intro same
    obtain ⟨other, rfl, sameData⟩ := Option.map_eq_some_iff.mp same
    obtain ⟨given, accepted⟩ := update.accepts new
    have shown := settingOf_storedValue accepted
    have again : Accepts key (settingOf (storedValue value)) value := shown.symm ▸ accepted.again
    exact congrArg some (again.eq_of_data sameData.symm)
  · rintro rfl
    rfl

/-- An update leaves the data of a document alone exactly if its section has every new value already. -/
theorem Update.sameData_iff (update : Update document values checked held) :
    (∀ name, ((Update.change document checked held).document.lookup name).map data =
        (document.lookup name).map data) ↔ AlreadyHolds document checked := by
  constructor
  · intro same
    have here := same sectionName
    rw [Update.change, Json.Fields.lookup_set_self] at here
    obtain ⟨value, found, sameData⟩ := Option.map_eq_some_iff.mp here.symm
    obtain ⟨inLine, fields, rfl, inside⟩ := Toml.Value.fields_of_data sameData.symm
    refine ⟨inLine, fields, found, fun key value new => ?_⟩
    rw [← update.stored_iff_data new, ← inside key, lookup_merged, new]
    rfl
  · rintro ⟨inLine, fields, found, has⟩ name
    obtain rfl : fields = held := by
      have holds := update.holds
      rw [found] at holds
      exact Except.ok.inj holds
    by_cases own : name = sectionName
    · subst own
      rw [Update.change, Json.Fields.lookup_set_self, found]
      refine congrArg some (Toml.Value.table_data.mpr fun key => ?_)
      rw [lookup_merged]
      rcases new : checked.reverse.lookup key with _ | value
      · rfl
      · rw [has key value new]
        rfl
    · rw [Update.change, Json.Fields.lookup_set_of_ne own]

end

/-! ### Saves that fail -/

section

variable {host : Host} {text : Option String} {document : Toml.Fields} {values checked : Fields} {held : Toml.Fields}

theorem save_of_refused
    (refused : ∀ document checked held, documentOf text host = .ok document → ¬ Update document values checked held) :
    (∃ fault, (save text values host).1 = .error fault) ∧ (save text values host).2 = text := by
  unfold save
  rcases made : Change.ofValues text values host with fault | change
  · exact ⟨⟨fault, rfl⟩, rfl⟩
  · exfalso
    rcases parsed : documentOf text host with fault | document
    · obtain ⟨_, _, made⟩ := Outcome.bind_ok made
      obtain ⟨_, reads, _⟩ := Outcome.bind_ok made
      cases parsed.symm.trans (Outcome.mapError_eq_ok.mp reads)
    · obtain ⟨checked, held, update, _⟩ := (ofValues_eq_ok parsed).mp made
      exact refused document checked held parsed update

theorem save_of_update (parsed : documentOf text host = .ok document) (update : Update document values checked held)
    {written : String} {result : Except Toml.Fault Unit}
    (dumped : host.dump (Update.change document checked held).document = (written, result)) :
    save text values host =
      (do result.mapError .document; (Update.change document checked held).settings host, some written) := by
  unfold save
  rw [(ofValues_eq_ok parsed).mpr ⟨checked, held, update, rfl⟩]
  exact apply_of_dump dumped text

theorem content_eq_empty_iff (empty : host.LoadsEmpty) (parsed : documentOf text host = .ok document) :
    content (some "") host = content text host ↔ document = [] := by
  rw [content_of_documentOf (documentOf_of_load empty), content_of_documentOf parsed, Except.ok.injEq, funext_iff]
  constructor
  · intro nothing
    cases document with
    | nil => rfl
    | cons field rest =>
        have here := nothing field.1
        rw [List.lookup_cons_self] at here
        cases here
  · rintro rfl name
    rfl

end

/-- How a save fails, and what the file holds then. If new values are refused, or what is there cannot be read or taken
for a section, nothing is written. Otherwise the file is overwritten before anything else can fail. A document that
cannot be dumped leaves it empty. One that can be dumped stays, and the save fails exactly if the section has another
entry that is bad; the content is then the earlier one exactly if the section had the new values already. -/
theorem failed_save_exact (host : Host) (distinct : host.LoadsDistinct) (empty : host.LoadsEmpty)
    (clean : host.FailsEmpty) (text : Option String) (values : Fields) :
    ((∀ document checked held, documentOf text host = .ok document → ¬ Update document values checked held) →
      (∃ fault, (save text values host).1 = .error fault) ∧ (save text values host).2 = text) ∧
    ∀ document checked held, documentOf text host = .ok document → Update document values checked held →
      (∀ cause, (host.dump (Update.change document checked held).document).2 = .error cause →
        save text values host = (.error (.document cause), some "") ∧
          (content (save text values host).2 host = content text host ↔ document = [])) ∧
      ∀ written, host.dump (Update.change document checked held).document = (written, .ok ()) →
        (save text values host).2 = some written ∧
          ((∃ fault, (save text values host).1 = .error fault) ↔ LeavesBad values held) ∧
          (host.Keeps (Update.change document checked held).document →
            (content (save text values host).2 host = content text host ↔ AlreadyHolds document checked)) := by
  refine ⟨save_of_refused, fun document checked held parsed update => ⟨fun cause fails => ?_, fun written writes => ?_⟩⟩
  · have dumped : host.dump (Update.change document checked held).document = ("", .error cause) :=
      Prod.ext (clean _ cause fails) fails
    have saved : save text values host = (.error (.document cause), some "") := save_of_update parsed update dumped
    rw [saved]
    exact ⟨rfl, content_eq_empty_iff empty parsed⟩
  · have saved : save text values host = ((Update.change document checked held).settings host, some written) :=
      save_of_update parsed update writes
    rw [saved]
    refine ⟨rfl, update.settings_error_iff (documentOf_distinct distinct parsed) host, ?_⟩
    rintro ⟨again, back, writesAgain, reads, same⟩
    cases writes.symm.trans writesAgain
    rw [content_of_documentOf (documentOf_of_load reads), content_of_documentOf parsed, Except.ok.injEq, funext_iff,
      ← update.sameData_iff]
    simp only [same]

/-- A section with a name that no setting has, and a good value for it. -/
theorem failed_save_exact_unknownName :
    Host.standard.LoadsDistinct ∧ Host.standard.LoadsEmpty ∧ Host.standard.FailsEmpty ∧
      (save (some "[graph]\nx = 1\n") [("workers", .int 3)] .standard).2 =
        some "[graph]\nx = 1\nworkers = 3\n" ∧
      ∃ fault, (save (some "[graph]\nx = 1\n") [("workers", .int 3)] .standard).1 = .error fault := by
  have parsed : documentOf (some "[graph]\nx = 1\n") .standard =
      .ok [("graph", .table false [("x", .int 1)])] := Outcome.ok_of_toOption (by decide +kernel)
  have update : Update [("graph", .table false [("x", .int 1)])] [("workers", .int 3)] [("workers", .int 3)]
      [("x", .int 1)] := ⟨rfl, rfl⟩
  have writes := Host.standard_dump (Outcome.ok_of_toOption (by decide +kernel :
    (Toml.write [("graph", .table false [("x", .int 1), ("workers", .int 3)])]).toOption =
      some "[graph]\nx = 1\nworkers = 3\n"))
  have bad : LeavesBad [("workers", .int 3)] [("x", .int 1)] := by
    refine ⟨"x", .int 1, by decide, rfl, ?_⟩
    rintro ⟨stored, accepted⟩
    generalize named : "x" = key at accepted
    cases accepted with
    | number known _ =>
        subst named
        exact absurd known (by decide)
  obtain ⟨held, fails, _⟩ := ((failed_save_exact .standard Host.standard_loadsDistinct Host.standard_loadsEmpty
    Host.standard_failsEmpty (some "[graph]\nx = 1\n") [("workers", .int 3)]).2 _ _ _ parsed update).2 _ writes
  exact ⟨Host.standard_loadsDistinct, Host.standard_loadsEmpty, Host.standard_failsEmpty, held, fails.mpr bad⟩

/-! ### Two files -/

def heldAt (text : Option String) (name : String) (place : List Key) : Option (Option Shape) :=
  (content text .standard).toOption.map fun held => (held name).bind fun data => data place

theorem content_ne {before after : Option String} (name : String) (place : List Key)
    (differs : heldAt after name place ≠ heldAt before name place) :
    content after .standard ≠ content before .standard := fun same =>
  differs (congrArg (fun held => held.toOption.map fun data => (data name).bind fun data => data place) same)

/-- An entry that no setting may have comes to light when the new value is in the file, and a text in another section
that cannot be written takes all sections with it. -/
theorem failed_save_changes :
    ((save (some "[graph]\nx = 1\n") [("workers", .int 3)] .standard).1.isOk = false ∧
      content (save (some "[graph]\nx = 1\n") [("workers", .int 3)] .standard).2 .standard ≠
        content (some "[graph]\nx = 1\n") .standard) ∧
    ((save (some "[a]\nb = \"\\u0001\"\n") [("workers", .int 3)] .standard).1.isOk = false ∧
      content (save (some "[a]\nb = \"\\u0001\"\n") [("workers", .int 3)] .standard).2 .standard ≠
        content (some "[a]\nb = \"\\u0001\"\n") .standard) := by
  refine ⟨⟨by decide +kernel, content_ne "graph" [.name "workers"] ?_⟩,
    by decide +kernel, content_ne "a" [.name "b"] ?_⟩
  · decide +kernel
  · decide +kernel

end ChangeImpact.Settings
