import ChangeImpact.Proofs.DocumentNames
import ChangeImpact.Settings.Document

/-!
Which settings a section gives, said of its names alone: a setting that is named has its value as it is accepted, and
the others have their defaults. Reading a section without double names gives just these settings.
-/

set_option autoImplicit false

namespace ChangeImpact.Settings

open ChangeImpact.Json (Value Fields)

/-- The values that a setting may have, with those that are stored for them. -/
inductive Accepts : (key : String) → (value stored : Value) → Prop
  | number {key : String} {number : Int} (known : key ∈ integerKeys) (positive : 0 < number) :
      Accepts key (.int number) (.int number)
  | exclude (texts : List String) : Accepts "exclude" (.list (texts.map .str)) (.list (texts.map .str))
  | policy (policy : Policy) : Accepts "resolution_policy" (.str policy.name) (.str policy.name)
  | level {text : String} (known : Text.upper text ∈ logLevels) :
      Accepts "log_level" (.str text) (.str (Text.upper text))

theorem texts?_eq_some {value : Value} {texts : List String} :
    texts? value = some texts ↔ value = .list (texts.map .str) := by
  cases value with
  | list items =>
      rw [Value.list.injEq]
      induction items generalizing texts with
      | nil => cases texts <;> simp [texts?]
      | cons item rest ih =>
          unfold texts? at ih ⊢
          dsimp only at ih ⊢
          rw [List.mapM_cons]
          cases item <;> cases texts <;> simp [Option.bind_eq_some_iff, ih, and_comm]
  | _ => simp [texts?]

theorem policy?_eq_some {value : Value} {policy : Policy} : policy? value = some policy ↔ value = .str policy.name := by
  cases value with
  | str text =>
      rw [Value.str.injEq]
      constructor
      · intro found
        have named : Policy.all.find? (fun known => known.name == text) = some policy := found
        have matched := List.find?_some named
        exact (beq_iff_eq.mp matched).symm
      · rintro rfl
        cases policy <;> decide
  | _ => simp [policy?]

theorem logLevel?_eq_some {value : Value} {level : String} :
    logLevel? value = some level ↔ ∃ text, value = .str text ∧ Text.upper text = level ∧ level ∈ logLevels := by
  cases value with
  | str text =>
      unfold logLevel?
      constructor
      · intro found
        dsimp only at found
        split at found
        · rename_i known
          cases found
          exact ⟨text, rfl, rfl, List.contains_iff_mem.mp known⟩
        · cases found
      · rintro ⟨_, ⟨⟩, rfl, known⟩
        exact if_pos (List.contains_iff_mem.mpr known)
  | _ => simp [logLevel?]

/-- What checking a value gives is what is stored for it. -/
theorem checkValue_eq_ok {key : String} {value stored : Value} :
    checkValue key value = .ok stored ↔ Accepts key value stored := by
  constructor
  · intro done
    unfold checkValue at done
    split at done
    · rename_i known
      split at done
      · split at done
        · rename_i positive
          cases done
          exact .number (List.contains_iff_mem.mp known) positive
        · cases done
      · cases done
    split at done
    · rename_i same
      subst same
      split at done
      · rename_i texts found
        cases done
        rw [texts?_eq_some.mp found]
        exact .exclude texts
      · cases done
    split at done
    · rename_i same
      subst same
      split at done
      · rename_i policy found
        cases done
        rw [policy?_eq_some.mp found]
        exact .policy policy
      · cases done
    split at done
    · rename_i same
      subst same
      split at done
      · rename_i level found
        cases done
        obtain ⟨text, rfl, rfl, known⟩ := logLevel?_eq_some.mp found
        exact .level known
      · cases done
    · cases done
  · rintro (⟨known, positive⟩ | texts | policy | known)
    · unfold checkValue
      rw [if_pos (List.contains_iff_mem.mpr known)]
      exact if_pos positive
    · unfold checkValue
      rw [texts?_eq_some.mpr rfl]
      rfl
    · unfold checkValue
      rw [policy?_eq_some.mpr rfl]
      rfl
    · unfold checkValue
      rw [logLevel?_eq_some.mpr ⟨_, rfl, rfl, known⟩]
      rfl

namespace Accepts

variable {key : String} {value stored : Value}

theorem unique {other : Value} (accepted : Accepts key value stored) (again : Accepts key value other) :
    stored = other :=
  Except.ok.inj ((checkValue_eq_ok.mpr accepted).symm.trans (checkValue_eq_ok.mpr again))

/-- What is stored is accepted, and stays as it is. -/
theorem again (accepted : Accepts key value stored) : Accepts key stored stored := by
  cases accepted with
  | number known positive => exact .number known positive
  | exclude texts => exact .exclude texts
  | policy policy => exact .policy policy
  | @level text known =>
      have fixed : ∀ level ∈ logLevels, Text.upper level = level := by decide
      have stays := fixed _ known
      have stored : Accepts "log_level" (.str (Text.upper text)) (.str (Text.upper (Text.upper text))) :=
        .level (stays.symm ▸ known)
      rw [stays] at stored
      exact stored

theorem exists_number (accepted : Accepts key value stored) (known : key ∈ integerKeys) :
    ∃ number, 0 < number ∧ stored = .int number := by
  cases accepted with
  | number _ positive => exact ⟨_, positive, rfl⟩
  | exclude texts => exact absurd known (by decide)
  | policy policy => exact absurd known (by decide)
  | level _ => exact absurd known (by decide)

theorem exists_level (accepted : Accepts "log_level" value stored) : ∃ level ∈ logLevels, stored = .str level := by
  generalize same : "log_level" = key at accepted
  cases accepted with
  | number known => exact absurd (same ▸ known) (by decide)
  | exclude texts => exact absurd same (by decide)
  | policy policy => exact absurd same (by decide)
  | level known => exact ⟨_, known, rfl⟩

theorem toFields_withValue (accepted : Accepts key value stored) (settings : Settings) :
    (settings.withValue key stored).toFields = Json.Fields.set key stored settings.toFields := by
  cases accepted with
  | @number _ number known positive =>
      simp only [integerKeys, List.mem_cons, List.not_mem_nil, or_false] at known
      rcases known with rfl | rfl | rfl <;> rfl
  | exclude texts =>
      unfold withValue
      rw [texts?_eq_some.mpr rfl]
      rfl
  | policy policy =>
      unfold withValue
      rw [policy?_eq_some.mpr rfl]
      rfl
  | level known => rfl

end Accepts

/-! ### Sections -/

abbrev Stored (fields checked : Fields) : Prop :=
  List.Forall₂ (fun field stored => stored.1 = field.1 ∧ Accepts field.1 field.2 stored.2) fields checked

theorem check_eq_ok {fields checked : Fields} : check fields = .ok checked ↔ Stored fields checked := by
  induction fields generalizing checked with
  | nil =>
      constructor
      · intro done
        cases done
        exact .nil
      · rintro ⟨⟩
        rfl
  | cons field rest ih =>
      obtain ⟨key, value⟩ := field
      unfold check
      constructor
      · intro done
        obtain ⟨stored, accepted, done⟩ := Outcome.bind_ok done
        obtain ⟨others, checked, done⟩ := Outcome.bind_ok done
        cases done
        exact .cons ⟨rfl, checkValue_eq_ok.mp accepted⟩ (ih.mp checked)
      · intro stored
        cases stored with
        | @cons _ first _ others here later =>
            obtain ⟨name, held⟩ := first
            obtain ⟨rfl, accepted⟩ := here
            rw [Outcome.bind_of_ok (checkValue_eq_ok.mpr accepted), Outcome.bind_of_ok (ih.mpr later)]

theorem exists_stored {fields : Fields} (each : ∀ field ∈ fields, ∃ stored, Accepts field.1 field.2 stored) :
    ∃ checked, Stored fields checked := by
  induction fields with
  | nil => exact ⟨[], .nil⟩
  | cons field rest ih =>
      obtain ⟨⟨stored, accepted⟩, others⟩ := List.forall_mem_cons.mp each
      obtain ⟨checked, later⟩ := ih others
      exact ⟨(field.1, stored) :: checked, .cons ⟨rfl, accepted⟩ later⟩

namespace Stored

variable {fields checked : Fields}

theorem names (stored : Stored fields checked) : checked.map Prod.fst = fields.map Prod.fst := by
  induction stored with
  | nil => rfl
  | cons here _ ih => rw [List.map_cons, List.map_cons, ih, here.1]

theorem lookup (stored : Stored fields checked) (key : String) :
    Option.Rel (Accepts key) (fields.lookup key) (checked.lookup key) := by
  induction stored with
  | nil => exact .none
  | @cons field held _ _ here _ ih =>
      rw [List.lookup_cons, List.lookup_cons, here.1]
      by_cases same : key = field.1
      · rw [same, beq_self_eq_true]
        exact .some here.2
      · rw [beq_false_of_ne same]
        exact ih

theorem mem_accepts (stored : Stored fields checked) {field : String × Value} (member : field ∈ checked) :
    ∃ value, Accepts field.1 value field.2 := by
  obtain ⟨original, _, same, accepted⟩ := Outcome.exists_item stored member
  exact ⟨original.2, same ▸ accepted⟩

/-- Settings that take the values of a section one after another are a table that these are merged into. -/
theorem toFields_foldl (stored : Stored fields checked) (settings : Settings) :
    (checked.foldl (fun settings field => settings.withValue field.1 field.2) settings).toFields =
      Json.Fields.merge settings.toFields checked := by
  induction stored generalizing settings with
  | nil => rfl
  | cons here _ ih =>
      rw [List.foldl_cons, ih, here.1, here.2.toFields_withValue]
      unfold Json.Fields.merge
      rw [List.foldl_cons, here.1]

end Stored

/-! ### Settings of a view -/

/-- The settings that a view of a section gives on a machine with so many processors. -/
structure Reflects (settings : Settings) (processors : Option Nat) (view : String → Option Value) : Prop where
  named : ∀ key value, view key = some value →
    ∃ stored, Accepts key value stored ∧ settings.toFields.lookup key = some stored
  unnamed : ∀ key, view key = none → settings.toFields.lookup key = (standard processors).toFields.lookup key

theorem eq_of_lookup {settings other : Settings}
    (same : ∀ key, settings.toFields.lookup key = other.toFields.lookup key) : settings = other := by
  have policies : settings.policy.name = other.policy.name := by
    simpa [toFields, List.lookup_cons] using same "resolution_policy"
  have samePolicy : settings.policy = other.policy := by
    revert policies
    cases settings.policy <;> cases other.policy <;> decide
  have texts : settings.exclude.map Value.str = other.exclude.map Value.str := by
    simpa [toFields, List.lookup_cons] using same "exclude"
  have sameTexts : settings.exclude = other.exclude :=
    List.map_injective_iff.mpr (fun _ _ => Value.str.inj) texts
  have sizes : settings.maxFileSize = other.maxFileSize := by
    simpa [toFields, List.lookup_cons] using same "max_file_size"
  have counts : settings.maxFiles = other.maxFiles := by
    simpa [toFields, List.lookup_cons] using same "max_files"
  have workers : settings.workers = other.workers := by
    simpa [toFields, List.lookup_cons] using same "workers"
  have levels : settings.logLevel = other.logLevel := by
    simpa [toFields, List.lookup_cons] using same "log_level"
  cases settings
  cases other
  simp_all

/-- Settings that builds can work with. The patterns are texts and the policy is a known one by their types. -/
structure Valid (settings : Settings) : Prop where
  maxFileSize : 0 < settings.maxFileSize
  maxFiles : 0 < settings.maxFiles
  workers : 0 < settings.workers
  logLevel : settings.logLevel ∈ logLevels

theorem standardWorkers_pos (processors : Option Nat) : 0 < standardWorkers processors := by
  unfold standardWorkers
  split <;> omega

theorem standard_positive (processors : Option Nat) : ∀ key ∈ integerKeys, ∃ number, 0 < number ∧
    (standard processors).toFields.lookup key = some (.int number) := by
  have workers := standardWorkers_pos processors
  simp [integerKeys, standard, toFields, List.lookup_cons, workers]

namespace Reflects

variable {settings : Settings} {processors : Option Nat} {view : String → Option Value}

theorem unique {other : Settings} (reflects : settings.Reflects processors view)
    (again : other.Reflects processors view) : settings = other := by
  refine eq_of_lookup fun key => ?_
  rcases found : view key with _ | value
  · rw [reflects.unnamed key found, again.unnamed key found]
  · obtain ⟨stored, accepted, here⟩ := reflects.named key value found
    obtain ⟨held, acceptedAgain, there⟩ := again.named key value found
    rw [here, there, accepted.unique acceptedAgain]

theorem shown (reflects : settings.Reflects processors view) (key : String) :
    settings.toFields.lookup key = (standard processors).toFields.lookup key ∨
      ∃ value stored, Accepts key value stored ∧ settings.toFields.lookup key = some stored := by
  rcases found : view key with _ | value
  · exact Or.inl (reflects.unnamed key found)
  · obtain ⟨stored, accepted, here⟩ := reflects.named key value found
    exact Or.inr ⟨value, stored, accepted, here⟩

theorem positive (reflects : settings.Reflects processors view) (key : String) (known : key ∈ integerKeys)
    {number : Int} (here : settings.toFields.lookup key = some (.int number)) : 0 < number := by
  rcases reflects.shown key with default | ⟨value, stored, accepted, found⟩
  · obtain ⟨standard, positive, found⟩ := standard_positive processors key known
    rw [here, found] at default
    cases default
    exact positive
  · obtain ⟨stored, positive, rfl⟩ := accepted.exists_number known
    rw [here] at found
    cases found
    exact positive

theorem valid (reflects : settings.Reflects processors view) : settings.Valid := by
  refine ⟨reflects.positive "max_file_size" (by decide) rfl, reflects.positive "max_files" (by decide) rfl,
    reflects.positive "workers" (by decide) rfl, ?_⟩
  have here : settings.toFields.lookup "log_level" = some (.str settings.logLevel) := rfl
  rcases reflects.shown "log_level" with default | ⟨value, stored, accepted, found⟩
  · rw [here] at default
    have same : settings.logLevel = "INFO" := Value.str.inj (Option.some.inj default)
    rw [same]
    decide
  · obtain ⟨level, known, rfl⟩ := accepted.exists_level
    rw [here] at found
    cases found
    exact known

end Reflects

/-- A section without double names is read if and only if all its values are accepted, and it gives the settings that
its view gives. -/
theorem read_eq_ok {processors : Option Nat} {fields : Fields} (distinct : (fields.map Prod.fst).Nodup)
    {settings : Settings} :
    read processors fields = .ok settings ↔ settings.Reflects processors fun key => fields.lookup key := by
  have reflects : ∀ checked, Stored fields checked →
      (ofSection processors checked).Reflects processors fun key => fields.lookup key := by
    intro checked stored
    have distinctStored : (checked.map Prod.fst).Nodup := stored.names ▸ distinct
    have shown : ∀ key, (ofSection processors checked).toFields.lookup key =
        (checked.lookup key).or ((standard processors).toFields.lookup key) := by
      -- The last value under a name wins, and without double names it is the only one.
      intro key
      rw [ofSection, stored.toFields_foldl, Json.Fields.lookup_merge, Json.Fields.lookup_reverse distinctStored]
    constructor
    · intro key value found
      have related := stored.lookup key
      rw [found] at related
      generalize held : checked.lookup key = there at related
      cases related with
      | @some _ stored accepted => exact ⟨stored, accepted, by rw [shown, held, Option.some_or]⟩
    · intro key absent
      have related := stored.lookup key
      rw [absent] at related
      generalize held : checked.lookup key = there at related
      cases related
      rw [shown, held, Option.none_or]
  unfold read
  constructor
  · intro done
    obtain ⟨checked, checking, same⟩ := Outcome.bind_ok done
    cases same
    exact reflects checked (check_eq_ok.mp checking)
  · intro given
    have each : ∀ field ∈ fields, ∃ stored, Accepts field.1 field.2 stored := by
      intro field member
      obtain ⟨stored, accepted, _⟩ := given.named field.1 field.2 (Json.Fields.lookup_of_mem distinct member)
      exact ⟨stored, accepted⟩
    obtain ⟨checked, stored⟩ := exists_stored each
    rw [Outcome.bind_of_ok (check_eq_ok.mpr stored), given.unique (reflects checked stored)]

end ChangeImpact.Settings
