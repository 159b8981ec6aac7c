import ChangeImpact.Proofs.FindingFile
import ChangeImpact.Proofs.Octets

/-!
How a file of findings is refused. What comes out of a file that is accepted is one finding for each entry. Of the
faults of the others most are about the form of the file, but four escape from the reading: octets that are no text, a
whole number with too many digits, values too deep inside each other, and an infinite line.
-/

set_option autoImplicit false

namespace ChangeImpact.Finding

open ChangeImpact.Json (Value Fields)

/-! ### Entries -/

def levelOf (entry : Value) : Option String := (entry.get? "severity").map fun severity => Text.lower severity.plain

def lineIn (entry : Value) : Value := (entry.get? "line").getD .null

def IsGraded (entry : Value) : Prop :=
  (∃ level ∈ severities, levelOf entry = some level) ∧ (entry.get? "title").isSome = true

def lineNumber? : Value → Option Int
  | .bool value => some (if value then 1 else 0)
  | .int number => some number
  | .float number => number.truncate?
  | .str text => Text.integer? text
  | _ => none

def meansLine : Value → Bool
  | .null => true
  | value => (lineNumber? value).isSome

def isInfinite : Value → Bool
  | .float (.infinite _) => true
  | _ => false

def IsAccepted (entry : Value) : Prop := IsGraded entry ∧ meansLine (lineIn entry) = true

/-- An entry that is in order but for an infinite line. -/
def IsEndless (entry : Value) : Prop := IsGraded entry ∧ isInfinite (lineIn entry) = true

/-- The first entry that is not accepted is endless. -/
def StopsAtInfinity (entries : List Value) : Prop :=
  ∃ before entry after, entries = before ++ entry :: after ∧ (∀ other ∈ before, IsAccepted other) ∧ IsEndless entry

def BecomesLine (value line : Value) : Prop :=
  value = .null ∧ line = .null ∨ ∃ number, lineNumber? value = some number ∧ line = .int number

structure Grades (entry : Value) (finding : Finding) : Prop where
  severity : ∃ level ∈ severities, levelOf entry = some level ∧ finding.severity = .str level
  line : BecomesLine (lineIn entry) finding.line

/-- The three outcomes of a line. -/
theorem lineOf_outcome (index : Nat) (value : Value) :
    (meansLine value = true ∧ ∃ line, lineOf index value = .ok line ∧ BecomesLine value line) ∨
    (isInfinite value = true ∧ lineOf index value = .error .infiniteLine) ∨
    (meansLine value = false ∧ isInfinite value = false ∧ lineOf index value = .error (.invalidLine index value)) := by
  cases value with
  | null => exact Or.inl ⟨rfl, _, rfl, Or.inl ⟨rfl, rfl⟩⟩
  | bool value => exact Or.inl ⟨rfl, _, rfl, Or.inr ⟨_, rfl, rfl⟩⟩
  | int number => exact Or.inl ⟨rfl, _, rfl, Or.inr ⟨_, rfl, rfl⟩⟩
  | float number =>
      cases number with
      | finite negative mantissa exponent => exact Or.inl ⟨rfl, _, rfl, Or.inr ⟨_, rfl, rfl⟩⟩
      | infinite negative => exact Or.inr (Or.inl ⟨rfl, rfl⟩)
      | undefined => exact Or.inr (Or.inr ⟨rfl, rfl, rfl⟩)
  | str text =>
      have means : meansLine (.str text) = (Text.integer? text).isSome := rfl
      rw [means, lineOf]
      cases read : Text.integer? text with
      | some number => exact Or.inl ⟨rfl, .int number, rfl, Or.inr ⟨number, read, rfl⟩⟩
      | none => exact Or.inr (Or.inr ⟨rfl, rfl, rfl⟩)
  | list items => exact Or.inr (Or.inr ⟨rfl, rfl, rfl⟩)
  | object fields => exact Or.inr (Or.inr ⟨rfl, rfl, rfl⟩)

theorem IsAccepted.not_isEndless {entry : Value} (accepted : IsAccepted entry) : ¬ IsEndless entry := by
  intro endless
  have means := accepted.2
  have infinite := endless.2
  generalize lineIn entry = line at means infinite
  cases line with
  | float number =>
      cases number with
      | infinite negative => cases means
      | finite _ _ _ | undefined => cases infinite
  | null | bool _ | int _ | str _ | list _ | object _ => cases infinite

/-- An entry with title and severity depends on its line alone. -/
theorem ofEntry_of_isGraded (index : Nat) {entry : Value} (graded : IsGraded entry) :
    ∃ level ∈ severities, levelOf entry = some level ∧ ∃ complete : Value → Finding,
      (∀ line, (complete line).severity = .str level ∧ (complete line).line = line) ∧
      ofEntry index entry = (do .ok (complete (← lineOf index (lineIn entry)))) := by
  obtain ⟨⟨level, known, stated⟩, titled⟩ := graded
  obtain ⟨severity, hasSeverity, same⟩ := Option.map_eq_some_iff.mp stated
  obtain ⟨title, hasTitle⟩ := Option.isSome_iff_exists.mp titled
  refine ⟨level, known, stated, ?_⟩
  cases entry with
  | object fields =>
      have listed : severities.contains (Text.lower severity.plain) = true := by
        rw [same]
        exact List.contains_iff_mem.mpr known
      unfold ofEntry
      rw [hasSeverity, hasTitle]
      dsimp only
      rw [if_pos listed]
      exact ⟨_, fun line => ⟨congrArg Value.str same, rfl⟩, rfl⟩
  | null | bool _ | int _ | float _ | str _ | list _ => cases hasTitle

theorem ofEntry_of_not_isGraded (index : Nat) {entry : Value} (ungraded : ¬ IsGraded entry) :
    ∃ fault, ofEntry index entry = .error fault ∧ fault.escapes = false := by
  cases entry with
  | object fields =>
      unfold ofEntry
      cases severity : (Value.object fields).get? "severity" with
      | none => exact ⟨_, rfl, rfl⟩
      | some severity =>
          cases title : (Value.object fields).get? "title" with
          | none => exact ⟨_, rfl, rfl⟩
          | some title =>
              dsimp only
              split
              · rename_i found known
                exact absurd ⟨⟨_, List.contains_iff_mem.mp known, congrArg (Option.map _) severity⟩,
                  congrArg Option.isSome title⟩ ungraded
              · exact ⟨_, rfl, rfl⟩
  | null | bool _ | int _ | float _ | str _ | list _ => exact ⟨_, rfl, rfl⟩

/-- The three outcomes of an entry. -/
theorem ofEntry_outcome (index : Nat) (entry : Value) :
    (IsAccepted entry ∧ ∃ finding, ofEntry index entry = .ok finding ∧ Grades entry finding) ∨
    (IsEndless entry ∧ ofEntry index entry = .error .infiniteLine) ∨
    (¬ IsAccepted entry ∧ ¬ IsEndless entry ∧
      ∃ fault, ofEntry index entry = .error fault ∧ fault.escapes = false) := by
  by_cases graded : IsGraded entry
  · obtain ⟨level, known, stated, complete, parts, same⟩ := ofEntry_of_isGraded index graded
    rw [same]
    rcases lineOf_outcome index (lineIn entry) with
      ⟨means, line, read, whole⟩ | ⟨infinite, read⟩ | ⟨meaningless, finite, read⟩
    · rw [read]
      refine Or.inl ⟨⟨graded, means⟩, complete line, rfl, ⟨level, known, stated, (parts line).1⟩, ?_⟩
      rw [(parts line).2]
      exact whole
    · rw [read]
      exact Or.inr (Or.inl ⟨⟨graded, infinite⟩, rfl⟩)
    · rw [read]
      refine Or.inr (Or.inr ⟨?_, ?_, _, rfl, rfl⟩)
      · exact fun accepted => Bool.false_ne_true (meaningless.symm.trans accepted.2)
      · exact fun endless => Bool.false_ne_true (finite.symm.trans endless.2)
  · exact Or.inr (Or.inr ⟨fun accepted => graded accepted.1, fun endless => graded endless.1,
      ofEntry_of_not_isGraded index graded⟩)

/-! ### Lists of entries -/

theorem stopsAtInfinity_cons {entry : Value} {rest : List Value} :
    StopsAtInfinity (entry :: rest) ↔ IsEndless entry ∨ IsAccepted entry ∧ StopsAtInfinity rest := by
  constructor
  · rintro ⟨before, stop, after, cut, accepted, endless⟩
    cases before with
    | nil =>
        obtain ⟨rfl, rfl⟩ := List.cons.inj cut
        exact Or.inl endless
    | cons first before =>
        obtain ⟨rfl, rfl⟩ := List.cons.inj cut
        obtain ⟨here, later⟩ := List.forall_mem_cons.mp accepted
        exact Or.inr ⟨here, before, stop, after, rfl, later, endless⟩
  · rintro (endless | ⟨here, before, stop, after, rfl, later, endless⟩)
    · exact ⟨[], entry, rest, rfl, List.forall_mem_nil _, endless⟩
    · exact ⟨entry :: before, stop, after, rfl, List.forall_mem_cons.mpr ⟨here, later⟩, endless⟩

/-- Where all entries are accepted, none has an infinite line. -/
theorem not_stopsAtInfinity {entries : List Value} (accepted : ∀ entry ∈ entries, IsAccepted entry) :
    ¬ StopsAtInfinity entries := by
  rintro ⟨before, stop, after, rfl, _, endless⟩
  exact (accepted stop (List.mem_append_right _ List.mem_cons_self)).not_isEndless endless

/-- The three outcomes of a list of entries. -/
theorem ofEntries_outcome (start : Nat) (entries : List Value) :
    ((∀ entry ∈ entries, IsAccepted entry) ∧
      ∃ findings, ofEntries start entries = .ok findings ∧ List.Forall₂ Grades entries findings) ∨
    (StopsAtInfinity entries ∧ ofEntries start entries = .error .infiniteLine) ∨
    (¬ (∀ entry ∈ entries, IsAccepted entry) ∧ ¬ StopsAtInfinity entries ∧
      ∃ fault, ofEntries start entries = .error fault ∧ fault.escapes = false) := by
  induction entries generalizing start with
  | nil => exact Or.inl ⟨List.forall_mem_nil _, [], rfl, List.Forall₂.nil⟩
  | cons entry rest ih =>
      rw [List.forall_mem_cons, stopsAtInfinity_cons, ofEntries]
      rcases ofEntry_outcome start entry with
        ⟨accepted, finding, read, grades⟩ | ⟨endless, read⟩ | ⟨refused, finite, fault, read, told⟩
      · rw [read]
        rcases ih (start + 1) with
          ⟨others, findings, later, rows⟩ | ⟨stops, later⟩ | ⟨refused, goes, fault, later, told⟩
        · refine Or.inl ⟨⟨accepted, others⟩, finding :: findings, ?_, List.Forall₂.cons grades rows⟩
          exact Outcome.bind_of_ok later
        · refine Or.inr (Or.inl ⟨Or.inr ⟨accepted, stops⟩, ?_⟩)
          exact congrArg (fun others => others >>= fun others => Except.ok (finding :: others)) later
        · refine Or.inr (Or.inr ⟨fun all => refused all.2, ?_, fault, ?_, told⟩)
          · rintro (endless | ⟨_, stops⟩)
            · exact accepted.not_isEndless endless
            · exact goes stops
          · exact congrArg (fun others => others >>= fun others => Except.ok (finding :: others)) later
      · rw [read]
        exact Or.inr (Or.inl ⟨Or.inl endless, rfl⟩)
      · rw [read]
        refine Or.inr (Or.inr ⟨fun all => refused all.1, ?_, fault, rfl, told⟩)
        rintro (endless | ⟨accepted, _⟩)
        · exact finite endless
        · exact refused accepted

/-! ### Files -/

/-- The content of a file whose fault escapes. -/
inductive Escapes (octets : ByteArray) (levels : Nat) : Prop where
  | noText (unwritten : ∀ text, octets.toList ≠ Text.encode text)
  | tooManyDigits {text : String} {count : Nat} (written : octets.toList = Text.encode text)
      (refused : Json.read (Text.unifyLineEnds text) levels = .error (.tooManyDigits count))
  | tooDeep {text : String} {container : Json.Container} (written : octets.toList = Text.encode text)
      (refused : Json.read (Text.unifyLineEnds text) levels = .error (.tooDeep container))
  | infiniteLine {entries : List Value} (listed : entriesIn octets levels = some entries)
      (stops : StopsAtInfinity entries)

theorem entriesIn_of_text {octets : ByteArray} {levels : Nat} {text : String}
    (decoded : Text.decodeStrict octets.toList = .ok text) :
    entriesIn octets levels = (Json.read (Text.unifyLineEnds text) levels).toOption.bind entriesOf := by
  unfold entriesIn
  rw [decoded]
  rfl

/-- What a text may lead to that its octets are read as. -/
theorem escapes_of_text {octets : ByteArray} {levels : Nat} {text : String}
    (decoded : Text.decodeStrict octets.toList = .ok text) (escapes : Escapes octets levels) :
    (∃ count, Json.read (Text.unifyLineEnds text) levels = .error (.tooManyDigits count)) ∨
    (∃ container, Json.read (Text.unifyLineEnds text) levels = .error (.tooDeep container)) ∨
    ∃ value entries, Json.read (Text.unifyLineEnds text) levels = .ok value ∧ entriesOf value = some entries ∧
      StopsAtInfinity entries := by
  have same : ∀ other, octets.toList = Text.encode other → other = text := fun other written =>
    Except.ok.inj ((Text.decodeStrict_ok_iff.mpr written).symm.trans decoded)
  cases escapes with
  | noText unwritten => exact absurd (Text.decodeStrict_ok_iff.mp decoded) (unwritten text)
  | tooManyDigits written refused => exact Or.inl ⟨_, same _ written ▸ refused⟩
  | tooDeep written refused => exact Or.inr (Or.inl ⟨_, same _ written ▸ refused⟩)
  | infiniteLine listed stops =>
      rw [entriesIn_of_text decoded] at listed
      obtain ⟨value, parsed, listed⟩ := Option.bind_eq_some_iff.mp listed
      exact Or.inr (Or.inr ⟨value, _, Outcome.ok_of_toOption parsed, listed, stops⟩)

theorem escapes_iff_of_listed {octets : ByteArray} {levels : Nat} {entries : List Value}
    (listed : entriesIn octets levels = some entries) :
    Escapes octets levels ↔ StopsAtInfinity entries := by
  refine ⟨fun escapes => ?_, Escapes.infiniteLine listed⟩
  obtain ⟨text, decoded, parsed⟩ := Option.bind_eq_some_iff.mp listed
  obtain ⟨value, parsed, own⟩ := Option.bind_eq_some_iff.mp parsed
  have read := Outcome.ok_of_toOption parsed
  rcases escapes_of_text (Outcome.ok_of_toOption decoded) escapes with
    ⟨_, refused⟩ | ⟨_, refused⟩ | ⟨other, others, again, found, stops⟩
  · cases read.symm.trans refused
  · cases read.symm.trans refused
  · cases read.symm.trans again
    cases own.symm.trans found
    exact stops

theorem ofValue_of_unlisted {value : Value} (unlisted : entriesOf value = none) :
    ofValue value = .error .notAList := by
  cases value with
  | list items => cases unlisted
  | object fields =>
      unfold entriesOf at unlisted
      unfold ofValue
      dsimp only at unlisted ⊢
      generalize (fields.lookup "findings").getD (.list []) = payload at unlisted ⊢
      cases payload with
      | list items => cases unlisted
      | null | bool _ | int _ | float _ | str _ | object _ => rfl
  | null | bool _ | int _ | float _ | str _ => rfl

/-- A file that lists no entries is refused, and its fault escapes if the octets or the reader are to blame. -/
theorem ofOctets_of_unlisted (path : String) {octets : ByteArray} {levels : Nat}
    (unlisted : entriesIn octets levels = none) :
    ∃ fault, ofOctets path octets levels = .error fault ∧ (fault.escapes = true ↔ Escapes octets levels) := by
  unfold ofOctets
  cases decoded : Text.decodeStrict octets.toList with
  | error fault =>
      have unwritten : ∀ text, octets.toList ≠ Text.encode text := by
        intro text written
        cases decoded.symm.trans (Text.decodeStrict_ok_iff.mpr written)
      exact ⟨_, rfl, iff_of_true rfl (.noText unwritten)⟩
  | ok text =>
      have written := Text.decodeStrict_ok_iff.mp decoded
      have causes (escapes : Escapes octets levels) := escapes_of_text decoded escapes
      rw [entriesIn_of_text decoded] at unlisted
      dsimp only
      cases read : Json.read (Text.unifyLineEnds text) levels with
      | error refusal =>
          rw [read] at causes
          cases refusal with
          | tooManyDigits count => exact ⟨_, rfl, iff_of_true rfl (.tooManyDigits written read)⟩
          | tooDeep container => exact ⟨_, rfl, iff_of_true rfl (.tooDeep written read)⟩
          | malformed cause position =>
              refine ⟨_, rfl, iff_of_false Bool.false_ne_true fun escapes => ?_⟩
              rcases causes escapes with ⟨_, other⟩ | ⟨_, other⟩ | ⟨_, _, other, _⟩ <;> cases other
      | ok value =>
          rw [read] at causes unlisted
          refine ⟨_, ofValue_of_unlisted unlisted, iff_of_false Bool.false_ne_true fun escapes => ?_⟩
          rcases causes escapes with ⟨_, other⟩ | ⟨_, other⟩ | ⟨_, _, same, listed, _⟩
          · cases other
          · cases other
          · cases same
            cases unlisted.symm.trans listed

theorem ofOctets_ok_iff (path : String) (octets : ByteArray) (levels : Nat) :
    (∃ findings, ofOctets path octets levels = .ok findings) ↔
      ∃ entries, entriesIn octets levels = some entries ∧ ∀ entry ∈ entries, IsAccepted entry := by
  constructor
  · rintro ⟨findings, read⟩
    cases listed : entriesIn octets levels with
    | none =>
        obtain ⟨fault, refused, _⟩ := ofOctets_of_unlisted path listed
        cases read.symm.trans refused
    | some entries =>
        rw [ofOctets_eq path listed] at read
        rcases ofEntries_outcome 0 entries with ⟨accepted, _⟩ | ⟨_, refused⟩ | ⟨_, _, fault, refused, _⟩
        · exact ⟨entries, rfl, accepted⟩
        · cases read.symm.trans refused
        · cases read.symm.trans refused
  · rintro ⟨entries, listed, accepted⟩
    rw [ofOctets_eq path listed]
    rcases ofEntries_outcome 0 entries with ⟨_, findings, read, _⟩ | ⟨stops, _⟩ | ⟨refused, _⟩
    · exact ⟨findings, read⟩
    · exact absurd stops (not_stopsAtInfinity accepted)
    · exact absurd accepted refused

theorem ofOctets_grades {path : String} {octets : ByteArray} {levels : Nat} {findings : List Finding}
    (read : ofOctets path octets levels = .ok findings) :
    ∃ entries, entriesIn octets levels = some entries ∧ List.Forall₂ Grades entries findings := by
  obtain ⟨entries, listed, accepted⟩ := (ofOctets_ok_iff path octets levels).mp ⟨findings, read⟩
  rw [ofOctets_eq path listed] at read
  rcases ofEntries_outcome 0 entries with ⟨_, others, again, grades⟩ | ⟨stops, _⟩ | ⟨refused, _⟩
  · cases again.symm.trans read
    exact ⟨entries, listed, grades⟩
  · exact absurd stops (not_stopsAtInfinity accepted)
  · exact absurd accepted refused

theorem ofOctets_escapes_iff (path : String) (octets : ByteArray) (levels : Nat) :
    (∃ fault, ofOctets path octets levels = .error fault ∧ fault.escapes = true) ↔ Escapes octets levels := by
  cases listed : entriesIn octets levels with
  | none =>
      obtain ⟨fault, refused, blame⟩ := ofOctets_of_unlisted path listed
      rw [refused, ← blame]
      constructor
      · rintro ⟨other, same, escapes⟩
        cases same
        exact escapes
      · exact fun escapes => ⟨fault, rfl, escapes⟩
  | some entries =>
      rw [ofOctets_eq path listed, escapes_iff_of_listed listed]
      rcases ofEntries_outcome 0 entries with
        ⟨accepted, findings, read, _⟩ | ⟨stops, refused⟩ | ⟨_, goes, fault, refused, told⟩
      · rw [read]
        refine iff_of_false ?_ (not_stopsAtInfinity accepted)
        rintro ⟨fault, same, _⟩
        cases same
      · exact iff_of_true ⟨_, refused, rfl⟩ stops
      · rw [refused]
        refine iff_of_false ?_ goes
        rintro ⟨other, same, escapes⟩
        cases same
        exact Bool.false_ne_true (told.symm.trans escapes)

/-- A file of findings is accepted exactly if it lists entries that are all accepted, and then has one finding for each
entry, in order. Any other file has a fault. It is one of the form of the file, except where the octets are no text, the
reader finds a number too long or values too deep, or an entry has an infinite line: there it escapes. -/
theorem findings_file_faults (path : String) (octets : ByteArray) (levels : Nat) :
    ((∃ findings, ofOctets path octets levels = .ok findings) ↔
      ∃ entries, entriesIn octets levels = some entries ∧ ∀ entry ∈ entries, IsAccepted entry) ∧
    (∀ findings, ofOctets path octets levels = .ok findings →
      ∃ entries, entriesIn octets levels = some entries ∧ List.Forall₂ Grades entries findings) ∧
    (∀ fault, ofOctets path octets levels = .error fault → (fault.escapes = true ↔ Escapes octets levels)) := by
  refine ⟨ofOctets_ok_iff path octets levels, fun findings read => ofOctets_grades read, fun fault refused => ?_⟩
  rw [← ofOctets_escapes_iff path octets levels]
  constructor
  · exact fun escapes => ⟨fault, refused, escapes⟩
  · rintro ⟨other, again, escapes⟩
    cases refused.symm.trans again
    exact escapes

/-- An octet that starts no text, and an entry with an infinite line: both faults escape. -/
theorem findings_file_faults_escape :
    (Outcome.fault? (ofOctets "findings.json" ⟨#[0xFF]⟩)).map (fun fault => (fault.escapes, fault.message)) =
      some (true, "'utf-8' codec can't decode byte 0xff in position 0: invalid start byte") ∧
    (Outcome.fault? (ofOctets "findings.json"
        "[\x7b\"severity\":\"high\",\"title\":\"t\",\"line\":Infinity\x7d]".toUTF8)).map
        (fun fault => (fault.escapes, fault.message)) =
      some (true, "cannot convert float infinity to integer") := by
  decide +kernel

end ChangeImpact.Finding
