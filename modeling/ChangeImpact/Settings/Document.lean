import ChangeImpact.Settings.Basic
import ChangeImpact.Toml.Reader
import ChangeImpact.Toml.Writer

/-!
The settings file: a document of named sections of which one holds the settings of builds. Saving keeps
the other sections as they are. How documents are loaded and dumped is not settled here, and neither is how many
processors there are: a host tells both.
-/

set_option autoImplicit false

namespace ChangeImpact.Settings

inductive SectionFault where
  | notIterable (kind : String)
  | notASequence (index : Nat)
  | badLength (index length : Nat)
  | unhashable (kind : String)

def SectionFault.message : SectionFault → String
  | .notIterable kind => s!"'{kind}' object is not iterable"
  | .notASequence index =>
      s!"cannot convert dictionary update sequence element #{index} to a sequence"
  | .badLength index length =>
      s!"dictionary update sequence element #{index} has length {length}; 2 is required"
  | .unhashable kind => s!"unhashable type: '{kind}'"

inductive ChangeFault where
  | setting (fault : Fault)
  | badSection (fault : SectionFault)
  | document (fault : Toml.Fault)

def ChangeFault.message : ChangeFault → String
  | .setting fault => fault.message
  | .badSection fault => fault.message
  | .document fault => fault.message

def letters (text : String) : List Toml.Value :=
  text.toList.map fun c => .str (String.singleton c)

def pairParts? : Toml.Value → Option (List Toml.Value)
  | .str text => some (letters text)
  | .list items => some items
  | .table _ fields => some (fields.map fun field => .str field.1)
  | _ => none

/-- One element of a list of pairs, as a field. A name that is no text is shown as one, and its value cannot
be reached by it. -/
def pairField (index : Nat) (item : Toml.Value) : Except SectionFault (String × Toml.Value) :=
  match pairParts? item with
  | none => .error (.notASequence index)
  | some [.str name, value] => .ok (name, value)
  | some [.list _, _] => .error (.unhashable "list")
  | some [.table inLine fields, _] =>
      .error (.unhashable (Toml.Value.table inLine fields).kindName)
  | some [name, _] => .ok (name.toJson.plain, .unreachable)
  | some parts => .error (.badLength index parts.length)

def pairFields (start : Nat) : List Toml.Value → Except SectionFault Toml.Fields
  | [] => .ok []
  | item :: rest => do
      let field ← pairField start item
      let others ← pairFields (start + 1) rest
      .ok (field :: others)

/-- A section as a table: it is one, or a list of pairs. -/
def tableOf : Toml.Value → Except SectionFault Toml.Fields
  | .table _ fields => .ok fields
  | .list items => do .ok (Json.Fields.merge [] (← pairFields 0 items))
  | .str text => do .ok (Json.Fields.merge [] (← pairFields 0 (letters text)))
  | other => .error (.notIterable other.kindName)

def sectionName : String := "graph"

/-- What settings files rest on: how a text is loaded as a document, what dumping a document puts into a file and
whether that fails, and the number of processors, if it is known. -/
structure Host where
  load : String → Except Toml.Fault Toml.Fields
  dump : Toml.Fields → String × Except Toml.Fault Unit
  processors : Option Nat

/-- A host with the reader and the writer of this library. -/
def Host.standard : Host :=
  { load := Toml.read
    dump := fun document =>
      match Toml.write document with
      | .ok text => (text, .ok ())
      | .error fault => ("", .error fault)
    processors := none }

/-- The document of a settings file. Without a file it is empty, and so is a malformed one. -/
def documentOf (text : Option String) (host : Host := .standard) : Except Toml.Fault Toml.Fields :=
  match text with
  | none => .ok []
  | some text =>
      match host.load text with
      | .error .malformed => .ok []
      | result => result

/-- A value of a section as the checks of settings see it. A moment is none of the values that a setting may have, and
no text in a list. -/
def settingOf : Toml.Value → Json.Value
  | .moment _ _ => .null
  | .list items =>
      .list (items.map fun item => match item with | .moment _ _ => .null | other => other.toJson)
  | other => other.toJson

def settingsOf (fields : Toml.Fields) : Json.Fields :=
  fields.map fun field => (field.1, settingOf field.2)

def ofDocument (document : Toml.Fields) (host : Host := .standard) : Except Fault Settings :=
  match document.lookup sectionName with
  | none => .ok (standard host.processors)
  | some (.table _ fields) => read host.processors (settingsOf fields)
  | some _ => .error .notATable

def ofText (text : Option String) (host : Host := .standard) : Except ChangeFault Settings :=
  match documentOf text host with
  | .error fault => .error (.document fault)
  | .ok document => (ofDocument document host).mapError .setting

def storedValue : Json.Value → Toml.Value
  | .int number => .int number
  | .str text => .str text
  | .list items => .list (items.map fun item => .str item.plain)
  | .bool value => .bool value
  | .float value => .float value
  | _ => .unreachable

structure Change where
  document : Toml.Fields
  fields : Toml.Fields

namespace Change

def ofValues (text : Option String) (values : Json.Fields) (host : Host := .standard) :
    Except ChangeFault Change := do
  let checked ← (check values).mapError ChangeFault.setting
  let document ← (documentOf text host).mapError ChangeFault.document
  let held := (document.lookup sectionName).getD .emptyTable
  let fields ← (tableOf held).mapError ChangeFault.badSection
  let changes := checked.map fun field => (field.1, storedValue field.2)
  let merged := Json.Fields.merge fields changes
  .ok { document := Json.Fields.set sectionName (.table false merged) document, fields := merged }

def ofText (text : Option String) (key raw : String) (host : Host := .standard) :
    Except ChangeFault Change := do
  let value ← (valueOfText key raw).mapError ChangeFault.setting
  ofValues text [(key, value)] host

/-- The settings after a change. A bad setting that was there before is found only now. -/
def settings (change : Change) (host : Host := .standard) : Except ChangeFault Settings :=
  (read host.processors (settingsOf change.fields)).mapError ChangeFault.setting

end Change

def withoutSection? (text : Option String) (host : Host := .standard) :
    Except Toml.Fault (Option Toml.Fields) := do
  let document ← documentOf text host
  if (document.lookup sectionName).isSome then
    .ok (some (document.filter fun field => field.1 ≠ sectionName))
  else .ok none

/-- Writes a document over a settings file. The first part is the text of the file afterwards: the file is empty when
the document is dumped into it. -/
def overwrite (document : Toml.Fields) (host : Host := .standard) : String × Except ChangeFault Unit :=
  let (text, result) := host.dump document
  (text, result.mapError .document)

/-- Carries a change out. The second part is the text of the file afterwards. -/
def apply (text : Option String) (change : Except ChangeFault Change) (host : Host := .standard) :
    Except ChangeFault Settings × Option String :=
  match change with
  | .error fault => (.error fault, text)
  | .ok change =>
      let (written, result) := overwrite change.document host
      (do result; change.settings host, some written)

def save (text : Option String) (values : Json.Fields) (host : Host := .standard) :
    Except ChangeFault Settings × Option String :=
  apply text (Change.ofValues text values host) host

def saveText (text : Option String) (key raw : String) (host : Host := .standard) :
    Except ChangeFault Settings × Option String :=
  apply text (Change.ofText text key raw host) host

/-- Takes the settings of builds out of a settings file; one without any is left alone. -/
def reset (text : Option String) (host : Host := .standard) : Except ChangeFault Unit × Option String :=
  match withoutSection? text host with
  | .error fault => (.error (.document fault), text)
  | .ok none => (.ok (), text)
  | .ok (some document) =>
      let (written, result) := overwrite document host
      (result, some written)

end ChangeImpact.Settings
