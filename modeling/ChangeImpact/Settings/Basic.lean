import ChangeImpact.Json.Shown
import ChangeImpact.NameIndex
import ChangeImpact.Text.Blank
import ChangeImpact.Text.Case
import ChangeImpact.Text.Integer

/-!
The settings of builds: what they are, which values each may have, and how a setting is read from text.
-/

set_option autoImplicit false

namespace ChangeImpact

open ChangeImpact.Json (Value Fields)

/-- As many workers as the machine has processors; where it does not tell their number, four. -/
def standardWorkers : Option Nat → Int
  | some (processors + 1) => processors + 1
  | _ => 4

structure Settings where
  maxFileSize : Int := 1024 * 1024
  maxFiles : Int := 5000
  exclude : List String := []
  workers : Int := standardWorkers none
  policy : Policy := .firstDeclared
  logLevel : String := "INFO"
  deriving DecidableEq, Repr, Inhabited

namespace Settings

inductive Fault where
  | notPositive (key : String) (value : Value)
  | excludeNotTexts
  | unknownPolicy (value : Value)
  | unknownLogLevel
  | unknownSetting (key : String)
  | notATable
  | notAnInteger (key : String)

def logLevels : List String := ["DEBUG", "INFO", "WARNING", "ERROR"]

def Fault.message : Fault → String
  | .notPositive key value => s!"[graph].{key} must be a positive integer, got {value.quoted}"
  | .excludeNotTexts => "[graph].exclude must be a list of strings"
  | .unknownPolicy value =>
      let names := Text.join ", " (Policy.all.map Policy.name)
      s!"[graph].resolution_policy must be one of {names}, got {value.quoted}"
  | .unknownLogLevel =>
      let names := Text.join ", " logLevels
      s!"[graph].log_level must be one of {names}"
  | .unknownSetting key => s!"Unknown [graph] setting: {key}"
  | .notATable => "[graph] must be a table"
  | .notAnInteger key => s!"{key} must be an integer"

def integerKeys : List String := ["max_file_size", "max_files", "workers"]

def texts? : Value → Option (List String)
  | .list items => items.mapM fun item => match item with | .str text => some text | _ => none
  | _ => none

def logLevel? : Value → Option String
  | .str text => if logLevels.contains (Text.upper text) then some (Text.upper text) else none
  | _ => none

def policy? : Value → Option Policy
  | .str text => Policy.ofName? text
  | _ => none

def checkValue (key : String) (value : Value) : Except Fault Value :=
  if integerKeys.contains key then
    match value with
    | .int number => if 0 < number then .ok value else .error (.notPositive key value)
    | _ => .error (.notPositive key value)
  else if key = "exclude" then
    match texts? value with
    | some _ => .ok value
    | none => .error .excludeNotTexts
  else if key = "resolution_policy" then
    match policy? value with
    | some _ => .ok value
    | none => .error (.unknownPolicy value)
  else if key = "log_level" then
    match logLevel? value with
    | some level => .ok (.str level)
    | none => .error .unknownLogLevel
  else .error (.unknownSetting key)

/-- The values under which the settings of a section are stored; the first bad one is the fault. -/
def check : Fields → Except Fault Fields
  | [] => .ok []
  | (key, value) :: rest => do
      let stored ← checkValue key value
      let others ← check rest
      .ok ((key, stored) :: others)

def withValue (settings : Settings) (key : String) (value : Value) : Settings :=
  match key, value with
  | "max_file_size", .int number => { settings with maxFileSize := number }
  | "max_files", .int number => { settings with maxFiles := number }
  | "workers", .int number => { settings with workers := number }
  | "exclude", _ => { settings with exclude := (texts? value).getD settings.exclude }
  | "resolution_policy", _ => { settings with policy := (policy? value).getD settings.policy }
  | "log_level", .str level => { settings with logLevel := level }
  | _, _ => settings

def standard (processors : Option Nat) : Settings :=
  { workers := standardWorkers processors }

def ofSection (processors : Option Nat) (fields : Fields) : Settings :=
  fields.foldl (fun settings field => settings.withValue field.1 field.2) (standard processors)

/-- The settings of a section that is not known to be good. -/
def read (processors : Option Nat) (fields : Fields) : Except Fault Settings := do
  .ok (ofSection processors (← check fields))

def toFields (settings : Settings) : Fields :=
  [("max_file_size", .int settings.maxFileSize), ("max_files", .int settings.maxFiles),
    ("exclude", .list (settings.exclude.map .str)), ("workers", .int settings.workers),
    ("resolution_policy", .str settings.policy.name), ("log_level", .str settings.logLevel)]

/-- A list of patterns written with commas between them; empty ones do not count. -/
def excludeOfText (raw : String) : List String :=
  ((Text.split ',' raw).map Text.strip).filter (· ≠ "")

def valueOfText (key raw : String) : Except Fault Value :=
  if integerKeys.contains key then
    match Text.integer? raw with
    | some number => .ok (.int number)
    | none => .error (.notAnInteger key)
  else if key = "exclude" then .ok (.list ((excludeOfText raw).map .str))
  else .ok (.str raw)

/-- The level of logging in effect: that of the surroundings before the configured one. -/
def effectiveLogLevel (surroundings configured : Option String) : String :=
  let given := (surroundings.filter (· ≠ "")).or (configured.filter (· ≠ ""))
  let level := Text.upper (given.getD "INFO")
  if logLevels.contains level then level else "INFO"

end Settings

end ChangeImpact
