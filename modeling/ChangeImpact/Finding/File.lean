import ChangeImpact.Finding
import ChangeImpact.Json.Reader
import ChangeImpact.Project.Workspace
import ChangeImpact.Text.Integer

/-!
Files of findings: a list of entries, or an object that holds one. An entry needs a severity and a title.
-/

set_option autoImplicit false

namespace ChangeImpact.Finding

open ChangeImpact.Json (Value Fields)

inductive FileFault where
  | unreadable (path : String) (fault : PathFault)
  | malformed (path : String) (reason : String)
  | undecodable (fault : Text.DecodeFault)
  | tooManyDigits (count : Nat)
  | tooDeep (container : Json.Container)
  | notAList
  | incomplete (index : Nat)
  | unknownSeverity (index : Nat) (severity : Value)
  | invalidLine (index : Nat) (line : Value)
  | infiniteLine

/-- Whether a fault is none of the form of the file: it comes out of the reading itself, where no caller expects it. -/
def FileFault.escapes : FileFault → Bool
  | .undecodable _ => true
  | .tooManyDigits _ => true
  | .tooDeep _ => true
  | .infiniteLine => true
  | _ => false

def FileFault.message : FileFault → String
  | .unreadable path fault => s!"Cannot read findings from {path}: {fault.message path}"
  | .malformed path reason => s!"Cannot read findings from {path}: {reason}"
  | .undecodable fault => fault.message
  | .tooManyDigits count => Json.tooManyDigitsMessage count
  | .tooDeep container => Json.tooDeepMessage container
  | .notAList => "Findings file must contain a list of findings"
  | .incomplete index => s!"Finding #{index} needs at least 'severity' and 'title'"
  | .unknownSeverity index severity =>
      s!"Finding #{index} has unknown severity '{severity.plain}'"
  | .invalidLine index line => s!"Finding #{index} has invalid line {line.quoted}"
  | .infiniteLine => "cannot convert float infinity to integer"

/-- The line of an entry: any value that means a whole number. -/
def lineOf (index : Nat) : Value → Except FileFault Value
  | .null => .ok .null
  | .bool value => .ok (.int (if value then 1 else 0))
  | .int value => .ok (.int value)
  | .float (.infinite _) => .error .infiniteLine
  | .float value =>
      match value.truncate? with
      | some number => .ok (.int number)
      | none => .error (.invalidLine index (.float value))
  | .str text =>
      match Text.integer? text with
      | some number => .ok (.int number)
      | none => .error (.invalidLine index (.str text))
  | other => .error (.invalidLine index other)

def plainField (entry : Fields) (name : String) : Value :=
  .str (((entry.lookup name).map Value.plain).getD "")

def ruleOf (entry : Fields) : Value :=
  let first := (entry.lookup "ruleId").getD .null
  if first.isTruthy then first else (entry.lookup "rule_id").getD .null

def ofEntry (index : Nat) (entry : Value) : Except FileFault Finding :=
  match entry.get? "severity", entry.get? "title", entry with
  | some severity, some title, .object fields =>
      let level := Text.lower severity.plain
      if severities.contains level then do
        let line ← lineOf index ((fields.lookup "line").getD .null)
        .ok
          { severity := .str level
            title := .str title.plain
            file := (fields.lookup "file").getD .null
            line
            scanner := plainField fields "scanner"
            ruleId := ruleOf fields
            description := plainField fields "description"
            id := plainField fields "id" }
      else .error (.unknownSeverity index severity)
  | _, _, _ => .error (.incomplete index)

def ofEntries (start : Nat) : List Value → Except FileFault (List Finding)
  | [] => .ok []
  | entry :: rest => do
      let finding ← ofEntry start entry
      let others ← ofEntries (start + 1) rest
      .ok (finding :: others)

def ofValue (value : Value) : Except FileFault (List Finding) :=
  let payload :=
    match value with
    | .object fields => (fields.lookup "findings").getD (.list [])
    | other => other
  match payload with
  | .list entries => ofEntries 0 entries
  | _ => .error .notAList

def ofOctets (path : String) (octets : ByteArray) (levels : Nat := Json.maxDepth) :
    Except FileFault (List Finding) :=
  match Text.decodeStrict octets.toList with
  | .error fault => .error (.undecodable fault)
  | .ok decoded =>
      let text := Text.unifyLineEnds decoded
      match Json.read text levels with
      | .ok value => ofValue value
      | .error (.tooManyDigits count) => .error (.tooManyDigits count)
      | .error (.tooDeep container) => .error (.tooDeep container)
      | .error refusal => .error (.malformed path (refusal.message text))

def ofFile (workspace : Workspace) (path : String) (levels : Nat := Json.maxDepth) :
    Except FileFault (List Finding) :=
  match workspace.readFile path with
  | .error fault => .error (.unreadable path fault)
  | .ok (octets, _) => ofOctets path octets levels

end ChangeImpact.Finding
