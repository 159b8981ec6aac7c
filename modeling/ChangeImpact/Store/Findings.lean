import ChangeImpact.Store.Basic
import ChangeImpact.Text.Like

/-!
Findings in the store. A finding whose id is already there takes the place of the old one and goes to the
end.
-/

set_option autoImplicit false

namespace ChangeImpact.Store

open ChangeImpact.Json (Value)

def findingRow (now : String) (finding : Finding) : Except Cause StoredFinding := do
  let id ← Cell.bind 1 finding.id
  Cell.bindTexts [finding.analysis]
  let scanner ← Cell.bind 3 finding.scanner
  let severity ← Cell.bind 4 finding.severity
  let title ← Cell.bind 5 finding.title
  let description ← Cell.bind 6 finding.description
  let file ← Cell.bind 7 finding.file
  let line ← Cell.bind 8 finding.line
  let ruleId ← Cell.bind 9 finding.ruleId
  let idText ← id.required "findings.id"
  let scannerText ← scanner.required "findings.scanner"
  let severityText ← severity.required "findings.severity"
  let titleText ← title.required "findings.title"
  .ok
    { id := idText
      analysis := finding.analysis
      scanner := scannerText
      severity := severityText
      title := titleText
      description := description.asText
      file := file.asText
      line := line.asNumber
      ruleId := ruleId.asText
      createdAt := now }

def StoredFinding.finding (row : StoredFinding) : Finding :=
  { severity := .str row.severity
    title := .str row.title
    file := .ofOption row.file
    line := row.line
    scanner := .str row.scanner
    ruleId := .ofOption row.ruleId
    description := .str (row.description.getD "")
    id := .str row.id
    analysis := row.analysis }

namespace Image

/-- Adds a finding at the end; one of the same id goes. -/
def replaceFinding (row : StoredFinding) (image : Image) : Image :=
  { image with
    findings := (image.findings.filter fun known => known.id ≠ row.id) ++ [row] }

def insertFinding (now : String) (finding : Finding) (image : Image) : Except Cause Image := do
  .ok (image.replaceFinding (← findingRow now finding))

end Image

/-- Findings as they are stored for an analysis: one without an id takes the next. -/
def identified (analysis : String) : List Finding → Action Fault (List Finding)
  | [] => pure []
  | finding :: rest => do
      if Finding.isSeverity finding.severity then
        let id ← if finding.id.isTruthy then pure finding.id else do pure (Value.str (← freshId))
        let others ← identified analysis rest
        pure ({ finding with id, analysis } :: others)
      else throw (.unknownSeverity finding.severity.plain finding.title.plain)

def addFindings (analysis : String) (findings : List Finding) (now : String) :
    Action Fault (List Finding) := do
  let stored ← identified analysis findings
  transaction do
    execute .insertFindings .ok
    executeEach .insertFindings (Image.insertFinding now) stored
  pure stored

/-- The order in which findings are read: by severity, then by time. -/
def precedes (left right : StoredFinding) : Bool :=
  let leftRank := Finding.rank left.severity
  let rightRank := Finding.rank right.severity
  leftRank < rightRank || (leftRank == rightRank && decide (left.createdAt ≤ right.createdAt))

def Image.findingsOf (analysis : String) (severity : Option String) (image : Image) :
    List StoredFinding :=
  let wanted := fun (row : StoredFinding) =>
    row.analysis == analysis &&
      (match severity.filter (· ≠ "") with
        | none => true
        | some text => row.severity == text)
  (image.findings.filter wanted).mergeSort precedes

def fileIsLike (pattern : String) (row : StoredFinding) : Bool :=
  match row.file with
  | none => false
  | some file => Text.like pattern file

/-- The findings of an analysis, perhaps only those of a severity or of files that hold a text. The text
must not be too long to be looked for, unless there is nothing to look at. -/
def findFindings (analysis : String) (held severity : Option String) :
    Action Fault (List StoredFinding) := do
  let activity := Activity.readFindings analysis
  let pattern := (held.filter (· ≠ "")).map fun text => "%" ++ text ++ "%"
  let parameters := analysis :: (severity.filter (· ≠ "")).toList ++ pattern.toList
  let rows ← query (.failed activity .closed) parameters (Image.findingsOf analysis severity)
  match pattern with
  | none => pure rows
  | some pattern =>
      if Text.maxLikeOctets < pattern.utf8ByteSize && !rows.isEmpty then
        throw (.failed activity .patternTooLong)
      else pure (rows.filter (fileIsLike pattern))

end ChangeImpact.Store
