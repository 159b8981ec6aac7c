import ChangeImpact.Language
import ChangeImpact.Project.Workspace

/-!
Reading the files of a project. Files are handed out and collected one after another, and before each of
these steps the reader may be told to stop.
-/

set_option autoImplicit false

namespace ChangeImpact

open ChangeImpact.Syntax (Outline)

/-- A request to stop that comes at one of the checks for it, counted from zero. -/
structure Cancellation where
  atCheck : Option Nat := none
  checks : Nat := 0
  deriving DecidableEq, Repr

namespace Cancellation

def isDue (cancel : Cancellation) : Bool :=
  match cancel.atCheck with
  | none => false
  | some check => check ≤ cancel.checks

/-- One check: nothing is left of a token whose request is there. -/
def check (cancel : Cancellation) : Option Cancellation :=
  if cancel.isDue then none else some { cancel with checks := cancel.checks + 1 }

def checkEach {α : Type} : List α → Cancellation → Option Cancellation
  | [], cancel => some cancel
  | _ :: rest, cancel => do
      let next ← cancel.check
      checkEach rest next

end Cancellation

structure Extractor where
  table : LanguageTable
  extract : String → ByteArray → Option Outline → Extraction

namespace Extractor

def ofTable (table : LanguageTable) : Extractor :=
  { table
    extract := fun file octets outline =>
      Extraction.ofFile table file octets (outline.getD { hasError := false, rows := [] }) }

/-- An extractor that takes the extractions from a list; the last one of a file counts, and a file
that is not there gives nothing. -/
def ofResults (table : LanguageTable) (results : List Extraction) : Extractor :=
  { table
    extract := fun file _ _ =>
      (results.reverse.find? fun result => result.file == file).getD { file, language := "unknown" } }

end Extractor

namespace Sources

def parsedText (octets : ByteArray) : String :=
  Text.unifyLineEnds (Text.decodeTolerant octets.toList)

inductive Interruption where
  | cancelled
  | path (path : String) (fault : PathFault)

/-- What one file of a project gives. A file that cannot be read gives only the reason. -/
def extractFile (extractor : Extractor) (workspace : Workspace) (project file : String) :
    Except Interruption Extraction :=
  let path := Path.join project file
  match workspace.readFile path with
  | .ok (octets, outline) => .ok (extractor.extract file (parsedText octets).toUTF8 outline)
  | .error .nullCharacter => .error (.path path .nullCharacter)
  | .error fault =>
      let reason := fault.message (workspace.shownPath path)
      .ok
        { file
          language := (extractor.table.languageOf? file).getD Extraction.unknownLanguage
          errors := [s!"Cannot read file: {reason}"] }

def checked (cancel : Option Cancellation) : Except Interruption Cancellation :=
  match cancel with
  | some next => .ok next
  | none => .error .cancelled

def collect (cancel : Cancellation) (extract : String → Except Interruption Extraction) :
    List String → Except Interruption (List Extraction)
  | [] => .ok []
  | file :: rest => do
      let next ← checked cancel.check
      let extraction ← extract file
      let others ← collect next extract rest
      .ok (extraction :: others)

def extractAll (extractor : Extractor) (workspace : Workspace) (project : String)
    (cancel : Cancellation) (files : List String) : Except Interruption (List Extraction) := do
  let handedOut ← checked (Cancellation.checkEach files cancel)
  collect handedOut (extractFile extractor workspace project) files

end Sources

end ChangeImpact
