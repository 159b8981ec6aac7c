import ChangeImpact.Command.Arguments
import ChangeImpact.Command.Number
import ChangeImpact.Impact.Basic
import ChangeImpact.Project.Workspace
import ChangeImpact.Session.Request
import ChangeImpact.Text.Half
import ChangeImpact.Workbench

/-!
The commands, and how they are read from the words of a command line.
-/

set_option autoImplicit false

namespace ChangeImpact

inductive Command where
  | build (request : BuildRequest) (workers : Option Int)
  | stats (analysis : String)
  | impact (analysis file : String) (function : Option String) (depth : Int) (asDocument : Bool)
  | deadCode (analysis : String)
  | chain (analysis node : String) (file : Option String) (depth : Int)
  | export (analysis : String) (format : Session.Format) (output : Option String) (focus : String)
  | analyses
  | delete (analysis : String)
  | importFindings (analysis path : String)
  | listFindings (analysis : String) (file severity : Option String)
  | showSettings
  | setSetting (key raw : String)
  | resetSettings

namespace Command

/-- The number given for an option, if one is given; nothing when it is zero, too large, or no number. -/
def number? (words : Words) (key : String) (greatest : Option Nat) : Option (Option Int) :=
  match words.value? key with
  | none => some none
  | some text => do
      let number ← positive? text
      if number = 0 || greatest.any (· < number) then none else some (some (Int.ofNat number))

/-- Whether a word can be a path: it holds no null character, and no half of a character other than those
that stand for single octets. -/
def isPathWord (word : String) : Bool :=
  word.toList.all fun c =>
    match Text.half? c with
    | some half => 0xDC80 ≤ half && half ≤ 0xDCFF
    | none => c ≠ Char.ofNat 0

def exactly (count : Nat) (rules : List OptionRule) (words : List String) : Option Words := do
  let read ← readWords rules true words
  if read.others.length = count then some read else none

def buildRules : List OptionRule :=
  [{ key := "id", long := "--id" }, { key := "exclude", long := "--exclude", short := some 'e' },
    { key := "include", long := "--include", short := some 'i' },
    { key := "max-files", long := "--max-files" },
    { key := "max-file-size", long := "--max-file-size" }, { key := "workers", long := "--workers" }]

def readBuild (workspace : Workspace) (words : List String) : Option Command := do
  let read ← exactly 1 buildRules words
  let path ← read.others.head?
  let maxFiles ← number? read "max-files" none
  let maxFileSize ← number? read "max-file-size" none
  let workers ← number? read "workers" none
  if !isPathWord path || (workspace.folder? path).isNone then none
  else
    some
      (.build
        { path
          analysis := read.value? "id"
          includePatterns := read.values "include"
          exclude := read.values "exclude"
          maxFileSize
          maxFiles }
        workers)

def readImpact (words : List String) : Option Command := do
  let read ← exactly 2
    [{ key := "function", long := "--function", short := some 'f' },
      { key := "depth", long := "--depth" },
      { key := "json", long := "--json", takesValue := false }] words
  let depth ← number? read "depth" (some 20)
  match read.others with
  | [analysis, file] =>
      some (.impact analysis file (read.value? "function") (depth.getD Impact.defaultDepth)
        (read.has "json"))
  | _ => none

def readChain (words : List String) : Option Command := do
  let read ← exactly 2
    [{ key := "file", long := "--file" }, { key := "depth", long := "--depth" }] words
  let depth ← number? read "depth" (some 50)
  match read.others with
  | [analysis, node] =>
      some (.chain analysis node (read.value? "file") (depth.getD Impact.defaultChainDepth))
  | _ => none

def format? (name : String) : Option Session.Format :=
  match Text.lower name with
  | "dot" => some .dot
  | "json" => some .document
  | _ => none

def readExport (words : List String) : Option Command := do
  let read ← exactly 1
    [{ key := "format", long := "--format", short := some 'f' },
      { key := "output", long := "--output", short := some 'o' },
      { key := "focus", long := "--focus" }] words
  let analysis ← read.others.head?
  let format ← format? ((read.value? "format").getD "dot")
  if !((read.value? "output").all isPathWord) then none
  else some (.export analysis format (read.value? "output") ((read.value? "focus").getD ""))

def readImport (workspace : Workspace) (words : List String) : Option Command := do
  let read ← exactly 2 [] words
  match read.others with
  | [analysis, path] =>
      match workspace.readFile path with
      | .ok _ => if isPathWord path then some (.importFindings analysis path) else none
      | .error _ => none
  | _ => none

def readList (words : List String) : Option Command := do
  let read ← exactly 1
    [{ key := "file", long := "--file" }, { key := "severity", long := "--severity" }] words
  let analysis ← read.others.head?
  some (.listFindings analysis (read.value? "file") (read.value? "severity"))

def readSingle (command : String → Command) (words : List String) : Option Command := do
  let read ← exactly 1 [] words
  (read.others.head?).map command

def readBare (command : Command) (words : List String) : Option Command := do
  let _ ← exactly 0 [] words
  some command

def readGroup (commands : String → List String → Option Command) (words : List String) :
    Option Command := do
  let read ← readWords [] false words
  match read.others with
  | [] => none
  | name :: rest => commands name rest

def findingsCommands (workspace : Workspace) : String → List String → Option Command
  | "import", words => readImport workspace words
  | "list", words => readList words
  | _, _ => none

def settingsCommands : String → List String → Option Command
  | "show", words => readBare .showSettings words
  | "set", words => do
      let read ← exactly 2 [] words
      match read.others with
      | [key, raw] => some (.setSetting key raw)
      | _ => none
  | "reset", words => readBare .resetSettings words
  | _, _ => none

def commands (workspace : Workspace) : String → List String → Option Command
  | "build", words => readBuild workspace words
  | "stats", words => readSingle .stats words
  | "impact", words => readImpact words
  | "dead-code", words => readSingle .deadCode words
  | "chain", words => readChain words
  | "export", words => readExport words
  | "analyses", words => readBare .analyses words
  | "delete", words => readSingle .delete words
  | "findings", words => readGroup (findingsCommands workspace) words
  | "config", words => readGroup settingsCommands words
  | _, _ => none

def names : List String :=
  ["build", "stats", "impact", "dead-code", "chain", "export", "analyses", "delete", "findings",
    "config"]

inductive Line where
  | version
  | named (name : String) (words : List String)
  deriving DecidableEq, Repr

def lineOf? (words : List String) : Option Line := do
  let read ← readWords
    [{ key := "version", long := "--version", takesValue := false },
      { key := "verbose", long := "--verbose", short := some 'v', takesValue := false }] false words
  if read.has "version" then some .version
  else
    match read.others with
    | [] => none
    | name :: rest => if names.contains name then some (.named name rest) else none

end Command

end ChangeImpact
