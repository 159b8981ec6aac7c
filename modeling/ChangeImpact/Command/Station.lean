import ChangeImpact.Finding.File
import ChangeImpact.Settings.Document
import ChangeImpact.Text.Terminal
import ChangeImpact.Workbench

/-!
Where commands work: a workspace with a home directory, which holds the file of the store and the settings
file, and two channels to write to.
-/

set_option autoImplicit false

namespace ChangeImpact.Command

structure Station where
  workspace : Workspace
  store : Store := {}
  host : Settings.Host := .standard

def homePath : String := "home"

def storePath : String := homePath ++ "/graph.db"

def settingsPath : String := homePath ++ "/config.toml"

inductive StoreFileFault where
  | unreachable
  | notADatabase
  deriving DecidableEq, Repr

def StoreFileFault.message : StoreFileFault → String
  | .unreachable => "unable to open database file"
  | .notADatabase => "file is not a database"

/-- A fault that ends a command without being told as its error. -/
inductive Escape where
  | core (fault : ChangeImpact.Fault)
  | findings (fault : Finding.FileFault)
  | settings (fault : Settings.ChangeFault)
  | undecodable (fault : Text.DecodeFault)
  | unencodable (fault : Text.EncodeFault)
  | storeFile (fault : StoreFileFault)
  | path (place : String) (fault : PathFault)

def Escape.message : Escape → String
  | .core fault => fault.message
  | .findings fault => fault.message
  | .settings fault => fault.message
  | .undecodable fault => fault.message
  | .unencodable fault => fault.message
  | .storeFile fault => fault.message
  | .path place fault => fault.message place

inductive Ending where
  | done
  | refused (message : String)
  | misused
  | escaped (escape : Escape)

structure Output where
  out : String := ""
  err : String := ""

/-- A command at work: what it wrote so far stays written, and its changes stay made. -/
abbrev Action (α : Type) := ExceptT Ending (StateM (Station × Output)) α

def Output.warn (line : String) (output : Output) : Output :=
  { output with err := output.err ++ Text.numberHalves (Text.forChannel line) ++ "\n" }

/-- Writes a line to the first channel, which takes no halves of characters. -/
def echo (line : String) : Action Unit := do
  let text := Text.forChannel line ++ "\n"
  match Text.encodeFault? text with
  | some fault => throw (.escaped (.unencodable fault))
  | none => modify fun (station, output) => (station, { output with out := output.out ++ text })

def warn (line : String) : Action Unit :=
  modify fun (station, output) => (station, output.warn line)

def each {α : Type} (action : α → Action Unit) : List α → Action Unit
  | [] => pure ()
  | item :: rest => do
      action item
      each action rest

def workspace : Action Workspace := do pure (← get).1.workspace

def host : Action Settings.Host := do pure (← get).1.host

def setWorkspace (workspace : Workspace) : Action Unit :=
  modify fun (station, output) => ({ station with workspace }, output)

def makeHome : Action Unit := do
  let known ← workspace
  match known.makeFolder homePath with
  | .ok (_, made) => setWorkspace made
  | .error fault => throw (.escaped (.path (known.shownPath homePath) fault))

def writeFile (path shown content : String) : Action Unit := do
  match (← workspace).writeFile path content.toUTF8 none with
  | .ok changed => setWorkspace changed
  | .error fault => throw (.escaped (.path shown fault))

def storeMark : ByteArray := "SQLite format 3\x00".toUTF8

/-- The store of a file with a given content; an empty file is a store without rows. -/
def Station.storeOf (station : Station) (content : Option Entry) :
    Except StoreFileFault Store :=
  match content with
  | some (.file octets _) =>
      if octets.isEmpty then .ok { nextId := station.store.nextId }
      else if octets.toList.take storeMark.size = storeMark.toList then .ok station.store
      else .error .notADatabase
  | some _ => .error .unreachable
  | none => .ok { nextId := station.store.nextId }

/-- Opens the store on what was committed. Its file is made if it is not there. -/
def openStore : Action Unit := do
  makeHome
  let (station, output) ← get
  match station.workspace.filePlace storePath with
  | .error _ => throw (.escaped (.storeFile .unreachable))
  | .ok place =>
      match station.storeOf (Entry.at? place station.workspace.tree) with
      | .error fault => throw (.escaped (.storeFile fault))
      | .ok store =>
          let workspace := station.workspace.putAt place (.file storeMark none)
          set ({ station with workspace, store := store.reopen }, output)

def isTold : ChangeImpact.Fault → Bool
  | .store (.failed _ _) => true
  | .store (.unknownSeverity _ _) => true
  | .store _ => false
  | .impact (.notLoaded _) => true
  | .impact (.otherLoaded _ _) => true
  | .impact _ => false
  | .cancelled _ => true
  | .noWorkers => false
  | .notADirectory _ => true
  | .unknownAnalysis _ => true
  | .badPath _ _ => false
  | .realPath _ => false
  | .nullInFolder => false

def endingOf (fault : ChangeImpact.Fault) : Ending :=
  if isTold fault then .refused fault.message else .escaped (.core fault)

def atBench {α : Type} (settings : Settings) (action : Workbench.Action α) : Action α :=
  fun (station, output) =>
    let (result, bench) := action { store := station.store.reopen, settings }
    (result.mapError endingOf, { station with store := bench.store.reopen }, output)

def storing {α : Type} (action : Store.Action Store.Fault α) : Action α :=
  atBench {} (Workbench.storing action)

def settingsText : Action (Option String) := do
  match (← workspace).readFile settingsPath with
  | .error _ => pure none
  | .ok (octets, _) =>
      match Text.decodeStrict octets.toList with
      | .ok content => pure (some (Text.unifyLineEnds content))
      | .error fault => throw (.escaped (.undecodable fault))

def settingsResult {α : Type} : Except Settings.ChangeFault α → Action α
  | .ok value => pure value
  | .error (.setting fault) => throw (.refused fault.message)
  | .error fault => throw (.escaped (.settings fault))

def settings : Action Settings := do
  settingsResult (Settings.ofText (← settingsText) (← host))

/-- Looks at the settings before a command; bad ones are told only by a command that needs them. -/
def lookAtSettings : Action Unit := fun state =>
  match settings state with
  | (.error (.refused _), after) => (.ok (), after)
  | (result, after) => (result.map fun _ => (), after)

/-- Writes a document over the settings file. The file is emptied first, and stays so if the document cannot
be written. -/
def writeSettings (document : Toml.Fields) : Action Unit := do
  makeHome
  let (text, result) := Settings.overwrite document (← host)
  writeFile settingsPath ((← workspace).shownPath settingsPath) text
  settingsResult result

end ChangeImpact.Command
