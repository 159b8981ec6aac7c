import ChangeImpact.Json.Shown
import ChangeImpact.Path
import ChangeImpact.Project.Entry

/-!
The directory in which everything happens, in a tree of files with nothing else in it. Paths lead through
links, for reading as well as for writing; they start at the directory, or with a slash in front at the top of
the tree.
-/

set_option autoImplicit false

namespace ChangeImpact

open ChangeImpact.Syntax (Outline)

inductive PathFault where
  | missing
  | alreadyThere
  | notADirectory
  | isADirectory
  | nameTooLong
  | tooManyLinks
  | nullCharacter
  deriving DecidableEq, Repr

def PathFault.reason? : PathFault → Option (Nat × String)
  | .missing => some (2, "No such file or directory")
  | .alreadyThere => some (17, "File exists")
  | .notADirectory => some (20, "Not a directory")
  | .isADirectory => some (21, "Is a directory")
  | .nameTooLong => some (36, "File name too long")
  | .tooManyLinks => some (40, "Too many levels of symbolic links")
  | .nullCharacter => none

def PathFault.message (path : String) (fault : PathFault) : String :=
  match fault.reason? with
  | some (code, reason) => s!"[Errno {code}] {reason}: {Json.quotedText path}"
  | none => "embedded null byte"

/-- How the directory is shown, and the tree that it is in. -/
structure Workspace where
  location : String
  tree : List (String × Entry)
  deriving Inhabited

namespace Workspace

/-- The place of the directory in the tree, among the temporary files. No part of a path is a name with a
slash, so that no path from the top leads to it. -/
def base : List String := ["tmp", "/here"]

def empty (location : String) : Workspace :=
  { location, tree := Entry.put base (.directory []) [] }

def startOf (path : String) : List String := if Path.isRooted path then [] else base

/-- How far a path leads: to a place, or only to the directory before a part that is not there. -/
inductive Route where
  | found (place : List String)
  | absent (place : List String) (rest : List String)
  deriving DecidableEq, Repr

/-- What the end of a path is for: it is taken as it stands, a link there is followed, or a file is to be
written there. -/
inductive Purpose where
  | entry
  | target
  | writing
  deriving DecidableEq, Repr

def maxLinks : Nat := 40

def maxNameOctets : Nat := 255

def maxPathOctets : Nat := 4095

/-- Follows the parts of a path from a place. Above the top there is the top itself. No file is written where
a slash ends the path. -/
def follow (tree : List (String × Entry)) (purpose : Purpose) (links : Nat) (here : List String) :
    List String → Except PathFault Route
  | [] => .ok (.found here)
  | "." :: rest => follow tree purpose links here rest
  | "/" :: rest => follow tree purpose links here rest
  | ".." :: rest => follow tree purpose links here.dropLast rest
  | name :: rest =>
      if purpose = .writing && rest = ["/"] then .error .isADirectory
      else if maxNameOctets < name.utf8ByteSize then .error .nameTooLong
      else
        match Entry.at? (here ++ [name]) tree with
        | none => .ok (.absent here (name :: rest))
        | some (.directory _) => follow tree purpose links (here ++ [name]) rest
        | some (.file _ _) =>
            if rest.isEmpty then .ok (.found (here ++ [name])) else .error .notADirectory
        | some (.link target _) =>
            if rest.isEmpty && purpose = .entry then .ok (.found (here ++ [name]))
            else
              match links with
              | 0 => .error .tooManyLinks
              | left + 1 =>
                  let start := if Path.isRooted target then [] else here
                  follow tree purpose left start (Path.steps target ++ rest)
termination_by parts => (links, parts.length)

def route (workspace : Workspace) (purpose : Purpose) (path : String) : Except PathFault Route :=
  if Text.hasNull path then .error .nullCharacter
  else if maxPathOctets < path.utf8ByteSize then .error .nameTooLong
  else follow workspace.tree purpose maxLinks (startOf path) (Path.components path)

def locate (workspace : Workspace) (path : String) : Except PathFault (List String × Entry) := do
  match ← workspace.route .target path with
  | .absent _ _ => .error .missing
  | .found place =>
      match Entry.at? place workspace.tree with
      | some entry => .ok (place, entry)
      | none => .error .missing

def folder? (workspace : Workspace) (path : String) : Option (List (String × Entry)) :=
  match workspace.locate path with
  | .ok (_, .directory entries) => some entries
  | _ => none

/-- What the grammar finds in the file at a place that a path leads to. A link of another ending is read by
another grammar, and so comes with its own outline. -/
def outlineBy (workspace : Workspace) (path : String) (place : List String)
    (own : Option Outline) : Option Outline :=
  match workspace.route .entry path with
  | .ok (.found named) =>
      match Entry.at? named workspace.tree with
      | some (.link _ outline) =>
          if Path.fileExtension (named.getLastD "") = Path.fileExtension (place.getLastD "") then
            own.or outline
          else outline.or own
      | _ => own
  | _ => own

def readFile (workspace : Workspace) (path : String) :
    Except PathFault (ByteArray × Option Outline) := do
  match ← workspace.locate path with
  | (place, .file octets own) => .ok (octets, workspace.outlineBy path place own)
  | _ => .error .isADirectory

/-- Where a file that is written to a path comes to lie; all but its last part must be there. -/
def filePlace (workspace : Workspace) (path : String) : Except PathFault (List String) := do
  match ← workspace.route .writing path with
  | .absent place [name] => .ok (place ++ [name])
  | .absent _ _ => .error .missing
  | .found place =>
      match Entry.at? place workspace.tree with
      | some (.directory _) => .error .isADirectory
      | _ => .ok place

def putAt (workspace : Workspace) (place : List String) (entry : Entry) : Workspace :=
  { workspace with tree := Entry.put place entry workspace.tree }

def writeFile (workspace : Workspace) (path : String) (octets : ByteArray)
    (outline : Option Outline) : Except PathFault Workspace := do
  .ok (workspace.putAt (← workspace.filePlace path) (.file octets outline))

/-- Makes a directory where nothing is yet; one that is there already will do. Nothing is said when a
directory on the way is not there. The first part of the answer is its place. -/
def makeLast? (workspace : Workspace) (path : String) :
    Except PathFault (Option (List String × Workspace)) := do
  match ← workspace.route .entry path with
  | .absent place [name] =>
      .ok (some (place ++ [name], workspace.putAt (place ++ [name]) (.directory [])))
  | .absent _ _ => .ok none
  | .found _ =>
      match workspace.locate path with
      | .ok (place, .directory _) => .ok (some (place, workspace))
      | _ => .error .alreadyThere

/-- Makes a directory with all those on the way to it, as far as they are not there. Its path is given by its
parts, last first. -/
def makeFolders (workspace : Workspace) :
    List String → Except PathFault (List String × Workspace)
  | [] => .ok (base, workspace)
  | name :: before => do
      let path := Text.join "/" (name :: before).reverse
      match ← workspace.makeLast? path with
      | some made => .ok made
      | none => do
          let (_, prepared) ← makeFolders workspace before
          match ← prepared.makeLast? path with
          | some made => .ok made
          | none => .error .missing

def makeFolder (workspace : Workspace) (path : String) :
    Except PathFault (List String × Workspace) :=
  if Path.isRooted path then .error .missing
  else workspace.makeFolders (Path.components path).reverse

/-- Creates an entry at a path, with the directories on the way. A link is made only where nothing is. -/
def create (workspace : Workspace) (path : String) (entry : Entry) :
    Except PathFault Workspace := do
  match entry with
  | .directory _ => do .ok (← workspace.makeFolder path).2
  | _ =>
      let (_, made) ← workspace.makeFolder (Text.join "/" (Path.components path).dropLast)
      match entry with
      | .file octets outline => made.writeFile path octets outline
      | _ =>
          match ← made.route .entry path with
          | .absent place [name] => .ok (made.putAt (place ++ [name]) entry)
          | .absent _ _ => .error .missing
          | .found _ => .error .alreadyThere

def put (workspace : Workspace) (path : String) (entry : Entry) : Workspace :=
  (workspace.create path entry).toOption.getD workspace

def drop (workspace : Workspace) (path : String) : Workspace :=
  match workspace.route .entry path with
  | .ok (.found place) => { workspace with tree := Entry.drop place workspace.tree }
  | _ => workspace

def shownPath (workspace : Workspace) (path : String) : String :=
  if Path.isRooted path then Path.plain path
  else Text.join "/" (workspace.location :: Path.components path)

end Workspace

end ChangeImpact
