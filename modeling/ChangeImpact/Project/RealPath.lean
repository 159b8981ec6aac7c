import ChangeImpact.Project.Workspace

/-!
Real paths: a path with each of its links replaced by what the link leads to. Parts that are not there are
taken as they are written, and so is all that follows a link that leads back to itself.
-/

set_option autoImplicit false

namespace ChangeImpact

/-- Where a path leads, what is known of the links on the way, and whether all of the path was followed. Of a
link it is known where it leads, or only that it is being followed. Places need not be there. -/
structure Tracing where
  place : List String
  links : List (List String × Option (List String))
  isWhole : Bool

namespace Tracing

def target? (tree : List (String × Entry)) (place : List String) : Option String :=
  match Entry.at? place tree with
  | some (.link target _) => some target
  | _ => none

/-- A place with parts that are not followed. An empty part with others after it starts again at the top. -/
def leave (place : List String) : List String → List String
  | "" :: next :: rest => next :: rest
  | rest => place ++ rest

def follow (tree : List (String × Entry)) :
    (fuel : Nat) → List (List String × Option (List String)) → List String → List String → Tracing
  | 0, links, here, parts => { place := leave here parts, links, isWhole := false }
  | _ + 1, links, here, [] => { place := here, links, isWhole := true }
  | fuel + 1, links, here, name :: rest =>
      if name = "" || name = "." then follow tree fuel links here rest
      else if name = ".." then follow tree fuel links here.dropLast rest
      else
        let next := here ++ [name]
        match target? tree next, links.lookup next with
        | none, _ => follow tree fuel links next rest
        | some _, some (some goal) => follow tree fuel links goal rest
        | some _, some none => { place := leave next rest, links, isWhole := false }
        | some target, none =>
            let start := if Path.isRooted target then [] else here
            let led := follow tree fuel ((next, none) :: links) start (Text.split '/' target)
            if led.isWhole then follow tree fuel ((next, some led.place) :: led.links) led.place rest
            else { led with place := leave led.place rest }

/-- Where a path of the workspace leads. Every link is followed once, so that the text of the targets bounds
the steps. -/
def ofPath (workspace : Workspace) (path : String) : Tracing :=
  let parts := Path.components path
  follow workspace.tree (parts.length + Entry.linkTexts workspace.tree + 1) []
    (Workspace.startOf path) parts

end Tracing

inductive RealPathFault where
  | nullCharacter
  | loop (path : String)
  deriving DecidableEq, Repr

namespace Workspace

/-- A path to a place: from the directory of the workspace, or else from the top. -/
def pathTo (place : List String) : String :=
  if base.isPrefixOf place then Text.join "/" (place.drop base.length)
  else "/" ++ Text.join "/" place

def realPath (workspace : Workspace) (path : String) : Except RealPathFault String :=
  if Text.hasNull path then .error .nullCharacter
  else
    let place := ((Tracing.ofPath workspace path).place.foldl (Path.step true) []).reverse
    let real := pathTo place
    match workspace.route .target real with
    | .error .tooManyLinks => .error (.loop (workspace.shownPath real))
    | _ => .ok real

end Workspace

end ChangeImpact
