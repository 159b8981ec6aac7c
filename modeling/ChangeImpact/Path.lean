import ChangeImpact.Text.Basic
import ChangeImpact.Text.Case

/-!
Paths written with slashes. The functions work on the text alone and never ask what exists.
-/

set_option autoImplicit false

namespace ChangeImpact.Path

/-- The parts of a path that name something: neither empty nor a single dot. -/
def components (path : String) : List String :=
  (Text.split '/' path).filter fun part => part ≠ "" && part ≠ "."

/-- The parts of a path that name something. A single dot or a slash stays at the end of one that must lead to
a directory. -/
def steps (path : String) : List String :=
  let parts := (Text.split '/' path).filter (· ≠ "")
  if parts.getLast? = some "." then components path ++ ["."]
  else if Text.endsWith path "/" then components path ++ ["/"]
  else components path

def fileName (path : String) : String :=
  (components path).getLastD ""

def cutName? (name : String) : Option (String × String) :=
  match Text.splitLast '.' name.toList with
  | some (before, after) =>
      if before.isEmpty || after.isEmpty then none
      else some (String.ofList before, String.ofList ('.' :: after))
  | none => none

def suffix (path : String) : String :=
  match cutName? (fileName path) with
  | some (_, ending) => ending
  | none => ""

def stem (path : String) : String :=
  match cutName? (fileName path) with
  | some (before, _) => before
  | none => fileName path

/-- The ending by which the language of a file is known: backslashes count as slashes, and case does
not matter. -/
def fileExtension (path : String) : String :=
  Text.lower (suffix (Text.exchange '\\' '/' path))

def parent (path : String) : String :=
  match Text.splitLast '/' path.toList with
  | none => ""
  | some (before, _) =>
      let head := before ++ ['/']
      let kept := Text.dropEndWhile (· = '/') head
      String.ofList (if kept.isEmpty then head else kept)

def isRooted (path : String) : Bool := Text.startsWith path "/"

/-- A path taken from a directory; a path with a slash in front stands for itself. -/
def join (directory path : String) : String :=
  if isRooted path then path
  else if directory = "" || Text.endsWith directory "/" then directory ++ path
  else directory ++ "/" ++ path

/-- One part added to those already kept, nearest first: a double dot takes one back. -/
def step (rooted : Bool) (kept : List String) (part : String) : List String :=
  if part = "" || part = "." then kept
  else if part ≠ ".." then part :: kept
  else
    match kept with
    | [] => if rooted then [] else [part]
    | last :: before => if last = ".." then part :: kept else before

/-- The slashes that a path keeps in front: one, or exactly two. -/
def leadingSlashes : List Char → String
  | '/' :: '/' :: '/' :: _ => "/"
  | '/' :: '/' :: _ => "//"
  | '/' :: _ => "/"
  | _ => ""

def plain (path : String) : String :=
  let text := leadingSlashes path.toList ++ Text.join "/" (components path)
  if text = "" then "." else text

def normalize (path : String) : String :=
  if path = "" then "."
  else
    let front := leadingSlashes path.toList
    let parts := (Text.split '/' path).foldl (step (front ≠ "")) []
    let text := front ++ Text.join "/" parts.reverse
    if text = "" then "." else text

/-- The ending of a path from its last dot on, when another character than a dot stands before it in the
same part. -/
def ending (path : String) : String :=
  match Text.splitLast '.' path.toList with
  | none => ""
  | some (before, after) =>
      if after.contains '/' then ""
      else
        let name := before.reverse.takeWhile (· ≠ '/')
        if name.all (· = '.') then "" else String.ofList ('.' :: after)

end ChangeImpact.Path
