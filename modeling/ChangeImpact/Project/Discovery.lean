import ChangeImpact.Glob
import ChangeImpact.Language
import ChangeImpact.Project.Workspace

/-!
Which files of a project take part in a build. The walk goes depth first through the entries in the order
of their names, and stops when there are as many files as are allowed. Directories that cannot be listed and files
without a size would be passed over; they are left out of the tree beforehand. The depth of a tree is not limited.
-/

set_option autoImplicit false

namespace ChangeImpact

structure Scope where
  includePatterns : List String := []
  excludePatterns : List String := []
  maxFileSize : Int := 1024 * 1024
  maxFiles : Int := 5000
  deriving Repr, Inhabited

namespace Scope

def defaultExcludes : List String :=
  ["node_modules", ".git", "__pycache__", ".pytest_cache", "dist", "build", ".next", "coverage",
    ".venv", "venv", "vendor"]

def excludes (scope : Scope) (name path : String) : Bool :=
  (defaultExcludes ++ scope.excludePatterns).any fun pattern =>
    name == pattern || Glob.covers pattern name || Glob.covers pattern path

def includes (scope : Scope) (name path : String) : Bool :=
  scope.includePatterns.isEmpty ||
    scope.includePatterns.any fun pattern => Glob.covers pattern path || Glob.covers pattern name

end Scope

structure Discovery where
  files : List String := []
  skippedLarge : List String := []
  capReached : Bool := false
  deriving DecidableEq, Repr, Inhabited

namespace Discovery

def takeIn (scope : Scope) (path : String) (size : Nat) (found : Discovery) : Discovery :=
  if scope.maxFileSize < Int.ofNat size then
    { found with skippedLarge := found.skippedLarge ++ [path] }
  else if scope.maxFiles ≤ Int.ofNat found.files.length then { found with capReached := true }
  else { found with files := found.files ++ [path] }

def consider (table : LanguageTable) (scope : Scope) (name path : String) (size : Nat)
    (found : Discovery) : Discovery :=
  if table.supports name && scope.includes name path then takeIn scope path size found else found

def pathIn (folder name : String) : String :=
  if folder = "" then name else folder ++ "/" ++ name

/-- Walks through entries. The size of the file that a link leads to, if it leads to one, is asked by
the path of the link. -/
def walk (table : LanguageTable) (scope : Scope) (linkedSize : String → Option Nat)
    (folder : String) (entries : List (String × Entry)) (found : Discovery) : Discovery :=
  match entries with
  | [] => found
  | (name, entry) :: rest =>
      if found.capReached then found
      else
        let path := pathIn folder name
        if scope.excludes name path then walk table scope linkedSize folder rest found
        else
          match entry with
          | .directory inner =>
              walk table scope linkedSize folder rest
                (walk table scope linkedSize path (Entry.inOrder inner) found)
          | .file octets _ =>
              walk table scope linkedSize folder rest
                (consider table scope name path octets.size found)
          | .link _ _ =>
              match linkedSize path with
              | none => walk table scope linkedSize folder rest found
              | some size =>
                  walk table scope linkedSize folder rest
                    (consider table scope name path size found)
termination_by Entry.weights entries
decreasing_by
  all_goals simp only [Entry.weights, Entry.weight, Entry.weights_inOrder]
  all_goals have := Entry.weight_pos
  all_goals grind

def fileSize? (workspace : Workspace) (project path : String) : Option Nat :=
  match workspace.readFile (Path.join project path) with
  | .ok (octets, _) => some octets.size
  | .error _ => none

def ofProject (table : LanguageTable) (scope : Scope) (workspace : Workspace) (project : String) :
    Discovery :=
  match workspace.folder? project with
  | none => {}
  | some entries =>
      walk table scope (fileSize? workspace project) "" (Entry.inOrder entries) {}

def warnings (scope : Scope) (found : Discovery) : List String :=
  if found.capReached then
    [s!"Reached max files limit ({scope.maxFiles}), some files may be skipped"]
  else []

end Discovery

end ChangeImpact
