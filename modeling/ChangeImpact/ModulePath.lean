import ChangeImpact.Path

/-!
Which files of a project an import may mean. The candidates stand in the order in which they are tried,
as paths from the top of the project.
-/

set_option autoImplicit false

namespace ChangeImpact.ModulePath

def dottedEndings : List String := [".py", ".pyw"]

/-- Endings of the files that a path specifier may mean, in the order of trial. -/
def scriptEndings : List String := [".js", ".jsx", ".ts", ".tsx", ".mjs", ".cjs"]

def usesDottedNames (file : String) : Bool :=
  dottedEndings.any (Text.endsWith file)

def ancestor : Nat → String → String
  | 0, directory => directory
  | levels + 1, directory => ancestor levels (Path.parent directory)

def moduleFiles (stem : String) : List String :=
  if stem = "" then ["__init__.py"] else [stem ++ ".py", stem ++ "/__init__.py"]

/-- The directories that a dotted name starts from: with dots in front one directory, a level up for
each dot after the first; otherwise the top of the project and the directory of the file. -/
def startingPoints (dots : Nat) (directory : String) : List String :=
  match dots with
  | levels + 1 => [ancestor levels directory]
  | 0 => if directory = "" then [""] else ["", directory]

def dottedFiles (specifier file : String) : List String :=
  let dots := (specifier.toList.takeWhile (· = '.')).length
  let rest := Text.exchange '.' '/' (String.ofList (specifier.toList.drop dots))
  (startingPoints dots (Path.parent file)).flatMap fun root =>
    moduleFiles (if rest = "" then root else Path.join root rest)

/-- Where a path specifier leads: from the top, or from the directory of the file. The name of a package
leads nowhere in the project. -/
def specifierPath? (specifier file : String) : Option String :=
  if Text.startsWith specifier "/" then
    some (String.ofList (specifier.toList.dropWhile (· = '/')))
  else if Text.startsWith specifier "./" || Text.startsWith specifier "../" ||
      specifier = "." || specifier = ".." then
    some (Path.join (Path.parent file) specifier)
  else none

/-- The files that a path may mean: itself if it has an ending of that kind, then with each ending, then
the index file of the directory. -/
def scriptTrials (base : String) : List String :=
  (if scriptEndings.contains (Path.ending base) then [base] else []) ++
    scriptEndings.map (fun ending => base ++ ending) ++
    scriptEndings.map (fun ending => base ++ "/index" ++ ending)

def scriptFiles (specifier file : String) : List String :=
  match specifierPath? specifier file with
  | none => []
  | some path =>
      let base := Path.normalize path
      if base = "." || base = "" || Text.startsWith base "../" then [] else scriptTrials base

def candidates (specifier file : String) : List String :=
  if usesDottedNames file then dottedFiles specifier file else scriptFiles specifier file

end ChangeImpact.ModulePath
