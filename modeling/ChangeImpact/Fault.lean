import ChangeImpact.Impact.Basic
import ChangeImpact.Project.RealPath

/-!
Why builds and questions fail.
-/

set_option autoImplicit false

namespace ChangeImpact

inductive Fault where
  | store (fault : Store.Fault)
  | impact (fault : Impact.Fault)
  | cancelled (analysis : String)
  | noWorkers
  | notADirectory (path : String)
  | unknownAnalysis (analysis : String)
  | badPath (path : String) (fault : PathFault)
  | realPath (fault : RealPathFault)
  | nullInFolder
  deriving DecidableEq, Repr

def Fault.message : Fault → String
  | .store fault => fault.message
  | .impact fault => fault.message
  | .cancelled analysis => s!"Build for analysis {analysis} was cancelled"
  | .noWorkers => "max_workers must be greater than 0"
  | .notADirectory path => s!"Project path is not a directory: {path}"
  | .unknownAnalysis analysis => s!"Unknown analysis '{analysis}'. Run 'ig build' first."
  | .badPath path fault => fault.message path
  | .realPath .nullCharacter => "lstat: embedded null character in path"
  | .realPath (.loop path) => s!"Symlink loop from {Json.quotedText path}"
  | .nullInFolder => "scandir: embedded null character in path"

end ChangeImpact
