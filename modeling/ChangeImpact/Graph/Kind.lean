/-!
Kinds of declarations and of references between them. Kinds are open: a stored graph may hold others
than the named ones.
-/

set_option autoImplicit false

namespace ChangeImpact

structure NodeKind where
  name : String
  deriving DecidableEq, Repr, Inhabited

namespace NodeKind

def moduleKind : NodeKind := ⟨"module"⟩
def classKind : NodeKind := ⟨"class"⟩
def functionKind : NodeKind := ⟨"function"⟩
def variableKind : NodeKind := ⟨"variable"⟩
def importKind : NodeKind := ⟨"import"⟩
def exportKind : NodeKind := ⟨"export"⟩

/-- The named kinds, in the order in which counts list them. -/
def known : List NodeKind :=
  [moduleKind, classKind, functionKind, variableKind, importKind, exportKind]

end NodeKind

structure EdgeKind where
  name : String
  deriving DecidableEq, Repr, Inhabited

namespace EdgeKind

def imports : EdgeKind := ⟨"imports"⟩
def calls : EdgeKind := ⟨"calls"⟩
def inherits : EdgeKind := ⟨"inherits"⟩
def implements : EdgeKind := ⟨"implements"⟩
def uses : EdgeKind := ⟨"uses"⟩
def defines : EdgeKind := ⟨"defines"⟩
def contains : EdgeKind := ⟨"contains"⟩
def dependsOn : EdgeKind := ⟨"depends_on"⟩

def known : List EdgeKind :=
  [imports, calls, inherits, implements, uses, defines, contains, dependsOn]

end EdgeKind

end ChangeImpact
