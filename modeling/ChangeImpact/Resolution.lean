import ChangeImpact.ModulePath
import ChangeImpact.NameIndex

/-!
From names to nodes. A reference whose source is no node is dropped; one whose target is no node is pointed to
a placeholder, of which there is one for each name.
-/

set_option autoImplicit false

namespace ChangeImpact

structure PendingEdge where
  source : String
  target : Option String
  reference : Reference

structure Resolution where
  pending : List PendingEdge := []
  missing : List String := []
  dropped : Nat := 0

namespace Resolution

def sourceKinds : List NodeKind := [.moduleKind, .classKind, .functionKind]

/-- Kinds of nodes that a reference may point to; without a list any kind. -/
def targetKinds (kind : EdgeKind) : Option (List NodeKind) :=
  if kind = .imports then some [.moduleKind]
  else if kind = .calls then some [.functionKind, .classKind]
  else if kind = .inherits || kind = .implements then some [.classKind]
  else none

/-- The node that a reference made in a file points to. An import is first taken for a path. -/
def target? (index : NameIndex) (file : String) (reference : Reference) : Option Node :=
  let allowed := targetKinds reference.kind
  let byPath :=
    if reference.kind = .imports then
      (ModulePath.candidates reference.target file).findSome? fun path => index.lookup path allowed
    else none
  byPath.or (index.resolve reference.target file allowed)

def step (index : NameIndex) (resolution : Resolution) (item : String × Reference) : Resolution :=
  let (file, reference) := item
  match index.resolve reference.source file (some sourceKinds) with
  | none => { resolution with dropped := resolution.dropped + 1 }
  | some source =>
      let target := target? index file reference
      let missing :=
        if target.isNone && !resolution.missing.contains reference.target then
          resolution.missing ++ [reference.target]
        else resolution.missing
      { resolution with
        pending :=
          resolution.pending ++ [{ source := source.id, target := target.map Node.id, reference }]
        missing }

def referencesOf (extractions : List Extraction) : List (String × Reference) :=
  extractions.flatMap fun extraction =>
    extraction.references.map fun reference => (extraction.file, reference)

def ofExtractions (index : NameIndex) (extractions : List Extraction) : Resolution :=
  (referencesOf extractions).foldl (step index) {}

def placeholder (analysis name : String) : Node :=
  { id := "", analysis, kind := .moduleKind, name, metadata := [("external", .bool true)] }

/-- An edge between nodes. A target that was missing is its placeholder, and the edge is marked. -/
def edge (analysis : String) (placeholders : List (String × String)) (pending : PendingEdge) : Edge :=
  let known : Edge :=
    { id := ""
      analysis
      source := pending.source
      target := pending.target.getD ((placeholders.lookup pending.reference.target).getD "")
      kind := pending.reference.kind
      metadata := pending.reference.metadata }
  if pending.target.isSome then known
  else { known with metadata := Json.Fields.set "unresolvedTarget" (.bool true) known.metadata }

end Resolution

end ChangeImpact
