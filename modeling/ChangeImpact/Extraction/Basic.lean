import ChangeImpact.Graph.Kind
import ChangeImpact.Json.Value
import ChangeImpact.Syntax.Walk
import ChangeImpact.Text.Basic

/-!
What one source file declares and what it refers to by name. Declarations are told apart by kind, name
and first line: the first proposal of each stays.
-/

set_option autoImplicit false

namespace ChangeImpact

abbrev Metadata := Json.Fields

/-- What a file declares. Lines are numbers wherever the file itself was read. -/
structure Declaration where
  kind : NodeKind
  name : String
  lineStart : Json.Value
  lineEnd : Json.Value
  metadata : Metadata
  deriving Inhabited

/-- A reference by name: neither end is a node yet. -/
structure Reference where
  source : String
  target : String
  kind : EdgeKind
  metadata : Metadata
  deriving Inhabited

namespace Declaration

def sameAs (left right : Declaration) : Bool :=
  left.kind == right.kind && left.name == right.name &&
    left.lineStart.sameScalar right.lineStart

def isAmong (proposal : Declaration) (known : List Declaration) : Bool :=
  known.any proposal.sameAs

/-- Names that extra facts about a declaration cannot have. -/
def ownNames : List String := ["self", "node_type", "name", "line_start", "line_end"]

inductive ProposalFault where
  | nameTaken (name : String)
  | incomparable (kind : String)
  deriving DecidableEq, Repr

def ProposalFault.message : ProposalFault → String
  | .nameTaken name => s!"ElementCollector.add() got multiple values for argument '{name}'"
  | .incomparable kind => s!"unhashable type: '{kind}'"

/-- The fault of a proposal: a fact has a name of its own, or its first line cannot be compared. -/
def proposalFault? (proposal : Declaration) : Option ProposalFault :=
  match (proposal.metadata.map Prod.fst).find? ownNames.contains with
  | some name => some (.nameTaken name)
  | none =>
      match proposal.lineStart with
      | .list _ => some (.incomparable "list")
      | .object _ => some (.incomparable "dict")
      | _ => none

def record (known : List Declaration) (proposal : Declaration) : List Declaration :=
  if proposal.isAmong known then known else known ++ [proposal]

/-- The proposals without those that stand for an earlier one. -/
def firsts (proposals : List Declaration) : List Declaration :=
  proposals.foldl record []

end Declaration

structure Extraction where
  file : String
  language : String
  declarations : List Declaration := []
  references : List Reference := []
  errors : List String := []
  deriving Inhabited

namespace Extraction

def isClean (extraction : Extraction) : Bool := extraction.errors.isEmpty

def unknownLanguage : String := "unknown"

def isSkipped (extraction : Extraction) : Bool := extraction.language == unknownLanguage

/-- Why a tree cannot be read: a construct lacks the operand it is about, or a scope ends where none is open. -/
inductive Fault where
  | missingOperand
  | noOpenScope
  deriving DecidableEq, Repr

def Fault.message : Fault → String
  | .missingOperand => "IndexError: list index out of range"
  | .noOpenScope => "IndexError: pop from empty list"

/-- The marker of a file in which the grammar had to skip something. -/
def parseErrorMarker : String := "Parse errors detected"

def textList (texts : List String) : Json.Value := .list (texts.map .str)

def spanning (tree : Syntax.Tree) (kind : NodeKind) (name : String) (metadata : Metadata) : Declaration :=
  { kind, name, lineStart := .ofNat tree.startLine, lineEnd := .ofNat tree.endLine, metadata }

/-- The marks that a quoted text may stand between, longest first. -/
def quoteMarks : List String := ["\"\"\"", "'''", "\"", "'", "`"]

def stripQuotes (text : String) : String :=
  let encloses := fun (mark : String) =>
    2 * mark.length ≤ text.length && Text.startsWith text mark && Text.endsWith text mark
  match quoteMarks.find? encloses with
  | some mark =>
      String.ofList ((text.toList.drop mark.length).take (text.length - 2 * mark.length))
  | none => text

def onLine (line : Nat) : Metadata := [("line", .ofNat line)]

end Extraction

end ChangeImpact
