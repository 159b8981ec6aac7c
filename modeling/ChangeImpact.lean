import ChangeImpact.Build
import ChangeImpact.Command.Arguments
import ChangeImpact.Command.Basic
import ChangeImpact.Command.Number
import ChangeImpact.Command.Run
import ChangeImpact.Command.Station
import ChangeImpact.Distinct
import ChangeImpact.Export.Document
import ChangeImpact.Export.Dot
import ChangeImpact.Export.Focus
import ChangeImpact.Extraction.Basic
import ChangeImpact.Extraction.PythonDeclarations
import ChangeImpact.Extraction.PythonNames
import ChangeImpact.Extraction.PythonReferences
import ChangeImpact.Extraction.Scope
import ChangeImpact.Extraction.ScriptDeclarations
import ChangeImpact.Extraction.ScriptNames
import ChangeImpact.Extraction.ScriptReferences
import ChangeImpact.Fault
import ChangeImpact.Finding
import ChangeImpact.Finding.File
import ChangeImpact.Glob
import ChangeImpact.Graph.Adjacency
import ChangeImpact.Graph.Basic
import ChangeImpact.Graph.Kind
import ChangeImpact.Impact.Basic
import ChangeImpact.Impact.Score
import ChangeImpact.Json.Reader
import ChangeImpact.Json.Shown
import ChangeImpact.Json.Value
import ChangeImpact.Json.Writer
import ChangeImpact.Language
import ChangeImpact.Main
import ChangeImpact.ModulePath
import ChangeImpact.NameIndex
import ChangeImpact.Number.Binary64
import ChangeImpact.Number.Decimal
import ChangeImpact.Number.Extended
import ChangeImpact.Path
import ChangeImpact.Project.Bundle
import ChangeImpact.Project.Discovery
import ChangeImpact.Project.Entry
import ChangeImpact.Project.RealPath
import ChangeImpact.Project.Sources
import ChangeImpact.Project.Workspace
import ChangeImpact.Proofs.Action
import ChangeImpact.Proofs.AffectedFiles
import ChangeImpact.Proofs.AllOrNothing
import ChangeImpact.Proofs.Assembly
import ChangeImpact.Proofs.Atomicity
import ChangeImpact.Proofs.Attribution
import ChangeImpact.Proofs.Batches
import ChangeImpact.Proofs.Building
import ChangeImpact.Proofs.Calls
import ChangeImpact.Proofs.Chains
import ChangeImpact.Proofs.ClimbingImports
import ChangeImpact.Proofs.DeadCode
import ChangeImpact.Proofs.Declarations
import ChangeImpact.Proofs.Deletion
import ChangeImpact.Proofs.Dependents
import ChangeImpact.Proofs.Directories
import ChangeImpact.Proofs.DiscoveredFiles
import ChangeImpact.Proofs.DispatchedFiles
import ChangeImpact.Proofs.Distance
import ChangeImpact.Proofs.Distinct
import ChangeImpact.Proofs.DocumentData
import ChangeImpact.Proofs.DocumentNames
import ChangeImpact.Proofs.DotStrings
import ChangeImpact.Proofs.DottedNames
import ChangeImpact.Proofs.EdgesKept
import ChangeImpact.Proofs.EligibleFiles
import ChangeImpact.Proofs.ExcludePatterns
import ChangeImpact.Proofs.ExportFlags
import ChangeImpact.Proofs.FailedBatch
import ChangeImpact.Proofs.FailedSave
import ChangeImpact.Proofs.Fields
import ChangeImpact.Proofs.FindingFaults
import ChangeImpact.Proofs.FindingFile
import ChangeImpact.Proofs.FindingHistory
import ChangeImpact.Proofs.FindingImport
import ChangeImpact.Proofs.FindingScope
import ChangeImpact.Proofs.FindingSearch
import ChangeImpact.Proofs.FirstProposals
import ChangeImpact.Proofs.Freshness
import ChangeImpact.Proofs.Generators
import ChangeImpact.Proofs.GraphTyping
import ChangeImpact.Proofs.ImportAgreement
import ChangeImpact.Proofs.ImportRules
import ChangeImpact.Proofs.ImportTargets
import ChangeImpact.Proofs.InsidePaths
import ChangeImpact.Proofs.Integrity
import ChangeImpact.Proofs.LexicalScopes
import ChangeImpact.Proofs.ModuleNodes
import ChangeImpact.Proofs.Monotone
import ChangeImpact.Proofs.NameLookup
import ChangeImpact.Proofs.Nearest
import ChangeImpact.Proofs.Neighbourhood
import ChangeImpact.Proofs.NestedEvents
import ChangeImpact.Proofs.NodeKeys
import ChangeImpact.Proofs.Octets
import ChangeImpact.Proofs.Outcome
import ChangeImpact.Proofs.PathSpecifiers
import ChangeImpact.Proofs.Percentage
import ChangeImpact.Proofs.Places
import ChangeImpact.Proofs.Precedence
import ChangeImpact.Proofs.Preorder
import ChangeImpact.Proofs.Propagation
import ChangeImpact.Proofs.Questions
import ChangeImpact.Proofs.Rebuild
import ChangeImpact.Proofs.References
import ChangeImpact.Proofs.Refusals
import ChangeImpact.Proofs.Renaming
import ChangeImpact.Proofs.Resolution
import ChangeImpact.Proofs.ResolvedEdges
import ChangeImpact.Proofs.Rounding
import ChangeImpact.Proofs.Score
import ChangeImpact.Proofs.ScriptProposals
import ChangeImpact.Proofs.SettingsRuns
import ChangeImpact.Proofs.SettingsValues
import ChangeImpact.Proofs.Sources
import ChangeImpact.Proofs.Stopping
import ChangeImpact.Proofs.Store
import ChangeImpact.Proofs.StoredGraphs
import ChangeImpact.Proofs.StoredRows
import ChangeImpact.Proofs.Upkeep
import ChangeImpact.Proofs.Walk
import ChangeImpact.Proofs.Wildcards
import ChangeImpact.Resolution
import ChangeImpact.Session.Request
import ChangeImpact.Session.Run
import ChangeImpact.Settings.Basic
import ChangeImpact.Settings.Document
import ChangeImpact.Store.Basic
import ChangeImpact.Store.Cell
import ChangeImpact.Store.Findings
import ChangeImpact.Store.Graphs
import ChangeImpact.Store.Number
import ChangeImpact.Syntax.Tree
import ChangeImpact.Syntax.Walk
import ChangeImpact.Text.Alphanumeric
import ChangeImpact.Text.Basic
import ChangeImpact.Text.Blank
import ChangeImpact.Text.Case
import ChangeImpact.Text.CaseTable
import ChangeImpact.Text.Digit
import ChangeImpact.Text.Half
import ChangeImpact.Text.Integer
import ChangeImpact.Text.Like
import ChangeImpact.Text.Numeral
import ChangeImpact.Text.Printable
import ChangeImpact.Text.Terminal
import ChangeImpact.Text.Utf8
import ChangeImpact.Text.Wildcard
import ChangeImpact.Toml.Lines
import ChangeImpact.Toml.Pieces
import ChangeImpact.Toml.Quoted
import ChangeImpact.Toml.Reader
import ChangeImpact.Toml.Scalar
import ChangeImpact.Toml.Value
import ChangeImpact.Toml.Writer
import ChangeImpact.Workbench
