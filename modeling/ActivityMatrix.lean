import ActivityMatrix.Address
import ActivityMatrix.Address.Escape
import ActivityMatrix.Address.Host
import ActivityMatrix.Address.Label
import ActivityMatrix.Address.LabelTable
import ActivityMatrix.Address.Punycode
import ActivityMatrix.Artifacts
import ActivityMatrix.CommandLine
import ActivityMatrix.CommandLine.Arguments
import ActivityMatrix.CommandLine.Command
import ActivityMatrix.CommandLine.Report
import ActivityMatrix.CommandLine.Workspace
import ActivityMatrix.Console.Colour
import ActivityMatrix.Console.Columns
import ActivityMatrix.Console.Emoji
import ActivityMatrix.Console.EmojiNames
import ActivityMatrix.Console.Literal
import ActivityMatrix.Console.Markup
import ActivityMatrix.Console.Output
import ActivityMatrix.Console.Sheet
import ActivityMatrix.Console.Style
import ActivityMatrix.Console.Wrapping
import ActivityMatrix.Declare.Derivation
import ActivityMatrix.Declare.Model
import ActivityMatrix.Declare.Publication
import ActivityMatrix.Declare.Store
import ActivityMatrix.Digraph.Cycle
import ActivityMatrix.Digraph.Levels
import ActivityMatrix.Digraph.NeighbourIndex
import ActivityMatrix.Digraph.Order
import ActivityMatrix.Digraph.Reachability
import ActivityMatrix.Document
import ActivityMatrix.FileTree
import ActivityMatrix.Gateway
import ActivityMatrix.Gateway.Grouping
import ActivityMatrix.Json.Reader
import ActivityMatrix.Json.Writer
import ActivityMatrix.LabelledDigraph
import ActivityMatrix.Main
import ActivityMatrix.Matrix
import ActivityMatrix.Matrix.File
import ActivityMatrix.Matrix.Reading
import ActivityMatrix.Number.Float64
import ActivityMatrix.Number.Reading
import ActivityMatrix.Number.Whole
import ActivityMatrix.Path
import ActivityMatrix.ProcessGraph
import ActivityMatrix.ProcessGraph.Bpmn
import ActivityMatrix.ProcessGraph.Indexed
import ActivityMatrix.ProcessGraph.Problems
import ActivityMatrix.Proofs.Digraph.Reachability
import ActivityMatrix.Proofs.Sorting
import ActivityMatrix.Relation
import ActivityMatrix.RelationSets
import ActivityMatrix.RelationSets.Classification
import ActivityMatrix.Settings
import ActivityMatrix.Sorting
import ActivityMatrix.Synthesis
import ActivityMatrix.Synthesis.Cleanup
import ActivityMatrix.Synthesis.Convergence
import ActivityMatrix.Synthesis.Diagnostic
import ActivityMatrix.Synthesis.Draft
import ActivityMatrix.Synthesis.Ends
import ActivityMatrix.Synthesis.Expansion
import ActivityMatrix.Synthesis.Stitching
import ActivityMatrix.Table
import ActivityMatrix.Text.Blank
import ActivityMatrix.Text.CaseTable
import ActivityMatrix.Text.CombiningClass
import ActivityMatrix.Text.Composition
import ActivityMatrix.Text.DecimalDigit
import ActivityMatrix.Text.LetterCase
import ActivityMatrix.Text.Marks
import ActivityMatrix.Text.Quoted
import ActivityMatrix.Text.Unassigned
import ActivityMatrix.Validation
import ActivityMatrix.Violation
import ActivityMatrix.Xml
import ActivityMatrix.Yaml.Reader
import ActivityMatrix.Yaml.Scalar
import ActivityMatrix.Proofs.Digraph.Order
import ActivityMatrix.Proofs.Digraph.Cycle
import ActivityMatrix.Proofs.Gateway.Grouping
import ActivityMatrix.Proofs.RelationSets.Neighbours
import ActivityMatrix.Proofs.RelationSets.Reduction
import ActivityMatrix.Proofs.RelationSets.Validated
import ActivityMatrix.Proofs.Table
import ActivityMatrix.Proofs.Digraph.Detour
import ActivityMatrix.Proofs.ProcessGraph.Sound
import ActivityMatrix.Proofs.ProcessGraph.Guarded
import ActivityMatrix.Proofs.ProcessGraph.NeighbourIndex
import ActivityMatrix.Proofs.ProcessGraph.Indexed
import ActivityMatrix.Proofs.ProcessGraph.Calls
import ActivityMatrix.Proofs.ProcessGraph.CallAfterCall
import ActivityMatrix.Proofs.Synthesis.Yields
import ActivityMatrix.Proofs.ProcessGraph.Rerouting
import ActivityMatrix.Proofs.ProcessGraph.Workable
import ActivityMatrix.Proofs.ProcessGraph.Gathering
import ActivityMatrix.Proofs.Synthesis.Repairs
import ActivityMatrix.Proofs.Synthesis.Normalization
import ActivityMatrix.Proofs.Synthesis.Rewiring
import ActivityMatrix.Proofs.Synthesis.Cleanup
import ActivityMatrix.Proofs.ProcessGraph.Problems
import ActivityMatrix.Proofs.Synthesis.Ends
import ActivityMatrix.Proofs.Synthesis.Building
import ActivityMatrix.Proofs.Synthesis.Convergence
import ActivityMatrix.Proofs.Synthesis.Expansion
import ActivityMatrix.Proofs.Synthesis.Start
import ActivityMatrix.Proofs.Synthesis.Merging
import ActivityMatrix.Proofs.Synthesis.Stitching
import ActivityMatrix.Proofs.Synthesis.Run
import ActivityMatrix.Proofs.Synthesis.Outcome
import ActivityMatrix.Proofs.Synthesis.Invariant
import ActivityMatrix.Proofs.Synthesis.Finishing
import ActivityMatrix.Proofs.Synthesis.Attachment
import ActivityMatrix.Proofs.Synthesis.Foremost
import ActivityMatrix.Proofs.Synthesis.Precedence
import ActivityMatrix.Proofs.Synthesis.Naming
import ActivityMatrix.Proofs.Synthesis.Tidy
import ActivityMatrix.Proofs.Synthesis.Shown
import ActivityMatrix.Proofs.ProcessGraph.Identifiers
import ActivityMatrix.Proofs.Synthesis.Identifiers
import ActivityMatrix.Proofs.RelationSets.Reordered
import ActivityMatrix.Proofs.Synthesis.Reordered
import ActivityMatrix.Proofs.Relation
import ActivityMatrix.Proofs.Matrix.Cells
import ActivityMatrix.Proofs.Matrix.Requirements
import ActivityMatrix.Proofs.Matrix.Validity
import ActivityMatrix.Proofs.Matrix.Contradictions
import ActivityMatrix.Proofs.Matrix.Pairs
import ActivityMatrix.Proofs.Matrix.Listing
import ActivityMatrix.Proofs.Synthesis.SharedActivities
import ActivityMatrix.Proofs.RelationSets.Classified
import ActivityMatrix.Proofs.RelationSets.Consistency
import ActivityMatrix.Proofs.Declare.Contribution
import ActivityMatrix.Proofs.Declare.Init
import ActivityMatrix.Proofs.Declare.Reordered
import ActivityMatrix.Proofs.Declare.Reciprocity
import ActivityMatrix.Proofs.Declare.Agreement
import ActivityMatrix.Proofs.Gateway.Components
import ActivityMatrix.Proofs.Gateway.Exclusion
import ActivityMatrix.Proofs.Synthesis.Openings
import ActivityMatrix.Proofs.Synthesis.Recursion
import ActivityMatrix.Proofs.Digraph.Levels
import ActivityMatrix.Proofs.Digraph.LeastOrder
import ActivityMatrix.Proofs.Digraph.LongestPaths
import ActivityMatrix.Proofs.Matrix.Mirror
import ActivityMatrix.Proofs.RelationSets.Mirror
import ActivityMatrix.Proofs.RelationSets.Layered
import ActivityMatrix.Proofs.Xml
import ActivityMatrix.Proofs.ProcessGraph.Bpmn
import ActivityMatrix.Proofs.Synthesis.Pending
import ActivityMatrix.Proofs.Synthesis.MeetingPoints
import ActivityMatrix.Proofs.Gateway.Reordered
import ActivityMatrix.Proofs.ProcessGraph.Labelled
import ActivityMatrix.Proofs.Matrix.Reading
import ActivityMatrix.Proofs.Gateway.Classes
import ActivityMatrix.Proofs.Digraph.NeighbourSearch
import ActivityMatrix.Proofs.RelationSets.Walk
import ActivityMatrix.Proofs.Synthesis.FreshGateways
import ActivityMatrix.Proofs.FileTree
import ActivityMatrix.Proofs.Json
import ActivityMatrix.Proofs.Declare.Documents
import ActivityMatrix.Proofs.Declare.Store
import ActivityMatrix.Proofs.Synthesis.Recursion
