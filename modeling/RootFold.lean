import RootFold.Ancestry.Graph
import RootFold.Ancestry.PostOrder
import RootFold.CommandLine.Arguments
import RootFold.CommandLine.Commands
import RootFold.CommandLine.Failure
import RootFold.CommandLine.LogFilter
import RootFold.CommandLine.Run
import RootFold.Decimal.Binary64
import RootFold.Decimal.Layout
import RootFold.Document.Format
import RootFold.Document.Problem
import RootFold.Environment
import RootFold.Error
import RootFold.File.Tree
import RootFold.Folder.Basic
import RootFold.Folder.Json
import RootFold.Folder.Kind
import RootFold.Folder.Yaml
import RootFold.Glob.Match
import RootFold.Glob.Pattern
import RootFold.Json.Format
import RootFold.Json.Number
import RootFold.Json.Reader
import RootFold.Json.Token
import RootFold.Json.Value
import RootFold.Json.Writer
import RootFold.Main
import RootFold.Manifest.Basic
import RootFold.Manifest.Load
import RootFold.Manifest.Scan
import RootFold.Merge.Absorption
import RootFold.Merge.Accumulator
import RootFold.Merge.Simplified
import RootFold.Merge.Validity
import RootFold.Merge.Walk
import RootFold.Namespace.Cache
import RootFold.Namespace.Declaration
import RootFold.Namespace.Resolver
import RootFold.Note
import RootFold.Path.Basic
import RootFold.Path.Component
import RootFold.Path.Map
import RootFold.Path.Nesting
import RootFold.Path.Spelling
import RootFold.Regex.Basic
import RootFold.Regex.Bracket
import RootFold.Regex.CharClass
import RootFold.Regex.Cursor
import RootFold.Regex.Escape
import RootFold.Regex.Expression
import RootFold.Regex.Fault
import RootFold.Regex.Meaning
import RootFold.Regex.Reader
import RootFold.Regex.Tree
import RootFold.Report.AncestryTree
import RootFold.Report.Style
import RootFold.Simplify
import RootFold.Text.Blank
import RootFold.Text.Hexadecimal
import RootFold.Text.Occurrence
import RootFold.Text.Quoted
import RootFold.Text.Visible
import RootFold.Unicode.CaseFolding
import RootFold.Unicode.Category
import RootFold.Unicode.CodeRanges
import RootFold.Unicode.Property
import RootFold.Unicode.Script
import RootFold.Yaml.Format
import RootFold.Yaml.Node
import RootFold.Yaml.Resolution
import RootFold.Yaml.Scalar
import RootFold.Yaml.Tag
import RootFold.Yaml.Text
import RootFold.Yaml.Token
import RootFold.Yaml.TokenStream
import RootFold.Yaml.Writer
import RootFold.Proofs.Path.Climb
import RootFold.Proofs.Path.Covering
import RootFold.Proofs.Path.Map
import RootFold.Proofs.Ancestry.Closure
import RootFold.Proofs.Ancestry.Traversal
import RootFold.Proofs.Merge.Collapse
import RootFold.Proofs.Folder.Merge
import RootFold.Proofs.Merge.Absorption
import RootFold.Proofs.Merge.Node
import RootFold.Proofs.Merge.Template
import RootFold.Proofs.Merge.Walk
import RootFold.Proofs.Merge.Outcome
import RootFold.Proofs.Merge.Recursion
import RootFold.Proofs.Merge.Refinement
import RootFold.Proofs.Merge.Respelling
import RootFold.Proofs.Merge.Conservation
import RootFold.Proofs.Pass.Acceptance
import RootFold.Proofs.Pass.Partition
import RootFold.Proofs.Namespace.Mirror
import RootFold.Proofs.Pass.IdentityLayout
import RootFold.Proofs.Pass.Idempotence
import RootFold.Proofs.Namespace.Learned
import RootFold.Proofs.Namespace.Teaching
import RootFold.Proofs.Pass.Absorption
import RootFold.Proofs.Pass.PackageTree
import RootFold.Proofs.Pass.PackageLayout
import RootFold.Proofs.Pass.Repetition
import RootFold.Proofs.Pass.TableRepetition
import RootFold.Proofs.CommandLine.Agreement
import RootFold.Proofs.Pass.Exclusion
import RootFold.Proofs.Pass.InputOrder
import RootFold.Proofs.Pass.Unplaced
import RootFold.Proofs.Ancestry.Spelling
import RootFold.Proofs.Merge.Restriction
import RootFold.Proofs.Pass.Separation
import RootFold.Proofs.Namespace.FirstTeacher
import RootFold.Proofs.Pass.Lookups
import RootFold.Proofs.Ancestry.PostOrder
import RootFold.Proofs.Merge.Waiting
import RootFold.Proofs.Ancestry.Respelling
import RootFold.Proofs.Ancestry.Levels
import RootFold.Proofs.Report.AncestryTree
import RootFold.Proofs.File.Tree
import RootFold.Proofs.Manifest.Scan
import RootFold.Proofs.Namespace.Declaration
import RootFold.Proofs.Json.Spelling
import RootFold.Proofs.Json.RoundTrip
import RootFold.Proofs.Folder.Json
