import InterfaceAtlas.CommandLine.Help
import InterfaceAtlas.CommandLine.Request
import InterfaceAtlas.CommandLine.Run
import InterfaceAtlas.CommandLine.Word
import InterfaceAtlas.Container.OrderedMap
import InterfaceAtlas.Decimal.Nearest
import InterfaceAtlas.Decimal.Positional
import InterfaceAtlas.Decimal.Shortest
import InterfaceAtlas.Declaration.Basic
import InterfaceAtlas.Declaration.Interfaces
import InterfaceAtlas.Declaration.MethodTable
import InterfaceAtlas.Declaration.Methods
import InterfaceAtlas.Files.FileSystem
import InterfaceAtlas.Files.Path
import InterfaceAtlas.Files.Scan
import InterfaceAtlas.Files.Source
import InterfaceAtlas.Go.Category
import InterfaceAtlas.Go.ExpressionRules
import InterfaceAtlas.Go.File
import InterfaceAtlas.Go.Lexeme
import InterfaceAtlas.Go.Reading
import InterfaceAtlas.Go.StatementRules
import InterfaceAtlas.Go.TypeRules
import InterfaceAtlas.Journal.Console
import InterfaceAtlas.Journal.Level
import InterfaceAtlas.Journal.Logged
import InterfaceAtlas.Json.Basic
import InterfaceAtlas.Json.Reader
import InterfaceAtlas.Main
import InterfaceAtlas.Matching.Policy
import InterfaceAtlas.Matching.Relations
import InterfaceAtlas.Matching.Resolver
import InterfaceAtlas.Matching.Scope
import InterfaceAtlas.Proofs.Container.OrderedMap
import InterfaceAtlas.Proofs.Declaration.Interfaces
import InterfaceAtlas.Proofs.Declaration.MethodTable
import InterfaceAtlas.Proofs.Files.Path
import InterfaceAtlas.Proofs.Files.Resumption
import InterfaceAtlas.Proofs.Files.Scan
import InterfaceAtlas.Proofs.Files.Spelling
import InterfaceAtlas.Proofs.Files.Tree
import InterfaceAtlas.Proofs.Files.Walk
import InterfaceAtlas.Proofs.Matching.Coverage
import InterfaceAtlas.Proofs.Query.Answer
import InterfaceAtlas.Proofs.Query.Implementations
import InterfaceAtlas.Proofs.Query.Package
import InterfaceAtlas.Query.Basic
import InterfaceAtlas.Query.Command
import InterfaceAtlas.Query.Wire
import InterfaceAtlas.Settings.Basic
import InterfaceAtlas.Settings.Environment
import InterfaceAtlas.Settings.Fault
import InterfaceAtlas.Settings.Load
import InterfaceAtlas.Settings.Payload
import InterfaceAtlas.Syntax.Node
import InterfaceAtlas.Syntax.Point
import InterfaceAtlas.Syntax.Walk
import InterfaceAtlas.Text.Blank
import InterfaceAtlas.Text.Capital
import InterfaceAtlas.Text.Digit
import InterfaceAtlas.Text.Identifier
import InterfaceAtlas.Text.Printable
import InterfaceAtlas.Text.Quoted
import InterfaceAtlas.Text.Ranges
import InterfaceAtlas.Text.Utf8
import InterfaceAtlas.Value.Basic
import InterfaceAtlas.Value.Calendar
import InterfaceAtlas.Yaml.Cursor
import InterfaceAtlas.Yaml.Document
import InterfaceAtlas.Yaml.Node
import InterfaceAtlas.Yaml.Scalar
import InterfaceAtlas.Yaml.Tag
import InterfaceAtlas.Yaml.Token
import InterfaceAtlas.Proofs.Files.Fallback
import InterfaceAtlas.Proofs.Query.Interfaces
import InterfaceAtlas.Proofs.Query.Outcome
import InterfaceAtlas.Proofs.Files.Growth
import InterfaceAtlas.Proofs.Files.Harmless
import InterfaceAtlas.Proofs.Query.Harmless
import InterfaceAtlas.Proofs.Json.RoundTrip
import InterfaceAtlas.Proofs.Matching.Summary
import InterfaceAtlas.Proofs.Journal.Level
import InterfaceAtlas.Proofs.Settings.Outcome
import InterfaceAtlas.Proofs.CommandLine.Outcome
import InterfaceAtlas.Proofs.Matching.Relations
import InterfaceAtlas.Proofs.Matching.Resolution
import InterfaceAtlas.Proofs.Matching.Nesting
import InterfaceAtlas.Proofs.CommandLine.Level
import InterfaceAtlas.Proofs.Query.Extension
import InterfaceAtlas.Proofs.Files.Suspension
import InterfaceAtlas.Proofs.Settings.Validation
import InterfaceAtlas.Proofs.Settings.Layers
import InterfaceAtlas.Proofs.Settings.Normal
import InterfaceAtlas.Proofs.CommandLine.LevelEntries
import InterfaceAtlas.Proofs.Declaration.Grammar
import InterfaceAtlas.Proofs.Declaration.Order
import InterfaceAtlas.Proofs.Journal.Phases
import InterfaceAtlas.Proofs.Query.Phases
import InterfaceAtlas.Proofs.Journal.Console
import InterfaceAtlas.Proofs.Settings.Tokens
import InterfaceAtlas.Proofs.Syntax.Preorder
import InterfaceAtlas.Proofs.Syntax.Faults
import InterfaceAtlas.Proofs.Declaration.Receivers
