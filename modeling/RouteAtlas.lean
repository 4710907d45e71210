import RouteAtlas.CommandLine.Arguments
import RouteAtlas.CommandLine.Run
import RouteAtlas.Dictionary
import RouteAtlas.Error
import RouteAtlas.Extraction.Fields
import RouteAtlas.Extraction.Identity
import RouteAtlas.Extraction.Serialization
import RouteAtlas.Extraction.Signature
import RouteAtlas.Extraction.Tree
import RouteAtlas.Field
import RouteAtlas.Files.Disk
import RouteAtlas.Files.Machine
import RouteAtlas.Files.Path
import RouteAtlas.Files.System
import RouteAtlas.Generation.Artifacts
import RouteAtlas.Handler
import RouteAtlas.Json.Decoder
import RouteAtlas.Json.Fault
import RouteAtlas.Json.Number
import RouteAtlas.Json.Printer
import RouteAtlas.Json.Reader
import RouteAtlas.Json.Reading
import RouteAtlas.Json.Value
import RouteAtlas.Main
import RouteAtlas.Method
import RouteAtlas.Method.Map
import RouteAtlas.Number.Binary64
import RouteAtlas.OpenApi.Assembly
import RouteAtlas.OpenApi.Document
import RouteAtlas.OpenApi.Printer
import RouteAtlas.OpenApi.Reader
import RouteAtlas.PathNode.Basic
import RouteAtlas.PathNode.Dump
import RouteAtlas.PathNode.Load
import RouteAtlas.PathNode.Walk
import RouteAtlas.Proofs.JsonSpelling
import RouteAtlas.Proofs.JsonTokens
import RouteAtlas.Registration.Context
import RouteAtlas.Registration.FromJson
import RouteAtlas.Registration.Options
import RouteAtlas.Registration.Renderer
import RouteAtlas.Role.Map
import RouteAtlas.Route.Basic
import RouteAtlas.Route.Builder
import RouteAtlas.Segment
import RouteAtlas.Settings.Basic
import RouteAtlas.Settings.Loading
import RouteAtlas.Settings.Schema
import RouteAtlas.Settings.Yaml
import RouteAtlas.Symbols.Alias
import RouteAtlas.Symbols.Ascending
import RouteAtlas.Symbols.Collector
import RouteAtlas.Symbols.Dump
import RouteAtlas.Symbols.Table
import RouteAtlas.Template.Embedded
import RouteAtlas.Template.Engine
import RouteAtlas.Template.Expr
import RouteAtlas.Template.Filter
import RouteAtlas.Template.Lexer
import RouteAtlas.Template.Run
import RouteAtlas.Template.Stmt
import RouteAtlas.Template.Token
import RouteAtlas.Template.Value
import RouteAtlas.Text.Blank
import RouteAtlas.Text.Casing
import RouteAtlas.Text.Shown
import RouteAtlas.Text.Split
import RouteAtlas.Text.Unprinted
import RouteAtlas.Types.Desc
import RouteAtlas.Types.Function
import RouteAtlas.Types.Tags
import RouteAtlas.Yaml.Block
import RouteAtlas.Yaml.Cursor
import RouteAtlas.Yaml.Decoder
import RouteAtlas.Yaml.Kind
import RouteAtlas.Yaml.Node
import RouteAtlas.Yaml.OfJson
import RouteAtlas.Yaml.Plain
import RouteAtlas.Yaml.Printer
import RouteAtlas.Yaml.Quoted
import RouteAtlas.Yaml.Reader
import RouteAtlas.Yaml.Style
import RouteAtlas.Proofs.JsonRoundTrip
import RouteAtlas.Proofs.TypedReading
import RouteAtlas.Proofs.DumpReload
import RouteAtlas.Proofs.ExtractionSteps
import RouteAtlas.Proofs.ExtractionAcceptance
import RouteAtlas.Proofs.ExtractionMirror
import RouteAtlas.Proofs.DictionaryLaws
import RouteAtlas.Proofs.DocumentPaths
import RouteAtlas.Proofs.PathRendering
import RouteAtlas.Proofs.ExtractedTree
import RouteAtlas.Proofs.SymbolLookup
import RouteAtlas.Proofs.AliasTable
import RouteAtlas.Proofs.CollectorRuns
import RouteAtlas.Proofs.AliasWords
import RouteAtlas.Proofs.MissingSymbols
import RouteAtlas.Proofs.BackEndAgreement
import RouteAtlas.Proofs.ReferenceHygiene
import RouteAtlas.Proofs.FileLedger
import RouteAtlas.Proofs.MachineLedger
import RouteAtlas.Proofs.WriteFaults
import RouteAtlas.Proofs.TemplateExecution
import RouteAtlas.Proofs.EmbeddedTemplate
import RouteAtlas.Proofs.RegistrationCode
import RouteAtlas.Proofs.CommentLines
import RouteAtlas.Proofs.Positions
import RouteAtlas.Proofs.DocumentRecords
import RouteAtlas.Proofs.DocumentReload
import RouteAtlas.Proofs.EndpointPlaces
import RouteAtlas.Proofs.ImportUsage
import RouteAtlas.Proofs.SiblingOrder
import RouteAtlas.Proofs.NamedReferences
import RouteAtlas.Proofs.ExtractionDemands
import RouteAtlas.Proofs.ExtractionFaults
import RouteAtlas.Proofs.SchemaChecks
import RouteAtlas.Proofs.TaskFrames
import RouteAtlas.Proofs.CommandWords
import RouteAtlas.Proofs.MachineQuestions
import RouteAtlas.Proofs.MachineSources
import RouteAtlas.Proofs.CommandRuns
import RouteAtlas.Proofs.FieldShapes
import RouteAtlas.Proofs.EmbeddedMembers
import RouteAtlas.Proofs.OperationParts
import RouteAtlas.Proofs.Deliveries
import RouteAtlas.Proofs.WrittenTags
import RouteAtlas.Proofs.QualifiedNames
import RouteAtlas.Proofs.TagResolution
import RouteAtlas.Proofs.SchemaPlaces
import RouteAtlas.Proofs.BuilderCalls
import RouteAtlas.Proofs.QuotedLiterals
import RouteAtlas.Proofs.TruncatedReading
import RouteAtlas.Proofs.TruncatedDumps
import RouteAtlas.Proofs.JsonSources
import RouteAtlas.Proofs.PresentedDumps
import RouteAtlas.Proofs.WalkOrder
import RouteAtlas.Proofs.RendererRuns
import RouteAtlas.Proofs.YamlTokens
import RouteAtlas.Proofs.YamlPlain
import RouteAtlas.Proofs.YamlQuotes
import RouteAtlas.Proofs.YamlBlocks
import RouteAtlas.Proofs.YamlStyles
import RouteAtlas.Proofs.YamlScalars
import RouteAtlas.Proofs.YamlRoundTrip
import RouteAtlas.Proofs.YamlRecords
import RouteAtlas.Proofs.YamlValues
import RouteAtlas.Proofs.SettingsPatches
