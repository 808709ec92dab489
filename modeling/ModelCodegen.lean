import ModelCodegen.CommandLine.OptionName
import ModelCodegen.CommandLine.Options
import ModelCodegen.CommandLine.Session
import ModelCodegen.Config.Document
import ModelCodegen.Config.Settings
import ModelCodegen.Entries
import ModelCodegen.Error
import ModelCodegen.Files.Path
import ModelCodegen.Files.Replacement
import ModelCodegen.Files.System
import ModelCodegen.Files.Tree
import ModelCodegen.Generation.Artifact
import ModelCodegen.Generation.Binding
import ModelCodegen.Generation.Context
import ModelCodegen.Generation.Job
import ModelCodegen.Generation.Run
import ModelCodegen.Generation.WritePass
import ModelCodegen.Json.Parser
import ModelCodegen.Json.Printer
import ModelCodegen.Json.Tree
import ModelCodegen.Json.Value
import ModelCodegen.Main
import ModelCodegen.Name.Endpoint
import ModelCodegen.Name.Identifier
import ModelCodegen.Name.Plural
import ModelCodegen.Name.Spelling
import ModelCodegen.Number.Binary64
import ModelCodegen.Number.Shortest
import ModelCodegen.PathRule
import ModelCodegen.Placeholder
import ModelCodegen.Proofs.AcceptedRule
import ModelCodegen.Proofs.CommandLine.Loading
import ModelCodegen.Proofs.CommandLine.Session
import ModelCodegen.Proofs.Config.Reading
import ModelCodegen.Proofs.Entries
import ModelCodegen.Proofs.Files.Action
import ModelCodegen.Proofs.Files.Attempt
import ModelCodegen.Proofs.Files.Below
import ModelCodegen.Proofs.Files.Change
import ModelCodegen.Proofs.Files.CleanPath
import ModelCodegen.Proofs.Files.Damage
import ModelCodegen.Proofs.Files.Leftover
import ModelCodegen.Proofs.Files.Node
import ModelCodegen.Proofs.Files.Place
import ModelCodegen.Proofs.Files.Replacement
import ModelCodegen.Proofs.Files.Segment
import ModelCodegen.Proofs.Files.SourcePath
import ModelCodegen.Proofs.FlatPattern
import ModelCodegen.Proofs.Generation.Aggregates
import ModelCodegen.Proofs.Generation.BuiltinJobs
import ModelCodegen.Proofs.Generation.BuiltinRun
import ModelCodegen.Proofs.Generation.BuiltinSuccess
import ModelCodegen.Proofs.Generation.ClassNames
import ModelCodegen.Proofs.Generation.Companions
import ModelCodegen.Proofs.Generation.Concatenation
import ModelCodegen.Proofs.Generation.Confinement
import ModelCodegen.Proofs.Generation.Coordinates
import ModelCodegen.Proofs.Generation.Data
import ModelCodegen.Proofs.Generation.DataShape
import ModelCodegen.Proofs.Generation.Declaration
import ModelCodegen.Proofs.Generation.DeclaredModels
import ModelCodegen.Proofs.Generation.DeclaredNames
import ModelCodegen.Proofs.Generation.Disposition
import ModelCodegen.Proofs.Generation.DistinctFiles
import ModelCodegen.Proofs.Generation.DryRun
import ModelCodegen.Proofs.Generation.FailurePolicy
import ModelCodegen.Proofs.Generation.FirstClaim
import ModelCodegen.Proofs.Generation.Frame
import ModelCodegen.Proofs.Generation.ImportClosure
import ModelCodegen.Proofs.Generation.Insertion
import ModelCodegen.Proofs.Generation.ItemAddress
import ModelCodegen.Proofs.Generation.Job
import ModelCodegen.Proofs.Generation.LookedUp
import ModelCodegen.Proofs.Generation.Mapping
import ModelCodegen.Proofs.Generation.OutputAt
import ModelCodegen.Proofs.Generation.Overrides
import ModelCodegen.Proofs.Generation.PaddedEndpoint
import ModelCodegen.Proofs.Generation.PassStep
import ModelCodegen.Proofs.Generation.PlainValues
import ModelCodegen.Proofs.Generation.QuotedValues
import ModelCodegen.Proofs.Generation.ReferenceTexts
import ModelCodegen.Proofs.Generation.References
import ModelCodegen.Proofs.Generation.Regeneration
import ModelCodegen.Proofs.Generation.Repetition
import ModelCodegen.Proofs.Generation.Shielding
import ModelCodegen.Proofs.Generation.SideBySide
import ModelCodegen.Proofs.Generation.StackSettings
import ModelCodegen.Proofs.Generation.Support
import ModelCodegen.Proofs.Generation.TemplateOverrides
import ModelCodegen.Proofs.Generation.WritePass
import ModelCodegen.Proofs.ImportPath
import ModelCodegen.Proofs.Json.QuotedText
import ModelCodegen.Proofs.Name.Address
import ModelCodegen.Proofs.Name.Slashes
import ModelCodegen.Proofs.Name.Spelling
import ModelCodegen.Proofs.PathApart
import ModelCodegen.Proofs.PathRule
import ModelCodegen.Proofs.PathShape
import ModelCodegen.Proofs.Pattern
import ModelCodegen.Proofs.Placeholder
import ModelCodegen.Proofs.RelativePath
import ModelCodegen.Proofs.Result
import ModelCodegen.Proofs.Schema.Acceptance
import ModelCodegen.Proofs.Schema.Assembly
import ModelCodegen.Proofs.Schema.Groups
import ModelCodegen.Proofs.Schema.Loaded
import ModelCodegen.Proofs.Schema.Overlap
import ModelCodegen.Proofs.Schema.Partition
import ModelCodegen.Proofs.Schema.TypeTag
import ModelCodegen.Proofs.Stack.Builtin
import ModelCodegen.Proofs.Stack.BuiltinApart
import ModelCodegen.Proofs.Stack.BuiltinPaths
import ModelCodegen.Proofs.Stack.BuiltinScripts
import ModelCodegen.Proofs.Stack.Construction
import ModelCodegen.Proofs.Stack.DeclarationScripts
import ModelCodegen.Proofs.Stack.Imports
import ModelCodegen.Proofs.Stack.Lookup
import ModelCodegen.Proofs.Stack.MemberScripts
import ModelCodegen.Proofs.Stack.QuotedScripts
import ModelCodegen.Proofs.Stack.ReferenceScripts
import ModelCodegen.Proofs.Stack.Registry
import ModelCodegen.Proofs.Stack.TemplateDirectory
import ModelCodegen.Proofs.Template.Cell
import ModelCodegen.Proofs.Template.Cut
import ModelCodegen.Proofs.Template.Import
import ModelCodegen.Proofs.Template.ImportScan
import ModelCodegen.Proofs.Template.Quotation
import ModelCodegen.Proofs.Template.Rendering
import ModelCodegen.Proofs.Template.Script
import ModelCodegen.Proofs.Template.Shape
import ModelCodegen.Proofs.Template.Text
import ModelCodegen.Proofs.Text.Capital
import ModelCodegen.Proofs.Text.Kebab
import ModelCodegen.Proofs.Text.Stripping
import ModelCodegen.Proofs.Text.Word
import ModelCodegen.Schema.Attribute
import ModelCodegen.Schema.Definition
import ModelCodegen.Schema.Document
import ModelCodegen.Schema.JsonReader
import ModelCodegen.Schema.Model
import ModelCodegen.Schema.Set
import ModelCodegen.Schema.Source
import ModelCodegen.Schema.YamlReader
import ModelCodegen.Stack.Builtin
import ModelCodegen.Stack.BuiltinTemplates
import ModelCodegen.Stack.Registration
import ModelCodegen.Stack.Registry
import ModelCodegen.Stack.Templates.Angular
import ModelCodegen.Stack.Templates.Angular2
import ModelCodegen.Stack.Templates.Ember
import ModelCodegen.Stack.Templates.EmberDynamic
import ModelCodegen.Stack.Templates.MobxAxios
import ModelCodegen.Stack.Templates.VuexOrmAxios
import ModelCodegen.Stack.TypeMapping
import ModelCodegen.Target
import ModelCodegen.Template.Body
import ModelCodegen.Template.Collection
import ModelCodegen.Template.Expression
import ModelCodegen.Template.Helper
import ModelCodegen.Template.Indentation
import ModelCodegen.Template.Layout
import ModelCodegen.Template.Parser
import ModelCodegen.Template.Render
import ModelCodegen.Template.Scan
import ModelCodegen.Template.Segment
import ModelCodegen.Template.Syntax
import ModelCodegen.Template.Value
import ModelCodegen.Text.Alphanumeric
import ModelCodegen.Text.Blank
import ModelCodegen.Text.LetterCase
import ModelCodegen.Text.Word
import ModelCodegen.Toml.Moment
import ModelCodegen.Toml.Number
import ModelCodegen.Toml.Parser
import ModelCodegen.Toml.Table
import ModelCodegen.Yaml.BlockScalar
import ModelCodegen.Yaml.Cursor
import ModelCodegen.Yaml.FlowScalar
import ModelCodegen.Yaml.Lexer
import ModelCodegen.Yaml.Node
import ModelCodegen.Yaml.Parser
import ModelCodegen.Yaml.Property
import ModelCodegen.Yaml.Scalar
import ModelCodegen.Yaml.Token
