import ForeignBindings.Batch.FrontEnd
import ForeignBindings.Batch.Product
import ForeignBindings.Batch.Run
import ForeignBindings.Batch.Session
import ForeignBindings.CType
import ForeignBindings.CommandLine
import ForeignBindings.Configuration
import ForeignBindings.Contents
import ForeignBindings.Declaration
import ForeignBindings.Diagnostic
import ForeignBindings.Diagnostic.Code
import ForeignBindings.Diagnostic.Queue
import ForeignBindings.Diagnostic.Terminal
import ForeignBindings.Enumerator
import ForeignBindings.FileTree
import ForeignBindings.Format.Configuration
import ForeignBindings.Format.Contents
import ForeignBindings.Format.Converter
import ForeignBindings.Format.Declaration
import ForeignBindings.Format.Type
import ForeignBindings.Layout
import ForeignBindings.Layout.ByValue
import ForeignBindings.Layout.DataModel
import ForeignBindings.Layout.Words
import ForeignBindings.Location
import ForeignBindings.Lowering.Policy
import ForeignBindings.Lowering.Rejection
import ForeignBindings.Lowering.Type
import ForeignBindings.Lowering.Unit
import ForeignBindings.Main
import ForeignBindings.Name.Affixes
import ForeignBindings.Name.Case
import ForeignBindings.Name.Clash
import ForeignBindings.Name.Converter
import ForeignBindings.Name.Keywords
import ForeignBindings.Name.Kind
import ForeignBindings.Name.Resolver
import ForeignBindings.Name.Table
import ForeignBindings.Name.Word
import ForeignBindings.NameMap
import ForeignBindings.OrderedMap
import ForeignBindings.Path
import ForeignBindings.Proofs.Batch.Accounting
import ForeignBindings.Proofs.Batch.Answers
import ForeignBindings.Proofs.Batch.Ending
import ForeignBindings.Proofs.Batch.KeptModules
import ForeignBindings.Proofs.Batch.Outcomes
import ForeignBindings.Proofs.Batch.SeparateFiles
import ForeignBindings.Proofs.Diagnostic.Agreement
import ForeignBindings.Proofs.Diagnostic.Blocks
import ForeignBindings.Proofs.Diagnostic.Color
import ForeignBindings.Proofs.Diagnostic.Queue
import ForeignBindings.Proofs.Diagnostic.Refinement
import ForeignBindings.Proofs.Diagnostic.TerminalBlocks
import ForeignBindings.Proofs.FileTree.Destination
import ForeignBindings.Proofs.FileTree.Writing
import ForeignBindings.Proofs.Format.Collections
import ForeignBindings.Proofs.Format.Configurations
import ForeignBindings.Proofs.Format.Contents
import ForeignBindings.Proofs.Format.Declarations
import ForeignBindings.Proofs.Format.Parts
import ForeignBindings.Proofs.Format.RoundTrip
import ForeignBindings.Proofs.Format.Types
import ForeignBindings.Proofs.Layout.Alignment
import ForeignBindings.Proofs.Layout.ByValue
import ForeignBindings.Proofs.Layout.Exactness
import ForeignBindings.Proofs.Layout.LeastPlacement
import ForeignBindings.Proofs.Layout.Placement
import ForeignBindings.Proofs.Layout.Search
import ForeignBindings.Proofs.Layout.WidestModel
import ForeignBindings.Proofs.Layout.Words
import ForeignBindings.Proofs.Lowering.Binding
import ForeignBindings.Proofs.Lowering.Composition
import ForeignBindings.Proofs.Lowering.Offence
import ForeignBindings.Proofs.Lowering.Parts
import ForeignBindings.Proofs.Lowering.PolicySwitches
import ForeignBindings.Proofs.Lowering.RejectedDeclarations
import ForeignBindings.Proofs.Lowering.Report
import ForeignBindings.Proofs.Lowering.Shape
import ForeignBindings.Proofs.Lowering.TypedefChains
import ForeignBindings.Proofs.Lowering.TypedefNames
import ForeignBindings.Proofs.Lowering.WellFormed
import ForeignBindings.Proofs.Name.Calls
import ForeignBindings.Proofs.Name.ClashReport
import ForeignBindings.Proofs.Name.FirstLetter
import ForeignBindings.Proofs.Name.Initial
import ForeignBindings.Proofs.Name.Layering
import ForeignBindings.Proofs.Name.Merging
import ForeignBindings.Proofs.Name.Recall
import ForeignBindings.Proofs.Name.Respelling
import ForeignBindings.Proofs.Name.Segmentation
import ForeignBindings.Proofs.Name.Spelling
import ForeignBindings.Proofs.Path.Parts
import ForeignBindings.Proofs.Path.SourceKey
import ForeignBindings.Proofs.Render.Declarations
import ForeignBindings.Proofs.Render.DistinctNames
import ForeignBindings.Proofs.Render.EnumInstances
import ForeignBindings.Proofs.Render.FieldType
import ForeignBindings.Proofs.Render.HostDeclaration
import ForeignBindings.Proofs.Render.HostTokens
import ForeignBindings.Proofs.Render.HostType
import ForeignBindings.Proofs.Render.Independence
import ForeignBindings.Proofs.Render.InstanceSearch
import ForeignBindings.Proofs.Render.Instances
import ForeignBindings.Proofs.Render.Module
import ForeignBindings.Proofs.Render.References
import ForeignBindings.Proofs.Render.Trace
import ForeignBindings.Proofs.Render.TypeReading
import ForeignBindings.Proofs.Render.TypeText
import ForeignBindings.Proofs.Render.TypeTokens
import ForeignBindings.Proofs.Scalar.StandardNames
import ForeignBindings.Proofs.Text.Lines
import ForeignBindings.Render.Buffer
import ForeignBindings.Render.Module
import ForeignBindings.Render.Options
import ForeignBindings.Render.ScalarName
import ForeignBindings.Render.State
import ForeignBindings.Render.Storable
import ForeignBindings.Render.TypeText
import ForeignBindings.Scalar
import ForeignBindings.Scalar.Alias
import ForeignBindings.Scalar.Builtin
import ForeignBindings.ScopedName
import ForeignBindings.SourceFile
import ForeignBindings.Text.Blank
import ForeignBindings.Value
import ForeignBindings.Value.Collection
import ForeignBindings.Value.Json
import ForeignBindings.Value.JsonText
import ForeignBindings.Value.Leaf
import ForeignBindings.Value.Number
import ForeignBindings.Value.Plain
import ForeignBindings.Value.Record
import ForeignBindings.Value.Yaml
import ForeignBindings.Value.Yaml.Scalar
import ForeignBindings.Value.Yaml.Token
import ForeignBindings.Value.YamlText
