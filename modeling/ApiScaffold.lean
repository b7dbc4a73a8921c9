import ApiScaffold.Text.Case
import ApiScaffold.Text.Blank
import ApiScaffold.Text.Pieces
import ApiScaffold.Text.Quoted
import ApiScaffold.Number.Written
import ApiScaffold.Json.Reader
import ApiScaffold.Json.Printer
import ApiScaffold.Identifier.Exported
import ApiScaffold.Identifier.Package
import ApiScaffold.Identifier.Qualified
import ApiScaffold.Go.Literal
import ApiScaffold.OpenApi.Mismatch
import ApiScaffold.OpenApi.Schema
import ApiScaffold.OpenApi.Specification
import ApiScaffold.OpenApi.Decode.Record
import ApiScaffold.OpenApi.Decode.Schema
import ApiScaffold.OpenApi.Decode.Specification
import ApiScaffold.Diagnostic.Basic
import ApiScaffold.Diagnostic.Problem
import ApiScaffold.OpenApi.Reference
import ApiScaffold.Pattern.Expression
import ApiScaffold.Pattern.PropertyNames
import ApiScaffold.Pattern.Reader
import ApiScaffold.Yaml.Cursor
import ApiScaffold.Yaml.ScalarText
import ApiScaffold.Yaml.Token
import ApiScaffold.Yaml.Node
import ApiScaffold.Yaml.Value
import ApiScaffold.OpenApi.Document
import ApiScaffold.Registry
import ApiScaffold.Blueprint.Shape
import ApiScaffold.Blueprint.Status
import ApiScaffold.Config
import ApiScaffold.OpenApi.Extensions
import ApiScaffold.Blueprint.Draft
import ApiScaffold.Blueprint.Enumerating
import ApiScaffold.Blueprint.Limits
import ApiScaffold.Blueprint.Shaping
import ApiScaffold.Blueprint.Assembly
import ApiScaffold.Source.Buffer
import ApiScaffold.Source.Code
import ApiScaffold.Source.Declared
import ApiScaffold.Source.Layout
import ApiScaffold.Go.Comment
import ApiScaffold.Go.Package
import ApiScaffold.Go.Statement
import ApiScaffold.Go.TypeExpression
import ApiScaffold.Go.Declaration
import ApiScaffold.Go.File
import ApiScaffold.Server.Conversion
import ApiScaffold.Server.Validation
import ApiScaffold.Server.Optional
import ApiScaffold.Server.Outcome
import ApiScaffold.Server.Components
import ApiScaffold.Server.Hooks
import ApiScaffold.Server.Security
import ApiScaffold.Server.ParameterReading
import ApiScaffold.Server.Parser
import ApiScaffold.Server.Artifact
import ApiScaffold.CommandLine
import ApiScaffold.Main
import ApiScaffold.Storage.FileTree
import ApiScaffold.Proofs.ReferenceClosure
import ApiScaffold.Proofs.ImportUse
import ApiScaffold.Proofs.SchemaOrder
import ApiScaffold.Proofs.DeclaredOnce
import ApiScaffold.Proofs.ComponentNames
import ApiScaffold.Proofs.PathInsertion
import ApiScaffold.Proofs.ReorderedProgram
import ApiScaffold.Proofs.EmittedNames
import ApiScaffold.Proofs.LocalVariables
import ApiScaffold.Proofs.NormalForm
import ApiScaffold.Proofs.ProgramOrder
import ApiScaffold.Proofs.KeptChecks
import ApiScaffold.Proofs.RecursiveTypes
import ApiScaffold.Proofs.DecoderPresence
import ApiScaffold.Proofs.ReferredFields
import ApiScaffold.Proofs.CarriedValidators
import ApiScaffold.Proofs.MediaLabels
import ApiScaffold.Proofs.AcceptedValues
import ApiScaffold.Proofs.BodyCodecs
import ApiScaffold.Proofs.SkippedValidation
import ApiScaffold.Proofs.ImportNames
import ApiScaffold.Proofs.StructTags
import ApiScaffold.Proofs.StatedLimits
import ApiScaffold.Proofs.ValidatorFixpoint
import ApiScaffold.Proofs.DeclaredProperties
import ApiScaffold.Proofs.DeclaredAliases
import ApiScaffold.Proofs.MergedParameters
import ApiScaffold.Proofs.FollowedReferences
import ApiScaffold.Proofs.FollowedNames
import ApiScaffold.Proofs.ClosureCheck
import ApiScaffold.Proofs.EnumeratedValues
import ApiScaffold.Proofs.StableNames
import ApiScaffold.Proofs.ContainedText
import ApiScaffold.Proofs.PackageNames
import ApiScaffold.Proofs.TextConversions
import ApiScaffold.Proofs.CanonicalText
import ApiScaffold.Proofs.QualifiedNames
import ApiScaffold.Proofs.ResponseKeys
import ApiScaffold.Proofs.HeaderExtensions
import ApiScaffold.Proofs.AttributedFailures
import ApiScaffold.Proofs.SeparatedLines
