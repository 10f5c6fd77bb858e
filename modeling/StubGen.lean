import StubGen.Command.Arguments
import StubGen.Command.Flag
import StubGen.Command.Help
import StubGen.Command.Invocation
import StubGen.Command.Outcome
import StubGen.Command.RequestFile
import StubGen.Command.Run
import StubGen.Command.UsageFault
import StubGen.Command.Word
import StubGen.Files.Folder
import StubGen.Files.Path
import StubGen.Files.Reading
import StubGen.Generation
import StubGen.Http.Exchange
import StubGen.Http.Path
import StubGen.Http.Route
import StubGen.Json.Basic
import StubGen.Json.Literal
import StubGen.Json.Printer
import StubGen.Json.Reader
import StubGen.Log.Record
import StubGen.Log.Setup
import StubGen.Main
import StubGen.Number.Arithmetic
import StubGen.Number.Binary64
import StubGen.Number.Shortest
import StubGen.Page.Layout
import StubGen.Page.Preview
import StubGen.Proofs.DryRun
import StubGen.Proofs.Enumeration
import StubGen.Proofs.Except
import StubGen.Proofs.GenerationOutcome
import StubGen.Proofs.Lexing
import StubGen.Proofs.RequestReading
import StubGen.Proofs.SpellingRoundTrip
import StubGen.Proofs.TypeChecking
import StubGen.Registry
import StubGen.Schema.Fault
import StubGen.Schema.Reader
import StubGen.Service.Failure
import StubGen.Service.Handler
import StubGen.Service.Request
import StubGen.Service.Response
import StubGen.Settings.Basic
import StubGen.Settings.Document
import StubGen.Settings.Loading
import StubGen.Signature.Basic
import StubGen.Signature.Check
import StubGen.Signature.Part
import StubGen.Signature.Schema
import StubGen.Stub.Argument
import StubGen.Stub.Context
import StubGen.Stub.File
import StubGen.Stub.Harness
import StubGen.Stub.Solution
import StubGen.Support
import StubGen.Target.Basic
import StubGen.Target.Default
import StubGen.Target.Import
import StubGen.Target.Spelling
import StubGen.Target.TreeNode
import StubGen.Text.Base64
import StubGen.Text.Blank
import StubGen.Text.Block
import StubGen.Text.CaseRun
import StubGen.Text.Digit
import StubGen.Text.Hex
import StubGen.Text.Letter
import StubGen.Text.Lower
import StubGen.Text.Printable
import StubGen.Text.Quoted
import StubGen.Text.Range
import StubGen.Text.Raw
import StubGen.Text.Surrogate
import StubGen.Text.Upper
import StubGen.Text.Utf8
import StubGen.Text.Wide
import StubGen.TypeExpr.Basic
import StubGen.TypeExpr.Encoding
import StubGen.TypeExpr.Enumeration
import StubGen.TypeExpr.Parser
import StubGen.TypeExpr.Token
import StubGen.Yaml.Composition
import StubGen.Yaml.Construction
import StubGen.Yaml.Cursor
import StubGen.Yaml.Data
import StubGen.Yaml.Document
import StubGen.Yaml.Error
import StubGen.Yaml.Lexer
import StubGen.Yaml.Merge
import StubGen.Yaml.Node
import StubGen.Yaml.Number
import StubGen.Yaml.Property
import StubGen.Yaml.Scalar
import StubGen.Yaml.Slot
import StubGen.Yaml.Tag
import StubGen.Yaml.Timestamp
import StubGen.Yaml.Token
import StubGen.Proofs.EnabledLanguages
import StubGen.Proofs.SettingsLoading
import StubGen.Proofs.TypeTable
import StubGen.Proofs.RequestFaults
import StubGen.Proofs.RequestFiles
import StubGen.Proofs.CommandRuns
import StubGen.Proofs.SettingsMonotonicity
import StubGen.Proofs.RouteTable
import StubGen.Proofs.Separators
import StubGen.Proofs.BlockJoining
import StubGen.Proofs.BlockLines
import StubGen.Proofs.FileLines
import StubGen.Proofs.SectionLayout
import StubGen.Proofs.FileFaithfulness
import StubGen.Proofs.TreeHelper
import StubGen.Proofs.FileParts
import StubGen.Proofs.RegistryRuns
import StubGen.Proofs.SettingsReading
import StubGen.Proofs.RequestSchema
import StubGen.Proofs.RequestReplies
import StubGen.Proofs.LongIntegers
import StubGen.Proofs.PreviewPane
import StubGen.Proofs.ArgumentMeaning
import StubGen.Proofs.PythonArguments
import StubGen.Proofs.JavascriptArguments
import StubGen.Proofs.StrayCharacters
import StubGen.Proofs.ErrorColumns
import StubGen.Proofs.DefaultValues
import StubGen.Proofs.CallScope
import StubGen.Proofs.TypeEncoding
import StubGen.Proofs.JavaGenerics
import StubGen.Proofs.PythonTyping
import StubGen.Proofs.NameLayout
import StubGen.Proofs.FaultPlaces
import StubGen.Proofs.TypeCounts
import StubGen.Proofs.TableGroups
import StubGen.Proofs.ImportSets
import StubGen.Proofs.TypeWalk
import StubGen.Proofs.LogSetup
import StubGen.Proofs.CommandLines
import StubGen.Proofs.TableLines
import StubGen.Proofs.SettingSources
