import Bindery.CommandLine
import Bindery.CommandLine.Run
import Bindery.Compilation
import Bindery.Config
import Bindery.Config.Read
import Bindery.DataType
import Bindery.Diagnostic
import Bindery.Fault
import Bindery.FileTree
import Bindery.FileTree.Change
import Bindery.FileTree.Path
import Bindery.Generator
import Bindery.Generator.C
import Bindery.Generator.C.Rules
import Bindery.Generator.C.Templates
import Bindery.Generator.Constructor
import Bindery.Generator.Doxygen
import Bindery.Generator.Doxygen.Rules
import Bindery.Generator.Doxygen.Templates
import Bindery.Generator.Excel
import Bindery.Generator.Excel.Rules
import Bindery.Generator.Excel.Templates
import Bindery.Generator.Kit
import Bindery.Generator.Page
import Bindery.Generator.Registration
import Bindery.Generator.Registration.Templates
import Bindery.Generator.Serialization
import Bindery.Generator.Serialization.Rules
import Bindery.Generator.Serialization.Templates
import Bindery.Generator.ValueObjects
import Bindery.Generator.ValueObjects.Rules
import Bindery.Generator.ValueObjects.Templates
import Bindery.Implementation
import Bindery.Lint
import Bindery.LoadError
import Bindery.Locator
import Bindery.Main
import Bindery.Metadata
import Bindery.Metadata.Form
import Bindery.Metadata.OfWritten
import Bindery.Metadata.Read
import Bindery.Metadata.Written
import Bindery.Naming
import Bindery.Output.Banner
import Bindery.Output.File
import Bindery.Output.Summary
import Bindery.Platform
import Bindery.Project
import Bindery.Project.Check
import Bindery.Project.Generation
import Bindery.Project.Listing
import Bindery.Registry
import Bindery.Registry.OfMetadata
import Bindery.Rule
import Bindery.Rule.Override
import Bindery.Rule.Read
import Bindery.Rule.Set
import Bindery.Support
import Bindery.Tag
import Bindery.Template
import Bindery.Template.Override
import Bindery.Template.Set
import Bindery.Terminal
import Bindery.Text.Blank
import Bindery.Text.Case
import Bindery.Text.Case.Table
import Bindery.Text.Counted
import Bindery.Text.Identifier
import Bindery.Text.Search
import Bindery.Toml.Document
import Bindery.Toml.Moment
import Bindery.Toml.Scalar
import Bindery.Toml.Table
import Bindery.Toml.Value
import Bindery.Vocabulary
import Bindery.Xml.Attribute
import Bindery.Xml.Content
import Bindery.Xml.Entity
import Bindery.Xml.Field
import Bindery.Xml.Form
import Bindery.Xml.Scope
import Bindery.Xml.Token
import Bindery.Xml.Tree
import Bindery.Proofs.Compilation.Lints
import Bindery.Proofs.Compilation.Repeats
import Bindery.Proofs.Compilation.Steps
import Bindery.Proofs.Compilation.Verdict
import Bindery.Proofs.FileTree.Listing
import Bindery.Proofs.FileTree.Look
import Bindery.Proofs.FileTree.Route
import Bindery.Proofs.FileTree.Segments
import Bindery.Proofs.FileTree.View
import Bindery.Proofs.Generator.Again
import Bindery.Proofs.Generator.Bodies
import Bindery.Proofs.Generator.Builtin
import Bindery.Proofs.Generator.Caller
import Bindery.Proofs.Generator.Calls.Arguments
import Bindery.Proofs.Generator.Calls.Bodies
import Bindery.Proofs.Generator.Calls.Collecting
import Bindery.Proofs.Generator.Calls.Rules
import Bindery.Proofs.Generator.Calls.Templates
import Bindery.Proofs.Generator.Constructors.Properties
import Bindery.Proofs.Generator.Constructors.Values
import Bindery.Proofs.Generator.Files.C
import Bindery.Proofs.Generator.Files.Classes
import Bindery.Proofs.Generator.Files.Constructors
import Bindery.Proofs.Generator.Files.Creators
import Bindery.Proofs.Generator.Files.Documentation
import Bindery.Proofs.Generator.Files.Excel
import Bindery.Proofs.Generator.Files.Factories
import Bindery.Proofs.Generator.Files.Functions
import Bindery.Proofs.Generator.Files.Headers
import Bindery.Proofs.Generator.Files.Registration
import Bindery.Proofs.Generator.Layout
import Bindery.Proofs.Generator.Locality
import Bindery.Proofs.Generator.Overwriting
import Bindery.Proofs.Generator.Placement
import Bindery.Proofs.Generator.Preview
import Bindery.Proofs.Generator.Prototypes
import Bindery.Proofs.Generator.Serving
import Bindery.Proofs.Generator.Stopping
import Bindery.Proofs.Generator.Supplied
import Bindery.Proofs.Generator.TypeNames
import Bindery.Proofs.Generator.Worksheet.Agreement
import Bindery.Proofs.Generator.Worksheet.Passing
import Bindery.Proofs.Generator.Worksheet.Registration
import Bindery.Proofs.Generator.Worksheet.Texts
import Bindery.Proofs.Loading.Category
import Bindery.Proofs.Loading.Check
import Bindery.Proofs.Loading.Configuration
import Bindery.Proofs.Loading.Labels
import Bindery.Proofs.Loading.Loaded
import Bindery.Proofs.Loading.Places
import Bindery.Proofs.Loading.Subjects
import Bindery.Proofs.Loading.WellFormed
import Bindery.Proofs.Output.Commit
import Bindery.Proofs.Output.Foreseen
import Bindery.Proofs.Output.Handle
import Bindery.Proofs.Output.Interleaving
import Bindery.Proofs.Output.Preparing
import Bindery.Proofs.Output.Session
import Bindery.Proofs.Output.Tally
import Bindery.Proofs.Output.Target
import Bindery.Proofs.Output.Write
import Bindery.Proofs.Project.Enumerations
import Bindery.Proofs.Project.Loading
import Bindery.Proofs.Project.Verdict
import Bindery.Proofs.Registry.Lookup
import Bindery.Proofs.Registry.Lowering
import Bindery.Proofs.Registry.Parameters
import Bindery.Proofs.Registry.Shapes
import Bindery.Proofs.Results
import Bindery.Proofs.Rule.Checked
import Bindery.Proofs.Rule.Code
import Bindery.Proofs.Rule.Contributions
import Bindery.Proofs.Rule.Fragments
import Bindery.Proofs.Template.Joining
import Bindery.Proofs.Template.Lines
import Bindery.Proofs.Template.Reading
import Bindery.Proofs.Template.Rendering
import Bindery.Proofs.Template.Replacing
import Bindery.Proofs.Template.Sources
import Bindery.Proofs.Template.Steps
import Bindery.Proofs.Template.Substitution
import Bindery.Proofs.Text.Arguments
import Bindery.Proofs.Text.Counted
import Bindery.Proofs.Text.Declarations
import Bindery.Proofs.Text.Lowered
import Bindery.Proofs.Text.Order
import Bindery.Proofs.Text.Snake
