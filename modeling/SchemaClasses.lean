import SchemaClasses.Main
import SchemaClasses.Proofs.Class.Binding
import SchemaClasses.Proofs.Class.CanonicalNames
import SchemaClasses.Proofs.Class.Clashes
import SchemaClasses.Proofs.Class.Columns
import SchemaClasses.Proofs.Class.CommentEscape
import SchemaClasses.Proofs.Class.Layout
import SchemaClasses.Proofs.Class.Relevance
import SchemaClasses.Proofs.Schema.Agreement
import SchemaClasses.Text.Utf8
import SchemaClasses.Proofs.Files.Path
import SchemaClasses.Proofs.Files.Tree
import SchemaClasses.Proofs.Generation.ClassFiles
import SchemaClasses.Proofs.Generation.FinalState
import SchemaClasses.Proofs.Generation.Containment
import SchemaClasses.Proofs.Generation.Removal
import SchemaClasses.Proofs.Generation.Completeness
import SchemaClasses.Proofs.Generation.Accounting
import SchemaClasses.Proofs.CommandLine.ExitStatus
import SchemaClasses.Proofs.Json.Contents
import SchemaClasses.Proofs.Toml.Contents
import SchemaClasses.Proofs.Yaml.Contents
import SchemaClasses.Proofs.Schema.Container
import SchemaClasses.Proofs.Schema.NonMapping
import SchemaClasses.Proofs.Files.Directories
import SchemaClasses.Proofs.Generation.Dependence
import SchemaClasses.Proofs.Generation.Reordering
import SchemaClasses.Proofs.Generation.Rerun
import SchemaClasses.Proofs.Generation.Story
import SchemaClasses.Proofs.CommandLine.Flags
import SchemaClasses.Proofs.Lexical.Identifier
import SchemaClasses.Proofs.Class.Existence
import SchemaClasses.Proofs.Generation.WrittenNames
import SchemaClasses.Proofs.Naming.Underscores
import SchemaClasses.Proofs.Class.ImportLines
import SchemaClasses.Proofs.Class.Overrides
import SchemaClasses.Proofs.Schema.Recovery
import SchemaClasses.Proofs.Generation.Validation
import SchemaClasses.Proofs.Lexical.LiteralEscape
