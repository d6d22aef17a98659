import MessageBundle.Collection
import MessageBundle.Command
import MessageBundle.CommandLine
import MessageBundle.Config
import MessageBundle.Data.Basic
import MessageBundle.Data.Reading
import MessageBundle.Decimal.Binary
import MessageBundle.Decimal.Layout
import MessageBundle.Decimal.Shortest
import MessageBundle.Declaration
import MessageBundle.Event
import MessageBundle.FileAccess
import MessageBundle.FileFault
import MessageBundle.FileTree
import MessageBundle.Filer.Directory
import MessageBundle.Filer.Memory
import MessageBundle.GenerationError
import MessageBundle.JavaClass
import MessageBundle.JavaType
import MessageBundle.Json.Document
import MessageBundle.Json.Number
import MessageBundle.Json.Token
import MessageBundle.Level
import MessageBundle.Main
import MessageBundle.Manifest.Basic
import MessageBundle.Manifest.Encoding
import MessageBundle.Manifest.Loading
import MessageBundle.Name
import MessageBundle.Path
import MessageBundle.Proofs.Command.Agreement
import MessageBundle.Proofs.Data.Record
import MessageBundle.Proofs.FileTree.Change
import MessageBundle.Proofs.FileTree.Following
import MessageBundle.Proofs.FileTree.Repetition
import MessageBundle.Proofs.Filer.Agreement
import MessageBundle.Proofs.Filer.Directory
import MessageBundle.Proofs.Filer.Memory
import MessageBundle.Proofs.JavaClass.Chunk
import MessageBundle.Proofs.JavaClass.Literal
import MessageBundle.Proofs.JavaClass.MethodText
import MessageBundle.Proofs.JavaClass.Noninterference
import MessageBundle.Proofs.JavaClass.Statement
import MessageBundle.Proofs.JavaClass.Translation
import MessageBundle.Proofs.JavaClass.TypeName
import MessageBundle.Proofs.Manifest.Form
import MessageBundle.Proofs.Method.Admission
import MessageBundle.Proofs.Method.Shape
import MessageBundle.Proofs.Name.Plain
import MessageBundle.Proofs.Name.Rejoining
import MessageBundle.Proofs.Name.Segments
import MessageBundle.Proofs.Name.SourcePath
import MessageBundle.Proofs.Path.Component
import MessageBundle.Proofs.Round.Acceptance
import MessageBundle.Proofs.Round.Check
import MessageBundle.Proofs.Round.Code
import MessageBundle.Proofs.Round.Collision
import MessageBundle.Proofs.Round.Confinement
import MessageBundle.Proofs.Round.Count
import MessageBundle.Proofs.Round.Extent
import MessageBundle.Proofs.Round.Failure
import MessageBundle.Proofs.Round.FirstFault
import MessageBundle.Proofs.Round.Hygiene
import MessageBundle.Proofs.Round.Independence
import MessageBundle.Proofs.Round.Leniency
import MessageBundle.Proofs.Round.Literal
import MessageBundle.Proofs.Round.Overwriting
import MessageBundle.Proofs.Round.Pass
import MessageBundle.Proofs.Round.Process
import MessageBundle.Proofs.Round.Pruning
import MessageBundle.Proofs.Round.Regeneration
import MessageBundle.Proofs.Round.SharedMemory
import MessageBundle.Proofs.Round.Trace
import MessageBundle.Proofs.Round.Warning
import MessageBundle.Proofs.SourceText.Difference
import MessageBundle.Proofs.SourceText.Layout
import MessageBundle.Proofs.SourceText.Nesting
import MessageBundle.Proofs.Template.Backslash
import MessageBundle.Proofs.Template.Decoding
import MessageBundle.Proofs.Template.LiteralBody
import MessageBundle.Proofs.Template.Run
import MessageBundle.Proofs.Template.UnicodeEscape
import MessageBundle.Proofs.Text.KeyOrder
import MessageBundle.Registry
import MessageBundle.Resolution
import MessageBundle.Round
import MessageBundle.SourceText
import MessageBundle.Template
import MessageBundle.Text.AsciiCase
import MessageBundle.Text.Blank
import MessageBundle.Text.Cut
import MessageBundle.Text.Digit
import MessageBundle.Text.Hidden
import MessageBundle.Text.KeyOrder
import MessageBundle.Text.Quoted
import MessageBundle.Toml.Document
import MessageBundle.Toml.Moment
import MessageBundle.Toml.Numeral
import MessageBundle.Toml.Scalar
import MessageBundle.Toml.Table
import MessageBundle.Toml.Token
