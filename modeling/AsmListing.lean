import AsmListing.Attempt
import AsmListing.Command.Build
import AsmListing.Command.Disassemble
import AsmListing.Command.Flag
import AsmListing.Command.Line
import AsmListing.Command.Suggestion
import AsmListing.Command.Task
import AsmListing.Config.Environment
import AsmListing.Config.File
import AsmListing.Config.Format
import AsmListing.Config.Json
import AsmListing.Config.Options
import AsmListing.Config.Toml.Statement
import AsmListing.Config.Toml.Table
import AsmListing.Config.Yaml.Cursor
import AsmListing.Config.Yaml.Node
import AsmListing.Config.Yaml.Scalar
import AsmListing.Config.Yaml.Token
import AsmListing.Config.Yaml.Value
import AsmListing.Datum
import AsmListing.Decimal.Numeral
import AsmListing.Decimal.Shortest
import AsmListing.Decimal.Written
import AsmListing.Disassembly
import AsmListing.FileTree
import AsmListing.Kind
import AsmListing.Machine.Addressing
import AsmListing.Machine.Decode
import AsmListing.Machine.Leading
import AsmListing.Machine.Operand
import AsmListing.Machine.Operation
import AsmListing.Machine.Register
import AsmListing.Main
import AsmListing.Mnemonic
import AsmListing.Mode
import AsmListing.Program
import AsmListing.Proofs.Attempt
import AsmListing.Proofs.Command.Comments
import AsmListing.Proofs.Command.Delivery
import AsmListing.Proofs.Command.Precedence
import AsmListing.Proofs.Command.SupportedMode
import AsmListing.Proofs.Config.Decoding
import AsmListing.Proofs.Config.Steps
import AsmListing.Proofs.Disassembly.Concatenation
import AsmListing.Proofs.Disassembly.KindErasure
import AsmListing.Proofs.Disassembly.Rendering
import AsmListing.Proofs.Disassembly.Tiling
import AsmListing.Proofs.FileTree
import AsmListing.Proofs.Kind.Comment
import AsmListing.Proofs.Kind.Table
import AsmListing.Proofs.Machine.Length
import AsmListing.Proofs.Mnemonic
import AsmListing.Proofs.Program.Comments
import AsmListing.Proofs.Program.Division
import AsmListing.Proofs.Program.Drafts
import AsmListing.Proofs.Program.Growth
import AsmListing.Proofs.Program.LineEnding
import AsmListing.Proofs.Program.Logging
import AsmListing.Proofs.Program.RegisterMode
import AsmListing.Proofs.Program.Rendering
import AsmListing.Proofs.Program.Supply
import AsmListing.Proofs.Register.Builder
import AsmListing.Proofs.Register.Catalog
import AsmListing.Proofs.Register.Forest
import AsmListing.Proofs.Register.Index
import AsmListing.Proofs.Register.Repetition
import AsmListing.Proofs.Register.Walk
import AsmListing.Proofs.Result
import AsmListing.Proofs.Script.Bindings
import AsmListing.Proofs.Script.Call
import AsmListing.Proofs.Script.Checks
import AsmListing.Proofs.Script.Effects
import AsmListing.Proofs.Script.Emit
import AsmListing.Proofs.Script.Integer
import AsmListing.Proofs.Script.Operand
import AsmListing.Proofs.Sequence.Consumer
import AsmListing.Proofs.Sequence.Course
import AsmListing.Proofs.Sequence.Delivery
import AsmListing.Proofs.Text.ByteOrder
import AsmListing.Proofs.Text.LowerCase
import AsmListing.Proofs.Text.Quotation
import AsmListing.Proofs.Text.Substitution
import AsmListing.Proofs.Verbosity
import AsmListing.Proofs.Workbench
import AsmListing.Register.Basic
import AsmListing.Register.Catalog
import AsmListing.Register.Set
import AsmListing.Register.Tree
import AsmListing.Script.Action
import AsmListing.Script.Arguments
import AsmListing.Script.Evaluate
import AsmListing.Script.Failure
import AsmListing.Script.Format
import AsmListing.Script.Grammar
import AsmListing.Script.Host
import AsmListing.Script.Method
import AsmListing.Script.Operator
import AsmListing.Script.Run
import AsmListing.Script.Scope
import AsmListing.Script.Spelling
import AsmListing.Script.Token
import AsmListing.Script.Tree
import AsmListing.Script.Universal
import AsmListing.Script.Value
import AsmListing.Sequence.Push
import AsmListing.Text.Case
import AsmListing.Text.CaseTable
import AsmListing.Text.Letter
import AsmListing.Text.Printable
import AsmListing.Text.Quoted
import AsmListing.Text.Template
import AsmListing.Text.Utf8
import AsmListing.Proofs.Config.Steps
