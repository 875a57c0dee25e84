import Jack.CommandLine.Arguments
import Jack.CommandLine.Run
import Jack.Compile
import Jack.Diagnostic
import Jack.Fault
import Jack.Files.Disk
import Jack.Files.Path
import Jack.Files.System
import Jack.Lexeme.Keyword
import Jack.Lexeme.Kind
import Jack.Main
import Jack.Parse.ClassDec
import Jack.Parse.Expression
import Jack.Parse.Reader
import Jack.Parse.State
import Jack.Parse.Statement
import Jack.Parse.Step
import Jack.Parse.Turn
import Jack.Program.ClassDec
import Jack.Program.Expression
import Jack.Program.Operator
import Jack.Program.Statement
import Jack.Text.Blank
import Jack.Text.Decimal
import Jack.Text.Line
import Jack.Text.Quoted
import Jack.Text.Slice
import Jack.Text.Unprintable
import Jack.Text.Width
import Jack.Token.Basic
import Jack.Token.Cursor
import Jack.Token.Pattern
import Jack.Token.Scanner
import Jack.Token.Split
import Jack.Token.Stream
import Jack.Token.Value
import Jack.Tree.Basic
import Jack.Tree.Listing
import Jack.Variable.Basic
import Jack.Variable.Scope
import Jack.Variable.Stack
import Jack.Variable.Table
import Jack.Vm.Emitter
import Jack.Vm.Instruction
import Jack.Vm.Text
import Jack.Proofs.Parse.Meets
import Jack.Proofs.Program.Code
import Jack.Proofs.Program.Spelling
import Jack.Proofs.Program.Scope
import Jack.Proofs.Parse.Expression
import Jack.Proofs.Parse.Statement
import Jack.Proofs.Parse.ClassDec
import Jack.Proofs.Emission
import Jack.Proofs.Grammar.Basic
import Jack.Proofs.Grammar.Soundness
import Jack.Proofs.Grammar.Expression
import Jack.Proofs.Grammar.Statement
import Jack.Proofs.Grammar.Declaration
import Jack.Proofs.Grammar.Language
import Jack.Proofs.Slots
import Jack.Proofs.Machine.Basic
import Jack.Proofs.Machine.Evaluation
import Jack.Proofs.Machine.Step
import Jack.Proofs.Machine.Expression
import Jack.Proofs.Machine.Jump
import Jack.Proofs.Machine.Statement
import Jack.Proofs.Machine.Interpreter
import Jack.Proofs.Meaning
import Jack.Proofs.Jumps
import Jack.Proofs.Balance
import Jack.Proofs.Value
import Jack.Proofs.Scoping
import Jack.Proofs.Parse.Transfer
import Jack.Proofs.Vm.Text
import Jack.Proofs.Replay
import Jack.Proofs.Derivation
import Jack.Proofs.Lexing
import Jack.Proofs.Incremental
import Jack.Proofs.Refusal
import Jack.Proofs.LexicalFault
import Jack.Proofs.LineBreak
import Jack.Proofs.Printing
import Jack.Proofs.Layout
import Jack.Proofs.Reading.Elsewhere
import Jack.Proofs.Reading.Alone
import Jack.Proofs.Independence
import Jack.Proofs.Vm.Command
import Jack.Proofs.Vm.Machine
import Jack.Proofs.Vm.Placement
import Jack.Proofs.Vm.Simulation
import Jack.Proofs.Rendering
import Jack.Proofs.Files.Path
import Jack.Proofs.Files.Disk
import Jack.Proofs.Files.Change
import Jack.Proofs.Files.Outputs
import Jack.Proofs.Files.Units
import Jack.Proofs.Files.Sources
import Jack.Proofs.Batch
import Jack.Proofs.Decoding
import Jack.Proofs.Tree.Outline
import Jack.Proofs.Streaming
import Jack.Proofs.Declaring
import Jack.Proofs.Lines
import Jack.Proofs.TokenListing
import Jack.Proofs.Program.Strings
import Jack.Proofs.StringConstants
import Jack.Proofs.FaultPlace
import Jack.Proofs.Text.Around
import Jack.Proofs.Caret
import Jack.Proofs.Scanning
import Jack.Proofs.ConstantValues
import Jack.Proofs.Framing
import Jack.Proofs.Progress
