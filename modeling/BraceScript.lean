import BraceScript.Bindings
import BraceScript.Code.Basic
import BraceScript.Code.Faults
import BraceScript.Code.Ident
import BraceScript.Code.Literal
import BraceScript.Code.Mark
import BraceScript.Code.Names
import BraceScript.Code.Text
import BraceScript.Code.Written
import BraceScript.CommandLine
import BraceScript.Config.Basic
import BraceScript.Config.Check
import BraceScript.Config.Load
import BraceScript.Diagnostic
import BraceScript.Entry
import BraceScript.Eval.Arithmetic
import BraceScript.Eval.Attribute
import BraceScript.Eval.Builtin
import BraceScript.Eval.Call
import BraceScript.Eval.Class
import BraceScript.Eval.Compare
import BraceScript.Eval.Convert
import BraceScript.Eval.Core
import BraceScript.Eval.Cursor
import BraceScript.Eval.Exception
import BraceScript.Eval.Exec
import BraceScript.Eval.Fault
import BraceScript.Eval.Helper
import BraceScript.Eval.Hint
import BraceScript.Eval.Load
import BraceScript.Eval.Make
import BraceScript.Eval.Meaning
import BraceScript.Eval.Native
import BraceScript.Eval.Operator
import BraceScript.Eval.Prelude
import BraceScript.Eval.Report
import BraceScript.Eval.Scope
import BraceScript.Eval.Sequence
import BraceScript.Eval.Shown
import BraceScript.Eval.Signature
import BraceScript.Eval.Store
import BraceScript.Eval.Template
import BraceScript.Eval.Value
import BraceScript.Failure
import BraceScript.Files.Path
import BraceScript.Files.Tree
import BraceScript.Host
import BraceScript.Json.Basic
import BraceScript.Json.Read
import BraceScript.Lowering.Class
import BraceScript.Lowering.Expr
import BraceScript.Lowering.Leaves
import BraceScript.Lowering.Scope
import BraceScript.Lowering.Stmt
import BraceScript.Lowering.Types
import BraceScript.Main
import BraceScript.Notice
import BraceScript.Number.Decimal
import BraceScript.Number.Double
import BraceScript.Number.Limit
import BraceScript.Outcome
import BraceScript.Program.Compile
import BraceScript.Program.Library
import BraceScript.Program.Names
import BraceScript.Program.Order
import BraceScript.Run
import BraceScript.Source.Leading
import BraceScript.Source.Resolution
import BraceScript.Source.Scan
import BraceScript.Source.Unit
import BraceScript.Syntax.Lexer
import BraceScript.Syntax.Outline
import BraceScript.Syntax.Parser
import BraceScript.Syntax.Token
import BraceScript.Syntax.Tree
import BraceScript.Text.Blank
import BraceScript.Text.CharacterName
import BraceScript.Text.CharacterName.Aliases
import BraceScript.Text.CharacterName.Alphabets
import BraceScript.Text.CharacterName.Ancient
import BraceScript.Text.CharacterName.Pictures
import BraceScript.Text.CharacterName.Signs
import BraceScript.Text.CharacterName.Syllables
import BraceScript.Text.Digit
import BraceScript.Text.Encoding
import BraceScript.Text.Lines
import BraceScript.Text.Lowercase
import BraceScript.Text.NameChar
import BraceScript.Text.Points
import BraceScript.Text.Printable
import BraceScript.Text.Quoted
import BraceScript.Text.Ranges
import BraceScript.Proofs.Source.Leading
import BraceScript.Proofs.Text.Encoding
import BraceScript.Proofs.Files.Path
import BraceScript.Proofs.Host
import BraceScript.Proofs.Source.Scan
import BraceScript.Proofs.Source.CompiledText
import BraceScript.Proofs.BreadthFirst
import BraceScript.Proofs.Source.Resolution
import BraceScript.Proofs.Program.Compile
import BraceScript.Proofs.Files.Absolute
import BraceScript.Proofs.Source.Discovery
import BraceScript.Proofs.Syntax.Grammar
import BraceScript.Proofs.Syntax.Spelling
import BraceScript.Proofs.Syntax.Derivation
import BraceScript.Proofs.Syntax.Trees
import BraceScript.Proofs.Syntax.Reading
import BraceScript.Proofs.Syntax.Accepting
import BraceScript.Proofs.Syntax.Parser
import BraceScript.Proofs.Program.Report
import BraceScript.Proofs.Syntax.Exchange
import BraceScript.Proofs.Lowering.Renaming
import BraceScript.Proofs.Syntax.Layout
import BraceScript.Proofs.Syntax.Lexemes
import BraceScript.Proofs.Lowering.Places
import BraceScript.Proofs.Source.EmptyBlock
import BraceScript.Proofs.Eval.Compositional
import BraceScript.Proofs.Lowering.Hygiene
import BraceScript.Proofs.Source.History
import BraceScript.Proofs.Syntax.Viable
import BraceScript.Proofs.Syntax.FirstFault
import BraceScript.Proofs.Program.Order
import BraceScript.Proofs.Program.Outcome
import BraceScript.Proofs.Program.Permutation
import BraceScript.Proofs.CommandLine.Argument
import BraceScript.Proofs.CommandLine.Settings
import BraceScript.Proofs.Json.Grammar
import BraceScript.Proofs.Json.Texts
import BraceScript.Proofs.Json.Numbers
import BraceScript.Proofs.Json.Reading
import BraceScript.Proofs.Json.Digits
import BraceScript.Proofs.Config
import BraceScript.Proofs.Run.Trace
import BraceScript.Proofs.Run.Stages
import BraceScript.Proofs.Eval.Evolution
import BraceScript.Proofs.Eval.Operations
import BraceScript.Proofs.Eval.ReadyMade
import BraceScript.Proofs.Eval.Running
import BraceScript.Proofs.Eval.Hints
import BraceScript.Proofs.Eval.Loading
import BraceScript.Proofs.Lowering.Members
import BraceScript.Proofs.Entry
import BraceScript.Proofs.Program.Headers
import BraceScript.Proofs.Eval.Within
import BraceScript.Proofs.Eval.Fuel
import BraceScript.Proofs.Text.Digit
import BraceScript.Proofs.Eval.Placeholders
import BraceScript.Proofs.Eval.TextHelpers
import BraceScript.Proofs.Eval.Formatting
import BraceScript.Proofs.Eval.Flows
import BraceScript.Proofs.Eval.Matching
import BraceScript.Proofs.Lowering.Flags
import BraceScript.Proofs.Lowering.ForLoops
import BraceScript.Proofs.Lowering.Compound
import BraceScript.Proofs.Lowering.Rewriting
import BraceScript.Proofs.Lowering.Qualified
import BraceScript.Proofs.Code.Indentation
import BraceScript.Proofs.Lowering.OneLine
import BraceScript.Proofs.Syntax.InOrder
import BraceScript.Proofs.Lowering.Suites
import BraceScript.Proofs.Syntax.Subtrees
import BraceScript.Proofs.Lowering.Occurrences
import BraceScript.Proofs.Lowering.InstanceRequired
import BraceScript.Proofs.Lowering.Templates
import BraceScript.Proofs.Lowering.BareNames
import BraceScript.Proofs.Eval.Settings
import BraceScript.Proofs.Eval.Unseen
import BraceScript.Proofs.Lowering.Initialisers
import BraceScript.Proofs.Source.Origin
import BraceScript.Proofs.Source.Failing
import BraceScript.Proofs.Source.TrailingBlanks
import BraceScript.Proofs.Program.Unreadable
import BraceScript.Proofs.Lowering.Placed
import BraceScript.Proofs.Program.Inside
import BraceScript.Proofs.Lowering.MemberNames
import BraceScript.Proofs.Program.Libraries
import BraceScript.Proofs.Lowering.Pieces
import BraceScript.Proofs.Lowering.Identifiers
import BraceScript.Proofs.Eval.Creation
import BraceScript.Proofs.Eval.Division
import BraceScript.Proofs.Eval.Later
import BraceScript.Proofs.Eval.Standing
import BraceScript.Proofs.Lowering.Words
import BraceScript.Proofs.Selection
