import Inlay.Command
import Inlay.CommandLine
import Inlay.Diagnostic
import Inlay.Engine.Builtins.Array
import Inlay.Engine.Builtins.Atomic
import Inlay.Engine.Builtins.Basic
import Inlay.Engine.Builtins.Buffer
import Inlay.Engine.Builtins.Collection
import Inlay.Engine.Builtins.Date
import Inlay.Engine.Builtins.Function
import Inlay.Engine.Builtins.Iterator
import Inlay.Engine.Builtins.Json
import Inlay.Engine.Builtins.Number
import Inlay.Engine.Builtins.Object
import Inlay.Engine.Builtins.Promise
import Inlay.Engine.Builtins.Reflect
import Inlay.Engine.Builtins.Regex
import Inlay.Engine.Builtins.String
import Inlay.Engine.Calendar
import Inlay.Engine.Code
import Inlay.Engine.Describe
import Inlay.Engine.Display
import Inlay.Engine.Function
import Inlay.Engine.Machine
import Inlay.Engine.Native
import Inlay.Engine.Number
import Inlay.Engine.Object.Access
import Inlay.Engine.Object.Convert
import Inlay.Engine.Object.Own
import Inlay.Engine.Object.Proxy
import Inlay.Engine.Operator
import Inlay.Engine.Promise
import Inlay.Engine.Realm
import Inlay.Engine.Regex.Class
import Inlay.Engine.Regex.Escape
import Inlay.Engine.Regex.Literal
import Inlay.Engine.Regex.Match
import Inlay.Engine.Regex.Pattern
import Inlay.Engine.Regex.Reader
import Inlay.Engine.Run
import Inlay.Engine.Scope
import Inlay.Engine.Step
import Inlay.Engine.Syntax.Contains
import Inlay.Engine.Syntax.Expr
import Inlay.Engine.Syntax.Function
import Inlay.Engine.Syntax.Lexer
import Inlay.Engine.Syntax.Node
import Inlay.Engine.Syntax.Reader
import Inlay.Engine.Syntax.Stmt
import Inlay.Engine.Tick
import Inlay.Engine.Units
import Inlay.Engine.Value
import Inlay.Expansion
import Inlay.Failure
import Inlay.Files
import Inlay.Fragment
import Inlay.Fragment.Tag
import Inlay.Invocation
import Inlay.Json.Reader
import Inlay.Keyword
import Inlay.Main
import Inlay.ModuleRecord
import Inlay.Number.Elementary
import Inlay.Number.Shortest
import Inlay.Options.Json
import Inlay.Options.Load
import Inlay.Options.Toml
import Inlay.Outcome
import Inlay.Path
import Inlay.Proofs.Expansion.Settling
import Inlay.Proofs.Reading.File
import Inlay.Syntax.Ast
import Inlay.Syntax.Grammar
import Inlay.Syntax.Grammar.Basic
import Inlay.Syntax.Grammar.Expr
import Inlay.Syntax.Grammar.Function
import Inlay.Syntax.Grammar.Markup
import Inlay.Syntax.Grammar.Module
import Inlay.Syntax.Grammar.Pattern
import Inlay.Syntax.Grammar.Stmt
import Inlay.Syntax.Grammar.Type
import Inlay.Syntax.Lexer
import Inlay.Syntax.Print.Ast
import Inlay.Syntax.Print.Writer
import Inlay.Syntax.Problem
import Inlay.Syntax.Scope
import Inlay.Syntax.Token
import Inlay.System
import Inlay.Text.Case
import Inlay.Text.Category
import Inlay.Text.Emoji
import Inlay.Text.Normal
import Inlay.Text.Property
import Inlay.Text.Quoted
import Inlay.Text.Ranges
import Inlay.Text.Script
import Inlay.Text.Trim
import Inlay.Text.Width
import Inlay.Text.Word
import Inlay.Toml.Reader
import Inlay.Toml.Table
import Inlay.Workbench
import Inlay.Proofs.Expansion.Coverage
import Inlay.Proofs.Expansion.Shadowing
import Inlay.Proofs.Json.Grammar
import Inlay.Proofs.Json.Literal
import Inlay.Proofs.Json.Structural
import Inlay.Proofs.Fragment.Record
import Inlay.Proofs.Fragment.Insertion
import Inlay.Proofs.Fragment.Constructors
import Inlay.Proofs.Fragment.Numbering
import Inlay.Proofs.Fragment.Refusal
import Inlay.Proofs.Expansion.Places
import Inlay.Proofs.Expansion.Keywords
import Inlay.Proofs.Command.Delivery
import Inlay.Proofs.Expansion.Comments
import Inlay.Proofs.Keyword
import Inlay.Proofs.Reading.Items
import Inlay.Proofs.Fragment.Lowering
import Inlay.Proofs.Fragment.Scoping
import Inlay.Proofs.Fragment.Repetition
import Inlay.Proofs.Expansion.Switch
import Inlay.Proofs.Diagnostic.Offset
import Inlay.Proofs.Diagnostic.Label
import Inlay.Proofs.Expansion.SecondPass
import Inlay.Proofs.Reading.Parentheses
