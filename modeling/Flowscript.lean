import Flowscript.Command.Arguments
import Flowscript.Command.Perform
import Flowscript.Condition.Evaluate
import Flowscript.Condition.Expr
import Flowscript.Condition.Grammar
import Flowscript.Condition.Lexer
import Flowscript.Condition.Token
import Flowscript.Decimal.Binary
import Flowscript.Decimal.Digits
import Flowscript.Decimal.Layout
import Flowscript.Decimal.Numeral
import Flowscript.Decimal.Shortest
import Flowscript.Dict
import Flowscript.Engine
import Flowscript.Failure
import Flowscript.Files.Environment
import Flowscript.Files.Host
import Flowscript.Files.Path
import Flowscript.Files.Tree
import Flowscript.Json.Basic
import Flowscript.Json.Decode
import Flowscript.Json.Number
import Flowscript.Json.Reader
import Flowscript.Loading
import Flowscript.Main
import Flowscript.Parser
import Flowscript.Registry
import Flowscript.Run.Bus
import Flowscript.Run.Collaborator
import Flowscript.Run.Dispatch
import Flowscript.Run.Event
import Flowscript.Run.Frame
import Flowscript.Run.Json
import Flowscript.Run.Parameter
import Flowscript.Run.Progress
import Flowscript.Run.Recording
import Flowscript.Run.Scope
import Flowscript.Run.Script
import Flowscript.Run.Setup
import Flowscript.Run.State
import Flowscript.Run.Template
import Flowscript.Run.Turn
import Flowscript.Run.Walk
import Flowscript.Run.Weight
import Flowscript.Run.Work
import Flowscript.Settings
import Flowscript.Text.Blank
import Flowscript.Text.Cut
import Flowscript.Text.Letters
import Flowscript.Text.Lowercase
import Flowscript.Text.Printable
import Flowscript.Text.Quoted
import Flowscript.Text.Ranges
import Flowscript.Toml.Basic
import Flowscript.Toml.Document
import Flowscript.Toml.Length
import Flowscript.Toml.Reader
import Flowscript.Toml.Scalar
import Flowscript.Toml.Text
import Flowscript.Toml.Writer
import Flowscript.Value.Basic
import Flowscript.Value.Forms
import Flowscript.Value.Json
import Flowscript.Workflow.Basic
import Flowscript.Workflow.Catalog
import Flowscript.Workflow.Connection
import Flowscript.Workflow.Json
import Flowscript.Workflow.Literal
import Flowscript.Workflow.Params
import Flowscript.Workflow.Reader
import Flowscript.Workflow.Statement
import Flowscript.Proofs.Walk.Recursive
import Flowscript.Proofs.Walk.Branching
import Flowscript.Proofs.Condition.Derivation
import Flowscript.Proofs.Condition.Parsing
import Flowscript.Proofs.Condition.Spelling
import Flowscript.Proofs.Condition.Substitution
import Flowscript.Proofs.Walk.Causes
import Flowscript.Proofs.Walk.Cycles
import Flowscript.Proofs.Walk.Counting
import Flowscript.Proofs.Dict
import Flowscript.Proofs.Text.Trimming
import Flowscript.Proofs.Text.Cutting
import Flowscript.Proofs.Decimal.Printing
import Flowscript.Proofs.Json.Numerals
import Flowscript.Proofs.Json.Printing
import Flowscript.Proofs.Value.Reading
import Flowscript.Proofs.Workflow.Parameters
import Flowscript.Proofs.Workflow.Connections
import Flowscript.Proofs.Workflow.Literals
import Flowscript.Proofs.Workflow.Reading
import Flowscript.Proofs.Workflow.Lines
import Flowscript.Proofs.Workflow.Rendering
import Flowscript.Proofs.Walk.Visits
import Flowscript.Proofs.Walk.Steps
import Flowscript.Proofs.Walk.Stopping
import Flowscript.Proofs.Walk.Calls
import Flowscript.Proofs.Engine.Publishing
import Flowscript.Proofs.Walk.Budgets
import Flowscript.Proofs.Walk.Outgoing
import Flowscript.Proofs.Run.Scopes
import Flowscript.Proofs.Walk.Hiding
import Flowscript.Proofs.Decimal.Rounding
import Flowscript.Proofs.Json.Doubles
import Flowscript.Proofs.Value.Forms
import Flowscript.Proofs.Json.Records
import Flowscript.Proofs.Workflow.Definitions
import Flowscript.Proofs.Engine.Exporting
import Flowscript.Proofs.Walk.Exchanges
import Flowscript.Proofs.Walk.Writes
import Flowscript.Proofs.Walk.Faults
import Flowscript.Proofs.Workflow.Rearranging
import Flowscript.Proofs.Run.Results
import Flowscript.Proofs.Value.Codecs
import Flowscript.Proofs.Walk.Dangling
import Flowscript.Proofs.Workflow.Refusing
import Flowscript.Proofs.Walk.Tallies
import Flowscript.Proofs.Workflow.NodeLines
import Flowscript.Proofs.Decimal.Integers
import Flowscript.Proofs.Condition.Comparing
import Flowscript.Proofs.Walk.Replaying
import Flowscript.Proofs.Engine.Histories
import Flowscript.Proofs.Toml.Texts
import Flowscript.Proofs.Toml.Numbers
import Flowscript.Proofs.Toml.Lines
import Flowscript.Proofs.Toml.Characters
import Flowscript.Proofs.Settings.References
import Flowscript.Proofs.Settings.Reloading
import Flowscript.Proofs.Workflow.Chains
import Flowscript.Proofs.Run.Lookups
import Flowscript.Proofs.Workflow.Building
import Flowscript.Proofs.Decimal.Nearest
import Flowscript.Proofs.Workflow.LiteralForms
import Flowscript.Proofs.Workflow.Listing
import Flowscript.Proofs.Settings.Expanding
import Flowscript.Proofs.Condition.Grouping
import Flowscript.Proofs.Condition.Positions
import Flowscript.Proofs.Condition.Joining
import Flowscript.Proofs.Engine.Loading
