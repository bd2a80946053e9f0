import Observe.Command.Arguments
import Observe.Command.Help
import Observe.Command.Input
import Observe.Command.Run
import Observe.Diagnostic
import Observe.Error
import Observe.Expression
import Observe.Expression.Contents
import Observe.Expression.Equality
import Observe.Expression.Grammar
import Observe.Expression.Json
import Observe.Expression.Occurrence
import Observe.Expression.Parser
import Observe.Expression.Path
import Observe.Expression.Record
import Observe.Expression.Scan
import Observe.Expression.Tree
import Observe.Expression.WellFormed
import Observe.Format
import Observe.Json
import Observe.Json.Literal
import Observe.Json.Parser
import Observe.Json.Token
import Observe.Log
import Observe.Main
import Observe.Settings
import Observe.Settings.Session
import Observe.Store
import Observe.Store.Entry
import Observe.Store.Error
import Observe.Store.Location
import Observe.Text.Blank
import Observe.Text.Digits
import Observe.Text.Padding
import Observe.Text.Quoted
import Observe.Text.Unprintable
import Observe.Text.Utf8
import Observe.Token
import Observe.Token.Layout
import Observe.Token.Lexer
import Observe.Toml.Key
import Observe.Toml.Line
import Observe.Toml.Moment
import Observe.Toml.Number
import Observe.Toml.Quoted
import Observe.Toml.Reader
import Observe.Toml.Scalar
import Observe.Toml.Table
import Observe.Toml.Value
import Observe.Proofs.Scan
import Observe.Proofs.Grammar
import Observe.Proofs.Lexer
import Observe.Proofs.Spelling
import Observe.Proofs.Text
import Observe.Proofs.Placement
import Observe.Proofs.Prefix
import Observe.Proofs.Concatenation
import Observe.Proofs.Displacement
import Observe.Proofs.Deepening
import Observe.Proofs.Resumption
import Observe.Proofs.Reuse
import Observe.Proofs.Flattening
import Observe.Proofs.Joining
import Observe.Proofs.Lines
import Observe.Proofs.Numbering
import Observe.Proofs.Options
import Observe.Proofs.Rerun
import Observe.Proofs.Sources
import Observe.Proofs.Batch
import Observe.Proofs.JsonText
import Observe.Proofs.JsonValue
import Observe.Proofs.JsonDepth
import Observe.Proofs.JsonRoundTrip
import Observe.Proofs.Following
import Observe.Proofs.Untouched
import Observe.Proofs.TomlLines
import Observe.Proofs.SavedSettings
import Observe.Proofs.Leaves
import Observe.Proofs.Origins
import Observe.Proofs.Distribution
import Observe.Proofs.Strays
import Observe.Proofs.Stepping
import Observe.Proofs.Blame
import Observe.Proofs.Caret
import Observe.Proofs.Indentation
import Observe.Proofs.Outline
import Observe.Proofs.Counting
import Observe.Proofs.Growth
import Observe.Proofs.FailedSaves
import Observe.Proofs.PartialSettings
import Observe.Proofs.Fallback
import Observe.Proofs.Quotation
import Observe.Proofs.Failures
