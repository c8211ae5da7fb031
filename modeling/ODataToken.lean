import ODataToken.Base64Url
import ODataToken.CharClass
import ODataToken.Cli.Arguments
import ODataToken.Cli.Run
import ODataToken.Config.Search
import ODataToken.Config.Settings
import ODataToken.Config.Store
import ODataToken.Decimal
import ODataToken.Grammar.Scalar
import ODataToken.Grammar.Temporal
import ODataToken.Json.Basic
import ODataToken.Json.Reader
import ODataToken.Literal
import ODataToken.Log
import ODataToken.Main
import ODataToken.Parser.Alternatives
import ODataToken.Parser.Basic
import ODataToken.Parser.Combinator
import ODataToken.Parser.Error
import ODataToken.Parser.Primitive
import ODataToken.Parser.Repeat
import ODataToken.Pattern
import ODataToken.Proofs.BareDuration
import ODataToken.Proofs.Base64Url
import ODataToken.Proofs.Calendar
import ODataToken.Proofs.CharClass
import ODataToken.Proofs.Cli.Arguments
import ODataToken.Proofs.Cli.Meaning
import ODataToken.Proofs.Cli.Run
import ODataToken.Proofs.Config.Fields
import ODataToken.Proofs.Config.LastWriter
import ODataToken.Proofs.Config.Precedence
import ODataToken.Proofs.Config.Supplied
import ODataToken.Proofs.Config.UnusedFile
import ODataToken.Proofs.Config.Variables
import ODataToken.Proofs.Duration
import ODataToken.Proofs.DurationParts
import ODataToken.Proofs.EncodedBytes
import ODataToken.Proofs.FailureAgreement
import ODataToken.Proofs.Floats
import ODataToken.Proofs.Grammar.Bounded
import ODataToken.Proofs.Grammar.Calendar
import ODataToken.Proofs.Grammar.Committed
import ODataToken.Proofs.Grammar.DateTimeParts
import ODataToken.Proofs.Grammar.Delimited
import ODataToken.Proofs.Grammar.Dispatch
import ODataToken.Proofs.Grammar.Duration
import ODataToken.Proofs.Grammar.Embedded
import ODataToken.Proofs.Grammar.Failures
import ODataToken.Proofs.Grammar.Legal
import ODataToken.Proofs.Grammar.LongestDuration
import ODataToken.Proofs.Grammar.Name
import ODataToken.Proofs.Grammar.Position
import ODataToken.Proofs.Grammar.Quoted
import ODataToken.Proofs.Grammar.QuotedForm
import ODataToken.Proofs.Grammar.Scalar
import ODataToken.Proofs.Json.Keys
import ODataToken.Proofs.Json.Number
import ODataToken.Proofs.Json.Outline
import ODataToken.Proofs.Json.Reader
import ODataToken.Proofs.Json.RoundTrip
import ODataToken.Proofs.KeywordOption
import ODataToken.Proofs.LongestName
import ODataToken.Proofs.Numbers
import ODataToken.Proofs.Parser.Alternatives
import ODataToken.Proofs.Parser.Bounded
import ODataToken.Proofs.Parser.Checks
import ODataToken.Proofs.Parser.Delimited
import ODataToken.Proofs.Parser.DomainFailures
import ODataToken.Proofs.Parser.ErrorSelection
import ODataToken.Proofs.Parser.FailureMerge
import ODataToken.Proofs.Parser.Keeps
import ODataToken.Proofs.Parser.Location
import ODataToken.Proofs.Parser.Loops
import ODataToken.Proofs.Parser.Map
import ODataToken.Proofs.Parser.MaximalMunch
import ODataToken.Proofs.Parser.Moves
import ODataToken.Proofs.Parser.Plain
import ODataToken.Proofs.Parser.Reads
import ODataToken.Proofs.Parser.Repetition
import ODataToken.Proofs.Parser.Runs
import ODataToken.Proofs.Parser.ShapeFailures
import ODataToken.Proofs.Pattern
import ODataToken.Proofs.Projection
import ODataToken.Proofs.ReservedWords
import ODataToken.Proofs.RoundTrip
import ODataToken.Proofs.Selection
import ODataToken.Proofs.Text.Case
import ODataToken.Proofs.Text.Digits
import ODataToken.Temporal
import ODataToken.Text.Basic
import ODataToken.Text.Lowercase
import ODataToken.Token
