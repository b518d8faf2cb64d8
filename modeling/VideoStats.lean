import VideoStats.Bot.Handler
import VideoStats.Bot.Main
import VideoStats.Bot.Reply
import VideoStats.Calendar.Clock
import VideoStats.Calendar.Day
import VideoStats.Chat.Config
import VideoStats.Chat.Exchange
import VideoStats.Chat.Proposal
import VideoStats.Cli.Args
import VideoStats.Cli.Tools
import VideoStats.Config.Logging
import VideoStats.Config.Settings
import VideoStats.Dataset.Rows
import VideoStats.DateText.Phrase
import VideoStats.DateText.Range
import VideoStats.Decimal.Read
import VideoStats.Decimal.Shortest
import VideoStats.Host.Dates.Chunk
import VideoStats.Host.Dates.Clean
import VideoStats.Host.Dates.English
import VideoStats.Host.Dates.Lexicon
import VideoStats.Host.Dates.Reader
import VideoStats.Host.Dates.Search
import VideoStats.Host.Dates.Whole
import VideoStats.Host.Dotenv
import VideoStats.Host.Environment
import VideoStats.Host.Files
import VideoStats.Intent.Basic
import VideoStats.Intent.Check
import VideoStats.Intent.Codec
import VideoStats.Json.Basic
import VideoStats.Json.Convert
import VideoStats.Json.Read
import VideoStats.Json.Write
import VideoStats.Main
import VideoStats.Proofs.Accepted
import VideoStats.Proofs.Assistant
import VideoStats.Proofs.Building
import VideoStats.Proofs.Calendar
import VideoStats.Proofs.Comparisons
import VideoStats.Proofs.DatedDays
import VideoStats.Proofs.DayRange
import VideoStats.Proofs.Evaluation
import VideoStats.Proofs.Fences
import VideoStats.Proofs.FirstWay
import VideoStats.Proofs.GroupedNumber
import VideoStats.Proofs.JsonDocument
import VideoStats.Proofs.JsonTokens
import VideoStats.Proofs.Loading
import VideoStats.Proofs.MigrationTrail
import VideoStats.Proofs.Migrations
import VideoStats.Proofs.NormalForm
import VideoStats.Proofs.Placeholders
import VideoStats.Proofs.Reading
import VideoStats.Proofs.Replies
import VideoStats.Proofs.Scanning
import VideoStats.Proofs.Scoping
import VideoStats.Proofs.Settings
import VideoStats.Proofs.Shape
import VideoStats.Proofs.TimeWindow
import VideoStats.Query.Basic
import VideoStats.Query.Build
import VideoStats.Question.Cue
import VideoStats.Question.Filter
import VideoStats.Question.Read
import VideoStats.Question.Statement
import VideoStats.Question.Understand
import VideoStats.Service.Direct
import VideoStats.Service.Load
import VideoStats.Service.Migrate
import VideoStats.Service.Pool
import VideoStats.Service.Trace
import VideoStats.Service.World
import VideoStats.Text.Blank
import VideoStats.Text.Case
import VideoStats.Text.Digit
import VideoStats.Text.Infix
import VideoStats.Text.Normal
import VideoStats.Text.Pattern
import VideoStats.Text.Quote
import VideoStats.Text.Word
import VideoStats.Vocabulary
import VideoStats.Workload.Answering
import VideoStats.Workload.Basic
import VideoStats.Workload.Reading
import VideoStats.Workload.Serving
