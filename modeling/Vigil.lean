import Vigil.Alert.Basic
import Vigil.Alert.Monitor
import Vigil.Alert.State
import Vigil.Alert.Timer
import Vigil.Calendar
import Vigil.Config.Comments
import Vigil.Config.Decoding
import Vigil.Config.Encoding
import Vigil.Config.IntervalSetting
import Vigil.Config.Loading
import Vigil.Config.Options
import Vigil.Cron.Basic
import Vigil.Cron.Reading
import Vigil.Daemon
import Vigil.Decimal.Basic
import Vigil.Decimal.Shortest
import Vigil.Double.Basic
import Vigil.Double.Grid
import Vigil.Duration
import Vigil.Files
import Vigil.Graphite.Record
import Vigil.Graphite.RenderUrl
import Vigil.Handler.Basic
import Vigil.Handler.Delivery
import Vigil.Handler.Http
import Vigil.Handler.Log
import Vigil.Handler.Registry
import Vigil.Handler.Table
import Vigil.History
import Vigil.Interval.Basic
import Vigil.Interval.Unit
import Vigil.Json.Basic
import Vigil.Json.Lexeme
import Vigil.Json.Number
import Vigil.Json.Printing
import Vigil.Json.Reading
import Vigil.Level
import Vigil.LogEntry
import Vigil.LogFilter
import Vigil.Main
import Vigil.Notification
import Vigil.Reactor.Basic
import Vigil.Reactor.Running
import Vigil.Rehearsal.Course
import Vigil.Rehearsal.Journal
import Vigil.Rehearsal.Monitor
import Vigil.Rehearsal.Reactor
import Vigil.Rehearsal.Script
import Vigil.Rehearsal.Source
import Vigil.Rule.Basic
import Vigil.Rule.Evaluation
import Vigil.Rule.Reading
import Vigil.Rule.Token
import Vigil.Schedule
import Vigil.Source.Basic
import Vigil.Source.Sample
import Vigil.Table
import Vigil.Text.Alphabetic
import Vigil.Text.Blank
import Vigil.Text.Digit
import Vigil.Text.Quoted
import Vigil.Text.Ranges
import Vigil.Text.Split
import Vigil.Text.Unprintable
import Vigil.Transport
import Vigil.Url.Address
import Vigil.Url.Basic
import Vigil.Url.Host
import Vigil.Url.Percent
import Vigil.Url.Punycode
import Vigil.Url.Reading
import Vigil.ValueFormat
import Vigil.Yaml.Cursor
import Vigil.Yaml.Node
import Vigil.Yaml.Scalar
import Vigil.Yaml.Token
import Vigil.Yaml.Value
import Vigil.Proofs.Alert.Run
import Vigil.Proofs.Alert.Changes
import Vigil.Proofs.Alert.Judgement
import Vigil.Proofs.Alert.Projection
import Vigil.Proofs.Graphite.Body
import Vigil.Proofs.Monitor.Load
import Vigil.Proofs.Monitor.Run
import Vigil.Proofs.Monitor.Flight
import Vigil.Proofs.Monitor.Stop
import Vigil.Proofs.Monitor.Watch
import Vigil.Proofs.Rule.Grammar
import Vigil.Proofs.Rule.Reading
import Vigil.Proofs.Rule.Decision
import Vigil.Proofs.Rule.Severity
import Vigil.Proofs.Rule.Lexeme
import Vigil.Proofs.Double.Rounding
import Vigil.Proofs.Json.Fields
import Vigil.Proofs.Json.Validity
import Vigil.Proofs.Yaml.Validity
import Vigil.Proofs.Text.Pieces
import Vigil.Proofs.Text.Words
import Vigil.Proofs.Files
import Vigil.Proofs.Graphite.Line
import Vigil.Proofs.Graphite.Layout
import Vigil.Proofs.Graphite.NotANumber
import Vigil.Proofs.Reactor.Reload
import Vigil.Proofs.Reactor.Run
import Vigil.Proofs.Reactor.Monitors
import Vigil.Proofs.Reactor.Session
import Vigil.Proofs.Reactor.LifeCycle
import Vigil.Proofs.Reactor.Repeater
import Vigil.Proofs.Reactor.Conservation
import Vigil.Proofs.Reactor.Pidfile
import Vigil.Proofs.Config.Merging
import Vigil.Proofs.Config.Codec
import Vigil.Proofs.Config.RoundTrip
import Vigil.Proofs.Alert.Inheritance
import Vigil.Proofs.Json.Quoting
import Vigil.Proofs.Config.Comments
import Vigil.Proofs.Handler.Requests
import Vigil.Proofs.Reactor.Handlers
import Vigil.Proofs.Handler.Delivery
import Vigil.Proofs.Reactor.Tally
import Vigil.Proofs.Double.Error
import Vigil.Proofs.Double.Whole
import Vigil.Proofs.Double.Halves
import Vigil.Proofs.Decimal.Numeral
import Vigil.Proofs.Interval.Offset
import Vigil.Proofs.Cron.Bounds
import Vigil.Proofs.Schedule.Period
import Vigil.Proofs.Schedule.Setting
import Vigil.Proofs.Double.Return
import Vigil.Proofs.Interval.Return
import Vigil.Proofs.Double.Signed
import Vigil.Proofs.Double.Sum
import Vigil.Proofs.Double.Mean
import Vigil.Proofs.Alert.Average
import Vigil.Proofs.Alert.Compilation
import Vigil.Proofs.Decimal.Nearest
import Vigil.Proofs.Interval.Spelling
import Vigil.Proofs.Interval.Length
import Vigil.Proofs.Alert.Capacity
import Vigil.Proofs.Double.Overflow
import Vigil.Proofs.Double.Sign
import Vigil.Proofs.Interval.Arithmetic
import Vigil.Proofs.Text.Classes
import Vigil.Proofs.Decimal.Reading
import Vigil.Proofs.Decimal.Printing
import Vigil.Proofs.Interval.Shape
import Vigil.Proofs.Interval.Refusal
import Vigil.Proofs.Interval.Display
import Vigil.Proofs.Decimal.Literal
import Vigil.Proofs.ValueFormat
import Vigil.Proofs.Rule.Shown
import Vigil.Proofs.Url.FormData
import Vigil.Proofs.Url.Query
import Vigil.Proofs.Url.Reading
import Vigil.Proofs.Graphite.RenderUrl
