import TrafficFeed.Clock.Calendar
import TrafficFeed.Clock.Duration
import TrafficFeed.Clock.Instant
import TrafficFeed.CommandLine.Basic
import TrafficFeed.CommandLine.Parser
import TrafficFeed.CommandLine.Similarity
import TrafficFeed.Correlation
import TrafficFeed.Delivery
import TrafficFeed.Error
import TrafficFeed.Event
import TrafficFeed.Event.Describe
import TrafficFeed.Flow
import TrafficFeed.Http.Exchange
import TrafficFeed.Http.Headers
import TrafficFeed.Http.Target
import TrafficFeed.Idn.Domain
import TrafficFeed.Idn.Label
import TrafficFeed.Idn.Mapping
import TrafficFeed.Idn.Normal
import TrafficFeed.Idn.Punycode
import TrafficFeed.Idn.Table.Class
import TrafficFeed.Idn.Table.Composition
import TrafficFeed.Idn.Table.Mapping
import TrafficFeed.Json.Basic
import TrafficFeed.Json.Lexer
import TrafficFeed.Json.Number
import TrafficFeed.Json.Parser
import TrafficFeed.Json.Printer
import TrafficFeed.Log
import TrafficFeed.Main
import TrafficFeed.Metrics.Basic
import TrafficFeed.Metrics.Exposition
import TrafficFeed.Net.Address
import TrafficFeed.Net.Numeric
import TrafficFeed.Pipeline.Basic
import TrafficFeed.Pipeline.Capture
import TrafficFeed.Pipeline.Launch
import TrafficFeed.Queue
import TrafficFeed.Settings.Basic
import TrafficFeed.Settings.CommandLine
import TrafficFeed.Subscriber.LogFilter
import TrafficFeed.Subscriber.Message
import TrafficFeed.Subscriber.Program
import TrafficFeed.Subscriber.Session
import TrafficFeed.Subscriber.Totals
import TrafficFeed.Subscriber.TrafficLog
import TrafficFeed.Text.Ascii
import TrafficFeed.Text.Base64
import TrafficFeed.Text.Cut
import TrafficFeed.Text.Hex
import TrafficFeed.Text.Lossy
import TrafficFeed.Text.Numeral
import TrafficFeed.Text.Pattern
import TrafficFeed.Text.Property
import TrafficFeed.Text.Quoted
import TrafficFeed.Text.Rounding
import TrafficFeed.Text.Span
import TrafficFeed.Text.Table.Alphanumeric
import TrafficFeed.Text.Table.Unseen
import TrafficFeed.Text.Terminal
import TrafficFeed.Transport.Basic
import TrafficFeed.Transport.Endpoint
import TrafficFeed.Transport.ListPublisher
import TrafficFeed.Transport.ListTarget
import TrafficFeed.Transport.Machine
import TrafficFeed.Transport.Publisher
import TrafficFeed.Transport.Script
import TrafficFeed.Url.Basic
import TrafficFeed.Url.Host
import TrafficFeed.Url.Parser
import TrafficFeed.Url.Password
import TrafficFeed.Url.Path
import TrafficFeed.Url.Percent
import TrafficFeed.Proofs.Queue.Entry
import TrafficFeed.Proofs.Queue.Slots
import TrafficFeed.Proofs.Parties.Basic
import TrafficFeed.Proofs.Parties.Step
import TrafficFeed.Proofs.Parties.Conveyance
import TrafficFeed.Proofs.Correlation.History
import TrafficFeed.Proofs.Correlation.Ledger
import TrafficFeed.Proofs.Parties.Capture
import TrafficFeed.Proofs.Parties.Recall
import TrafficFeed.Proofs.Parties.Emission
import TrafficFeed.Proofs.Parties.Accounting
import TrafficFeed.Proofs.Parties.Trace
import TrafficFeed.Proofs.Parties.Operations
import TrafficFeed.Proofs.Parties.Sequential
import TrafficFeed.Proofs.Parties.Ordering
import TrafficFeed.Proofs.Parties.Smooth
import TrafficFeed.Proofs.Crew.Basic
import TrafficFeed.Proofs.Crew.Stages
import TrafficFeed.Proofs.Crew.Course
import TrafficFeed.Proofs.Crew.Progress
import TrafficFeed.Proofs.Crew.Completion
import TrafficFeed.Proofs.Json.Numeral
import TrafficFeed.Proofs.Json.Flat
import TrafficFeed.Proofs.Event.Payload
import TrafficFeed.Proofs.Event.Recognition
import TrafficFeed.Proofs.Queue.Passage
import TrafficFeed.Proofs.Queue.Line
import TrafficFeed.Proofs.Queue.Outcome
import TrafficFeed.Proofs.Text.Base64
import TrafficFeed.Proofs.Event.Body
import TrafficFeed.Proofs.Pipeline.Start
import TrafficFeed.Proofs.Transport.Recovery
import TrafficFeed.Proofs.Correlation.Capacity
import TrafficFeed.Proofs.Parties.Census
import TrafficFeed.Proofs.Json.Clear
import TrafficFeed.Proofs.Subscriber.TrafficLog
import TrafficFeed.Proofs.Transport.Outcomes
import TrafficFeed.Proofs.Parties.Worker
import TrafficFeed.Proofs.Parties.Hosts
import TrafficFeed.Proofs.Text.Cut
import TrafficFeed.Proofs.Idn.Punycode
import TrafficFeed.Proofs.Idn.Domain
import TrafficFeed.Proofs.Url.Percent
import TrafficFeed.Proofs.Url.Path
import TrafficFeed.Proofs.Url.Address
import TrafficFeed.Proofs.Url.Host
import TrafficFeed.Proofs.Url.Authority
import TrafficFeed.Proofs.Url.Target
import TrafficFeed.Proofs.Http.Target
import TrafficFeed.Proofs.Correlation.Trigger
import TrafficFeed.Proofs.Event.Discretion
import TrafficFeed.Proofs.Subscriber.Discriminator
import TrafficFeed.Proofs.Subscriber.Account
import TrafficFeed.Proofs.Event.VirtualHost
import TrafficFeed.Proofs.Http.Block
import TrafficFeed.Proofs.Text.Numeral
import TrafficFeed.Proofs.Text.Octets
import TrafficFeed.Proofs.Clock.Calendar
import TrafficFeed.Proofs.Clock.Timestamp
import TrafficFeed.Proofs.Clock.Duration
import TrafficFeed.Proofs.CommandLine.LongOptions
import TrafficFeed.Proofs.Settings.Sources
import TrafficFeed.Proofs.Url.Password
import TrafficFeed.Proofs.Url.Login
import TrafficFeed.Proofs.Transport.Redaction
