import LoadTest.Coordinator
import LoadTest.Coordinator.Connection
import LoadTest.Decimal.Numeral
import LoadTest.Decimal.Places
import LoadTest.Dispatch.Broker
import LoadTest.Dispatch.Message
import LoadTest.Event.Wire
import LoadTest.Http.Session
import LoadTest.Json.Parser
import LoadTest.Json.Printer
import LoadTest.Json.Record
import LoadTest.Main
import LoadTest.Net.Endpoint
import LoadTest.Plan
import LoadTest.Proofs.Cli.ExitCodes
import LoadTest.Proofs.Cli.Refusals
import LoadTest.Proofs.Coordinator.Gathering
import LoadTest.Proofs.Coordinator.Hits
import LoadTest.Proofs.Coordinator.Outcomes
import LoadTest.Proofs.Coordinator.Stages
import LoadTest.Proofs.Decimal.Numeral
import LoadTest.Proofs.Decimal.Quotient
import LoadTest.Proofs.Dispatch.Exchange
import LoadTest.Proofs.Dispatch.Unchecked
import LoadTest.Proofs.Event.Known
import LoadTest.Proofs.Event.Wire
import LoadTest.Proofs.Json.Reading
import LoadTest.Proofs.Json.Strings
import LoadTest.Proofs.Net.Endpoint
import LoadTest.Proofs.Plan.Written
import LoadTest.Proofs.Run.Escape
import LoadTest.Proofs.Run.FirstOccurrence
import LoadTest.Proofs.Run.Layout
import LoadTest.Proofs.Run.Measured
import LoadTest.Proofs.Sink.ArrivalOrder
import LoadTest.Proofs.Sink.Partition
import LoadTest.Proofs.Sink.Percentiles
import LoadTest.Proofs.Sink.Refinement
import LoadTest.Proofs.Sink.RunClock
import LoadTest.Proofs.Sink.Scripts
import LoadTest.Proofs.Sink.Slower
import LoadTest.Proofs.Sink.Workers
import LoadTest.Proofs.Stream.Framing
import LoadTest.Proofs.Testbed.Agents
import LoadTest.Proofs.Text.Numbers
import LoadTest.Report.Format
import LoadTest.Run.Local
import LoadTest.Sink.Hub
import LoadTest.Sink.Summary
import LoadTest.Stream
import LoadTest.Testbed.Broker
import LoadTest.Testbed.Command
import LoadTest.Testbed.Fleet
import LoadTest.Testbed.Heard
import LoadTest.Testbed.Script
import LoadTest.Testbed.Target
import LoadTest.Text.Lines
import LoadTest.Time.Spoken
