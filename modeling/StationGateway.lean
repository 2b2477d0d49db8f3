import StationGateway.Broadcast
import StationGateway.ChargePoint
import StationGateway.CommandLine.Basic
import StationGateway.CommandLine.Help
import StationGateway.CommandLine.Reader
import StationGateway.Config.Basic
import StationGateway.Config.File
import StationGateway.Datum.Basic
import StationGateway.Datum.Decoder
import StationGateway.Datum.Record
import StationGateway.Dispatcher
import StationGateway.Environment
import StationGateway.ErrorCode
import StationGateway.Event.Basic
import StationGateway.Event.Decoder
import StationGateway.EventBus
import StationGateway.Frame
import StationGateway.Gateway.Basic
import StationGateway.Gateway.Idle
import StationGateway.Gateway.Message
import StationGateway.Gateway.Step
import StationGateway.Handler
import StationGateway.Handshake
import StationGateway.Http.Query
import StationGateway.Http.Uri
import StationGateway.Json.Basic
import StationGateway.Json.Printer
import StationGateway.Json.Reader
import StationGateway.Json.Value
import StationGateway.Launch
import StationGateway.Log.Basic
import StationGateway.Log.Filter
import StationGateway.Main
import StationGateway.Number.Binary64
import StationGateway.Number.Shortest
import StationGateway.Payload
import StationGateway.Proofs.CommandLine.Check
import StationGateway.Proofs.Config.Constraint
import StationGateway.Proofs.Config.Loading
import StationGateway.Proofs.Datum.Arrangement
import StationGateway.Proofs.Datum.Overlay
import StationGateway.Proofs.Datum.Record
import StationGateway.Proofs.Datum.Scalar
import StationGateway.Proofs.Dispatcher.MessageType
import StationGateway.Proofs.Dispatcher.Outcome
import StationGateway.Proofs.Dispatcher.Payload
import StationGateway.Proofs.Dispatcher.Rejection
import StationGateway.Proofs.Dispatcher.Reply
import StationGateway.Proofs.Dispatcher.Table
import StationGateway.Proofs.Dispatcher.Task
import StationGateway.Proofs.EventBus.Delivery
import StationGateway.Proofs.Frame.Acceptance
import StationGateway.Proofs.Frame.RoundTrip
import StationGateway.Proofs.Gateway.Agreement
import StationGateway.Proofs.Gateway.Conversation
import StationGateway.Proofs.Gateway.Course
import StationGateway.Proofs.Gateway.Deadline
import StationGateway.Proofs.Gateway.Opening
import StationGateway.Proofs.Gateway.Orderly
import StationGateway.Proofs.Gateway.Presence
import StationGateway.Proofs.Gateway.Registration
import StationGateway.Proofs.Gateway.Rejection
import StationGateway.Proofs.Gateway.Shutdown
import StationGateway.Proofs.Gateway.Step
import StationGateway.Proofs.Handshake.Advertised
import StationGateway.Proofs.Handshake.Decision
import StationGateway.Proofs.Handshake.Offer
import StationGateway.Proofs.Http.Literal
import StationGateway.Proofs.Http.Query
import StationGateway.Proofs.Json.Acceptance
import StationGateway.Proofs.Json.Depth
import StationGateway.Proofs.Json.Grammar
import StationGateway.Proofs.Json.Number
import StationGateway.Proofs.Json.Numeral
import StationGateway.Proofs.Json.RoundTrip
import StationGateway.Proofs.Launch.Agreement
import StationGateway.Proofs.Number.Shortest
import StationGateway.Proofs.Payload.Arrangement
import StationGateway.Proofs.Payload.Positional
import StationGateway.Proofs.Payload.RoundTrip
import StationGateway.Proofs.Service.Answered
import StationGateway.Proofs.Service.History
import StationGateway.Proofs.Session.Exchange
import StationGateway.Proofs.Session.Outgoing
import StationGateway.Proofs.Session.Queue
import StationGateway.Proofs.Session.Succession
import StationGateway.Proofs.Session.Traffic
import StationGateway.Proofs.Shutdown.Signalling
import StationGateway.Proofs.Text.Blank
import StationGateway.Proofs.Text.Order
import StationGateway.Proofs.Text.Split
import StationGateway.Proofs.Text.Utf8
import StationGateway.Service
import StationGateway.Session.Basic
import StationGateway.Session.Exchange
import StationGateway.Session.Registry
import StationGateway.Shutdown
import StationGateway.SocketAddress
import StationGateway.Text.Blank
import StationGateway.Text.Digit
import StationGateway.Text.Quoted
import StationGateway.Text.Split
import StationGateway.Text.Utf8
import StationGateway.Text.Visible
import StationGateway.Time.Basic
import StationGateway.Time.Printer
import StationGateway.Time.Reader
import StationGateway.Time.Readings
import StationGateway.Toml.Reader
import StationGateway.Toml.Scalar
import StationGateway.Toml.Table
