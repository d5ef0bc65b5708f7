import RpcProxy.CommandLine.Arguments
import RpcProxy.CommandLine.Report
import RpcProxy.Config.Basic
import RpcProxy.Config.Problem
import RpcProxy.Config.ProtocolOptions
import RpcProxy.Config.Reading
import RpcProxy.Config.Record
import RpcProxy.Config.Writing
import RpcProxy.Criteria
import RpcProxy.Decimal.Layout
import RpcProxy.Decimal.Shortest
import RpcProxy.Dispatcher
import RpcProxy.Exception
import RpcProxy.Exchange.Call
import RpcProxy.Exchange.ConnectionTable
import RpcProxy.Exchange.Surroundings
import RpcProxy.Exchange.Transcript
import RpcProxy.Gateway
import RpcProxy.Header.Map
import RpcProxy.Header.Matcher
import RpcProxy.Json.Document
import RpcProxy.Json.Literal
import RpcProxy.Json.Printer
import RpcProxy.Json.Quoted
import RpcProxy.Json.Token
import RpcProxy.Json.Value
import RpcProxy.Leg
import RpcProxy.Main
import RpcProxy.Message
import RpcProxy.Metric
import RpcProxy.Proofs.Call.Conduct
import RpcProxy.Proofs.Call.Effects
import RpcProxy.Proofs.Dispatcher.Order
import RpcProxy.Proofs.Exchange.Shared
import RpcProxy.Proofs.Router.Conduct
import RpcProxy.Proofs.Router.Run
import RpcProxy.Regex.Basic
import RpcProxy.Regex.CharClass
import RpcProxy.Regex.Match
import RpcProxy.Regex.Pattern
import RpcProxy.Regex.Reading
import RpcProxy.Router
import RpcProxy.Routing.Descriptor
import RpcProxy.Routing.Error
import RpcProxy.Routing.Rule
import RpcProxy.Routing.Table
import RpcProxy.Routing.Target
import RpcProxy.Text.Quoted
import RpcProxy.Unicode.CaseOrbit
import RpcProxy.Unicode.Category
import RpcProxy.Unicode.CodeSet
import RpcProxy.Unicode.Property
import RpcProxy.Unicode.Script
import RpcProxy.Proofs.Router.Outcome
import RpcProxy.Proofs.Router.LateEvents
import RpcProxy.Proofs.Exchange.Table
import RpcProxy.Proofs.Call.Connection
import RpcProxy.Proofs.Router.Connection
import RpcProxy.Proofs.Gateway.Sequence
import RpcProxy.Proofs.Router.EndOfStream
import RpcProxy.Proofs.Gateway.EarlyEnd
import RpcProxy.Proofs.Dispatcher.Ending
import RpcProxy.Proofs.Call.Continuation
import RpcProxy.Proofs.Router.Awaiting
import RpcProxy.Proofs.Call.Untimed
import RpcProxy.Proofs.Router.Untimed
import RpcProxy.Proofs.Dispatcher.Arrival
import RpcProxy.Proofs.Call.Coherence
import RpcProxy.Proofs.Router.Coherence
import RpcProxy.Proofs.Router.Life
import RpcProxy.Proofs.Router.Chronicle
import RpcProxy.Proofs.Call.Dealings
import RpcProxy.Proofs.Router.Course
import RpcProxy.Proofs.Router.Sending
import RpcProxy.Proofs.Router.Possession
import RpcProxy.Proofs.Dispatcher.Service
import RpcProxy.Proofs.Router.Negotiation
import RpcProxy.Proofs.Gateway.Upgrade
import RpcProxy.Proofs.Exchange.Statistics
import RpcProxy.Proofs.Except
import RpcProxy.Proofs.Criteria
import RpcProxy.Proofs.Json.Members
import RpcProxy.Proofs.Header.Constraint
import RpcProxy.Proofs.Config.Criteria
import RpcProxy.Proofs.Routing.Prescription
import RpcProxy.Proofs.Call.Statistics
import RpcProxy.Proofs.Router.Statistics
import RpcProxy.Proofs.Json.Quoted
import RpcProxy.Proofs.Json.Literal
import RpcProxy.Proofs.Json.Numbers
import RpcProxy.Proofs.Config.Strictness
import RpcProxy.Proofs.Json.Rendering
import RpcProxy.Proofs.Config.Restoring
import RpcProxy.Proofs.Config.RoundTrip
import RpcProxy.Proofs.Config.Order
import RpcProxy.Proofs.Config.Record
import RpcProxy.Proofs.Call.Reports
import RpcProxy.Proofs.Router.Fate
import RpcProxy.Proofs.Router.Conclusion
import RpcProxy.Proofs.Router.Timing
import RpcProxy.Proofs.Router.Health
import RpcProxy.Proofs.Call.Opening
import RpcProxy.Proofs.Router.Reception
import RpcProxy.Proofs.Routing.Spelling
import RpcProxy.Proofs.Router.Direction
import RpcProxy.Proofs.CommandLine.DryRun
import RpcProxy.Proofs.Gateway.Replacement
import RpcProxy.Proofs.Call.Relay
import RpcProxy.Proofs.Router.Relay
import RpcProxy.Proofs.Router.Teardown
import RpcProxy.Proofs.Routing.Weights
import RpcProxy.Proofs.Routing.Validity
import RpcProxy.Proofs.Regex.Matching
import RpcProxy.Proofs.Regex.Locality
import RpcProxy.Proofs.Regex.Escapes
import RpcProxy.Proofs.Regex.Brackets
import RpcProxy.Proofs.Regex.Groups
import RpcProxy.Proofs.Regex.Enclosing
import RpcProxy.Proofs.Header.WholeValue
import RpcProxy.Proofs.Header.Multimap
import RpcProxy.Proofs.Header.Range
import RpcProxy.Proofs.Routing.Chance
import RpcProxy.Proofs.Routing.Service
import RpcProxy.Proofs.Call.Carriage
import RpcProxy.Proofs.Router.Delivery
import RpcProxy.Proofs.Routing.RateLimits
import RpcProxy.Proofs.Router.Balancing
