import ClusterHub.Client.Basic
import ClusterHub.Config.Basic
import ClusterHub.Config.Ports
import ClusterHub.Decimal.Layout
import ClusterHub.Decimal.Shortest
import ClusterHub.Engine.Link
import ClusterHub.Engine.Registry
import ClusterHub.Fault
import ClusterHub.Heart.Beat
import ClusterHub.Heart.Echo
import ClusterHub.Heart.Liveness
import ClusterHub.Heart.Monitor
import ClusterHub.Hub.Basic
import ClusterHub.Hub.Membership
import ClusterHub.Hub.Query
import ClusterHub.Hub.Server
import ClusterHub.Hub.Service
import ClusterHub.Hub.Snapshot
import ClusterHub.Hub.Sockets
import ClusterHub.Hub.Traffic
import ClusterHub.Json.Access
import ClusterHub.Json.Basic
import ClusterHub.Json.Canonical
import ClusterHub.Json.Escaped
import ClusterHub.Json.Numeral
import ClusterHub.Json.Parse
import ClusterHub.Json.Print
import ClusterHub.Json.Reading
import ClusterHub.Main
import ClusterHub.Metrics.Basic
import ClusterHub.Metrics.Histogram
import ClusterHub.Metrics.Hub
import ClusterHub.Reactor.Basic
import ClusterHub.Simulation.ClientSession
import ClusterHub.Simulation.Cluster
import ClusterHub.Simulation.HeartGroup
import ClusterHub.Simulation.HostedEngine
import ClusterHub.Simulation.Script
import ClusterHub.Simulation.Switchboard
import ClusterHub.Simulation.WatchedMonitor
import ClusterHub.Task.Ledger
import ClusterHub.Task.Report
import ClusterHub.Text.Blank
import ClusterHub.Text.Digits
import ClusterHub.Text.Octets
import ClusterHub.Time.Calendar
import ClusterHub.Time.Instant
import ClusterHub.Time.Rfc3339
import ClusterHub.Time.Timestamp
import ClusterHub.Timer.Pass
import ClusterHub.Timer.Queue
import ClusterHub.Transport.Network
import ClusterHub.Transport.Socket
import ClusterHub.Wire.Build
import ClusterHub.Wire.Codec
import ClusterHub.Wire.Identity
import ClusterHub.Wire.Kind
import ClusterHub.Wire.Message
import ClusterHub.Wire.Notation
import ClusterHub.Wire.Payload
import ClusterHub.Wire.Reply
import ClusterHub.Proofs.Collections
import ClusterHub.Proofs.Fault
import ClusterHub.Proofs.Task.Consistency
import ClusterHub.Proofs.Task.Stranding
import ClusterHub.Proofs.Task.Attribution
import ClusterHub.Proofs.Task.Progress
import ClusterHub.Proofs.Task.Life
import ClusterHub.Proofs.Task.Edit
import ClusterHub.Proofs.Engine.Consistency
import ClusterHub.Proofs.Engine.Operation
import ClusterHub.Proofs.Engine.Roster
import ClusterHub.Proofs.Engine.History
import ClusterHub.Proofs.Engine.Standing
import ClusterHub.Proofs.Transport.Network
import ClusterHub.Proofs.Transport.Exchange
import ClusterHub.Proofs.Transport.Reach
import ClusterHub.Proofs.Transport.Line
import ClusterHub.Proofs.Timer.Running
import ClusterHub.Proofs.Timer.Order
import ClusterHub.Proofs.Reactor.Conduct
import ClusterHub.Proofs.Reactor.Log
import ClusterHub.Proofs.Reactor.Punctual
import ClusterHub.Proofs.Time.Stamp
import ClusterHub.Proofs.Time.RoundTrip
import ClusterHub.Proofs.Json.Reading
import ClusterHub.Proofs.Wire.Faithful
import ClusterHub.Proofs.Wire.RoundTrip
import ClusterHub.Proofs.Json.Spelling
import ClusterHub.Proofs.Json.RoundTrip
import ClusterHub.Proofs.Heart.Echo
import ClusterHub.Proofs.Heart.Round
import ClusterHub.Proofs.Heart.Course
import ClusterHub.Proofs.Heart.Freshness
import ClusterHub.Proofs.Hub.Event
import ClusterHub.Proofs.Hub.Core
import ClusterHub.Proofs.Hub.Passage
import ClusterHub.Proofs.Hub.Handling
import ClusterHub.Proofs.Hub.Beating
import ClusterHub.Proofs.Hub.Coherence.Basic
import ClusterHub.Proofs.Hub.Coherence.Beat
import ClusterHub.Proofs.Hub.Coherence.Message
import ClusterHub.Proofs.Hub.Course
import ClusterHub.Proofs.Hub.Membership
import ClusterHub.Proofs.Hub.Waiting
import ClusterHub.Proofs.Hub.Registration
import ClusterHub.Proofs.Hub.Recovery
import ClusterHub.Proofs.Hub.Timely
import ClusterHub.Proofs.Hub.Loop
import ClusterHub.Proofs.Hub.Posting
import ClusterHub.Proofs.Hub.InPlace
import ClusterHub.Proofs.Hub.Answering
import ClusterHub.Proofs.Hub.Replies
import ClusterHub.Proofs.Hub.Verdicts
import ClusterHub.Proofs.Hub.Orphans
import ClusterHub.Proofs.Hub.Rounds
import ClusterHub.Proofs.Hub.Lapsing
import ClusterHub.Proofs.Hub.Healthy
import ClusterHub.Proofs.Hub.Interleaving
import ClusterHub.Proofs.Hub.Turns
import ClusterHub.Proofs.Hub.Notices
import ClusterHub.Proofs.Hub.Correspondence
import ClusterHub.Proofs.Hub.Attribution
import ClusterHub.Proofs.Hub.Gauges
import ClusterHub.Proofs.Hub.Reports
import ClusterHub.Proofs.Client.Session
import ClusterHub.Proofs.Client.Call
import ClusterHub.Proofs.Wire.RoundTrip
import ClusterHub.Proofs.Heart.Judgement
import ClusterHub.Proofs.Transport.Binding
import ClusterHub.Proofs.Transport.Holding
import ClusterHub.Proofs.Timer.Turn
import ClusterHub.Proofs.Timer.Pass
import ClusterHub.Proofs.Task.Listing
import ClusterHub.Proofs.Heart.Calls
import ClusterHub.Proofs.Heart.Notification
import ClusterHub.Proofs.Reactor.Limit
import ClusterHub.Proofs.Transport.Gain
import ClusterHub.Proofs.Reactor.Visit
import ClusterHub.Proofs.Reactor.Service
import ClusterHub.Proofs.Task.Load
import ClusterHub.Proofs.Task.Purge
import ClusterHub.Proofs.Task.Retrieval
import ClusterHub.Proofs.Task.Content
import ClusterHub.Proofs.Hub.Ledger
import ClusterHub.Proofs.Hub.Requests
import ClusterHub.Proofs.Hub.Resubmission
import ClusterHub.Proofs.Hub.Addresses
import ClusterHub.Proofs.Transport.Retreat
import ClusterHub.Proofs.Reactor.Invariant
import ClusterHub.Proofs.Hub.Opening
import ClusterHub.Proofs.Hub.Tenancy
