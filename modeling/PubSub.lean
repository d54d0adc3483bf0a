import PubSub.Text.Blank
import PubSub.Text.Numeral
import PubSub.Text.Printable
import PubSub.Text.Quoted
import PubSub.Text.Record
import PubSub.Time.Clock
import PubSub.Time.Duration
import PubSub.Time.DurationText
import PubSub.Wire.DeliveryText
import PubSub.Wire.Field
import PubSub.Wire.Message
import PubSub.Wire.Varint
import PubSub.Rpc.Address
import PubSub.Rpc.CallTimeout
import PubSub.Rpc.Channel
import PubSub.Rpc.Host
import PubSub.Rpc.Identity
import PubSub.Rpc.IpAddress
import PubSub.Rpc.Metadata
import PubSub.Rpc.Method
import PubSub.Rpc.Notice
import PubSub.Rpc.Status
import PubSub.Rpc.TransportError
import PubSub.Topic.Event
import PubSub.Topic.Request
import PubSub.Topic.TopicError
import PubSub.Topic.Value
import PubSub.Settings.ClientSettings
import PubSub.Settings.Credentials
import PubSub.Settings.Environment
import PubSub.Settings.SettingError
import PubSub.Retry.Call
import PubSub.Retry.Eligibility
import PubSub.Retry.Policy
import PubSub.Retry.Strategy
import PubSub.Pool.Desk
import PubSub.Pool.Dialer
import PubSub.Pool.Link
import PubSub.Pool.Queue
import PubSub.Pool.Roster
import PubSub.Pool.Rotation
import PubSub.Pool.Shape
import PubSub.Pool.SlotPool
import PubSub.Client.Client
import PubSub.Client.Service
import PubSub.Client.Session
import PubSub.Client.Subscription
import PubSub.Command.Arguments
import PubSub.Command.Causes
import PubSub.Command.Isolation
import PubSub.Command.LogFilter
import PubSub.Command.Output
import PubSub.Command.Report
import PubSub.Command.Run
import PubSub.Main
import PubSub.Proofs.Client.Closing
import PubSub.Proofs.Client.Log
import PubSub.Proofs.Client.Opening
import PubSub.Proofs.Client.Patience
import PubSub.Proofs.Client.Persistence
import PubSub.Proofs.Client.Position
import PubSub.Proofs.Client.Publishing
import PubSub.Proofs.Client.Resume
import PubSub.Proofs.Client.Rounds
import PubSub.Proofs.Client.Slots
import PubSub.Proofs.Command.Following
import PubSub.Proofs.Command.Performance
import PubSub.Proofs.Pool.Accounts
import PubSub.Proofs.Pool.Admission
import PubSub.Proofs.Pool.Balance
import PubSub.Proofs.Pool.Callers
import PubSub.Proofs.Pool.Connections
import PubSub.Proofs.Pool.Construction
import PubSub.Proofs.Pool.Decision
import PubSub.Proofs.Pool.Interleaving
import PubSub.Proofs.Pool.Peak
import PubSub.Proofs.Pool.Refusal
import PubSub.Proofs.Pool.Rotations
import PubSub.Proofs.Pool.RoundRobin
import PubSub.Proofs.Pool.Search
import PubSub.Proofs.Pool.Semaphore
import PubSub.Proofs.Pool.Shutdown
import PubSub.Proofs.Pool.Turns
import PubSub.Proofs.Pool.Uninterrupted
import PubSub.Proofs.Pool.Visits
import PubSub.Proofs.Retry.Course
import PubSub.Proofs.Retry.Deadline
import PubSub.Proofs.Retry.Growth
import PubSub.Proofs.Retry.Termination
import PubSub.Proofs.Rpc.Identification
import PubSub.Proofs.Settings.Endpoints
import PubSub.Proofs.Settings.Loading
import PubSub.Proofs.Settings.Numerals
import PubSub.Proofs.Text.Trimming
import PubSub.Proofs.Wire.Framing
import PubSub.Proofs.Wire.Grammar
import PubSub.Proofs.Wire.RoundTrip
import PubSub.Proofs.Wire.UnknownFields
