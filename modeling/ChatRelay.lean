import ChatRelay.Chat.Conversation
import ChatRelay.Chat.Error
import ChatRelay.Chat.Json
import ChatRelay.Chat.Role
import ChatRelay.Command.Arguments
import ChatRelay.Command.Invocation
import ChatRelay.Command.Output
import ChatRelay.Command.Run
import ChatRelay.Completion.Chunk
import ChatRelay.Completion.EndpointError
import ChatRelay.Completion.Error
import ChatRelay.Completion.Exchange
import ChatRelay.Completion.Json
import ChatRelay.Completion.Message
import ChatRelay.Config.File
import ChatRelay.Config.Settings
import ChatRelay.Decimal.Shortest
import ChatRelay.Generation.Classify
import ChatRelay.Generation.Diagnostic
import ChatRelay.Generation.Event
import ChatRelay.Generation.Relay
import ChatRelay.Generation.TitleJob
import ChatRelay.Http.Access
import ChatRelay.Http.Body
import ChatRelay.Http.Envelope
import ChatRelay.Http.EventStream
import ChatRelay.Http.MediaType
import ChatRelay.Http.Message
import ChatRelay.Http.Route
import ChatRelay.Http.Server
import ChatRelay.Http.Url
import ChatRelay.Json.Any
import ChatRelay.Json.Bytes
import ChatRelay.Json.Decoder
import ChatRelay.Json.Source
import ChatRelay.Json.Value
import ChatRelay.Keys.Sha256
import ChatRelay.Keys.Table
import ChatRelay.Main
import ChatRelay.Proofs.Generation.Disconnect
import ChatRelay.Proofs.Generation.EventOrder
import ChatRelay.Proofs.Generation.Keeping
import ChatRelay.Proofs.Generation.Opening
import ChatRelay.Proofs.Generation.Plan
import ChatRelay.Proofs.Generation.Sending
import ChatRelay.Proofs.Generation.StoreEffect
import ChatRelay.Proofs.Generation.TitleJob
import ChatRelay.Proofs.Service.Calls
import ChatRelay.Proofs.Service.Keeping
import ChatRelay.Proofs.Store.Reachable
import ChatRelay.Proofs.Store.Reading
import ChatRelay.Proofs.Store.Records
import ChatRelay.Proofs.Store.Rows
import ChatRelay.Proofs.Store.TimeOrder
import ChatRelay.Proofs.Text.Search
import ChatRelay.Proofs.Text.Utf8
import ChatRelay.Proofs.Text.WhiteSpace
import ChatRelay.Proofs.Time.Calendar
import ChatRelay.Proofs.Time.Digits
import ChatRelay.Proofs.Time.Order
import ChatRelay.Proofs.Time.Stored
import ChatRelay.Proofs.Title.Marker
import ChatRelay.Proofs.Title.Scan
import ChatRelay.Proofs.Uuid
import ChatRelay.Service.Conversations
import ChatRelay.Service.Home
import ChatRelay.Service.Program
import ChatRelay.Service.Remote
import ChatRelay.Service.World
import ChatRelay.Store.Basic
import ChatRelay.Store.Row
import ChatRelay.Tasks
import ChatRelay.Text.Boxed
import ChatRelay.Text.Cased
import ChatRelay.Text.CharRange
import ChatRelay.Text.Hex
import ChatRelay.Text.LowerCase
import ChatRelay.Text.Printable
import ChatRelay.Text.Quoted
import ChatRelay.Text.Search
import ChatRelay.Text.Utf8
import ChatRelay.Text.WhiteSpace
import ChatRelay.Text.Width
import ChatRelay.Time.Calendar
import ChatRelay.Time.Instant
import ChatRelay.Time.Reader
import ChatRelay.Title.Normal
import ChatRelay.Title.Scanner
import ChatRelay.Toml.Reader
import ChatRelay.Toml.Table
import ChatRelay.Uuid
import ChatRelay.Proofs.Generation.Refusal
import ChatRelay.Proofs.Service.Steps
import ChatRelay.Proofs.Service.Transcript
import ChatRelay.Proofs.Generation.Aftermath
import ChatRelay.Proofs.Store.Parts
import ChatRelay.Proofs.Service.Isolation
import ChatRelay.Proofs.Operations
import ChatRelay.Proofs.Service.History
import ChatRelay.Proofs.Http.EventStream
import ChatRelay.Proofs.Http.Streaming
import ChatRelay.Proofs.Keys.Table
import ChatRelay.Proofs.Http.Access
import ChatRelay.Proofs.Http.Identity
import ChatRelay.Proofs.Service.Turns
import ChatRelay.Proofs.Service.Effects
import ChatRelay.Proofs.Service.Shared
import ChatRelay.Proofs.Generation.Paths
import ChatRelay.Proofs.Generation.Together
import ChatRelay.Proofs.Generation.TitleRace
import ChatRelay.Proofs.Text.Offset
import ChatRelay.Proofs.Title.HoldBack
import ChatRelay.Proofs.Title.AnyOrder
import ChatRelay.Proofs.Title.Offsets
import ChatRelay.Proofs.Generation.TitleRequest
import ChatRelay.Proofs.Json.Text
import ChatRelay.Proofs.Json.Value
import ChatRelay.Proofs.Json.Record
import ChatRelay.Proofs.Time.Loose
import ChatRelay.Proofs.Chat.Json
import ChatRelay.Proofs.Wire
import ChatRelay.Proofs.Time.LeapSecond
import ChatRelay.Proofs.Store.Handle
import ChatRelay.Proofs.Service.Alterations
import ChatRelay.Proofs.Service.ReadBack
import ChatRelay.Proofs.Store.Filter
import ChatRelay.Proofs.Service.Queries
import ChatRelay.Proofs.Service.Recency
import ChatRelay.Proofs.Service.Always
import ChatRelay.Proofs.Generation.Announcement
import ChatRelay.Proofs.Store.Unreadable
import ChatRelay.Proofs.Service.Management
import ChatRelay.Proofs.Generation.Chunks
import ChatRelay.Proofs.Text.LowerCase
import ChatRelay.Proofs.Generation.Classify
import ChatRelay.Proofs.Text.Stripped
import ChatRelay.Proofs.Title.Normal
import ChatRelay.Proofs.Generation.TitleForm
import ChatRelay.Proofs.Framing
import ChatRelay.Proofs.Tasks
import ChatRelay.Path
import ChatRelay.Proofs.Path
import ChatRelay.Proofs.Http.Escape
import ChatRelay.Proofs.Store.Address
import ChatRelay.Proofs.DataDir
