import ConstructTui.Lib.Text
import ConstructTui.Lib.Base64
import ConstructTui.Lib.BigEndian
import ConstructTui.Lib.Checked
import ConstructTui.Lib.Chunks
import ConstructTui.Lib.Fields
import ConstructTui.Lib.Run
import ConstructTui.Lib.Fifo
import ConstructTui.Lib.Hex
import ConstructTui.Lib.Ledger
import ConstructTui.Lib.Program
import ConstructTui.Lib.Raster
import ConstructTui.Lib.Recent
import ConstructTui.Lib.Table
import ConstructTui.Lib.Traced
import ConstructTui.Lib.Utf8
import ConstructTui.Storage
import ConstructTui.Knst
import ConstructTui.Events
import ConstructTui.Stream.Worker
import ConstructTui.Stream.Conservation
import ConstructTui.Orchestrator.World
import ConstructTui.Orchestrator.CursorTracker
import ConstructTui.Orchestrator.Dispatch
import ConstructTui.Orchestrator.Task
import ConstructTui.Orchestrator.Walk
import ConstructTui.Orchestrator.Calls
import ConstructTui.Orchestrator.Healing
import ConstructTui.Orchestrator.Establishment
import ConstructTui.Orchestrator.Effects
import ConstructTui.Orchestrator.FollowUps
import ConstructTui.Orchestrator.ReplayGuard
import ConstructTui.Orchestrator.DroppedReplays
import ConstructTui.Orchestrator.Surfacing
import ConstructTui.Orchestrator.Fidelity
import ConstructTui.Stream.Relay
import ConstructTui.Orchestrator.Sending
import ConstructTui.Orchestrator.Statements
import ConstructTui.Orchestrator.StoredCursors
import ConstructTui.Orchestrator.Suppression
import ConstructTui.Orchestrator.Watermark
import ConstructTui.Orchestrator.Wrapping
import ConstructTui.Grpc.Framing
import ConstructTui.Grpc.Pump
import ConstructTui.Stream.Link
import ConstructTui.Stream.Reconnection
import ConstructTui.Stream.Exchange
import ConstructTui.Stream.Masking
import ConstructTui.Stream.Subscriptions
import ConstructTui.Stream.Wire
import ConstructTui.Grpc.Client
import ConstructTui.Grpc.Extraction
import ConstructTui.Grpc.Requests
import ConstructTui.Grpc.Unary
import ConstructTui.Invite.Basic
import ConstructTui.Invite.Grammar
import ConstructTui.Invite.Cursor
import ConstructTui.Invite.RoundTrip
import ConstructTui.Screens
import ConstructTui.Invite.Payload
import ConstructTui.Invite.Signature
import ConstructTui.Invite.Strict
import ConstructTui.Invite.Reencode
import ConstructTui.Invite.Sliced
import ConstructTui.Invite.Validity
import ConstructTui.Config
import ConstructTui.Config.Sealing
import ConstructTui.Config.Damage
import ConstructTui.Config.Clearing
import ConstructTui.App.State
import ConstructTui.App.Session
import ConstructTui.App.Handlers
import ConstructTui.App.Step
import ConstructTui.App.Moves
import ConstructTui.App.Inputs
import ConstructTui.App.Runs
import ConstructTui.App.Account
import ConstructTui.App.Acts
import ConstructTui.App.Restore
import ConstructTui.App.Agreement
import ConstructTui.App.Announcements
import ConstructTui.App.Channels
import ConstructTui.App.Contacts
import ConstructTui.App.Edits
import ConstructTui.App.Refresh
import ConstructTui.App.Vault
import ConstructTui.App.Identity
import ConstructTui.App.Confirmation
import ConstructTui.App.Credentials
import ConstructTui.App.Connecting
import ConstructTui.App.Deletion
import ConstructTui.App.ForgetFirst
import ConstructTui.App.ContactList
import ConstructTui.Auth
import ConstructTui.App.Enrolment
import ConstructTui.App.Feeds
import ConstructTui.App.RestoredSessions
import ConstructTui.App.Forgetting
import ConstructTui.App.Inbound
import ConstructTui.App.InviteCode
import ConstructTui.App.Isolation
import ConstructTui.App.Logout
import ConstructTui.App.Transcript
import ConstructTui.App.Reopening
import ConstructTui.App.Outbound
import ConstructTui.App.Panes
import ConstructTui.App.Paste
import ConstructTui.App.Search
import ConstructTui.App.Provenance
import ConstructTui.App.Recipient
import ConstructTui.App.SafetyNumber
import ConstructTui.App.SinglePipeline
import ConstructTui.App.StreamSends
import ConstructTui.App.StreamPosition
import ConstructTui.App.Timers
import ConstructTui.App.Unlocking
import ConstructTui.App.Window
import ConstructTui.Conversations
import ConstructTui.History
import ConstructTui.QrWidget
