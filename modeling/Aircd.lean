import Aircd.Runs
import Aircd.Protocol
import Aircd.Table
import Aircd.History
import Aircd.Tasks
import Aircd.Auth
import Aircd.Store
import Aircd.Server
import Aircd.Effects
import Aircd.Routing
import Aircd.Deliveries
import Aircd.Cursors
import Aircd.Sections
import Aircd.Handoff
import Aircd.Pending
import Aircd.Attached
import Aircd.DeliveryOrder
import Aircd.Message
import Aircd.Delivery
import Aircd.AtLeastOnce
import Aircd.HandOuts
import Aircd.Requests
import Aircd.Cleanup
import Aircd.Reader
import Aircd.Lines
import Aircd.Utf8
import Aircd.Strings
import Aircd.Wire
import Aircd.Client
import Aircd.ReaderLoop
import Aircd.Framing
import Aircd.Received
import Aircd.Parsing
import Aircd.Fidelity
import Aircd.People
import Aircd.Copies
import Aircd.Bounds
import Aircd.Authority
import Aircd.Status
import Aircd.Endings
import Aircd.Outbox
import Aircd.TaskLog
import Aircd.LineBreaks
import Aircd.Unsplit
import Aircd.Replies
import Aircd.Outcomes
import Aircd.Answers
import Aircd.Dialogue
import Aircd.Agreement
import Aircd.Paging
import Aircd.Pages
import Aircd.Recency
import Aircd.Dedup
import Aircd.Redelivery
import Aircd.Lease
import Aircd.Explicit
import Aircd.Outsiders
import Aircd.Scripts
import Aircd.Schema
import Aircd.Migration
import Aircd.Echoes
import Aircd.Channels
import Aircd.Spelling
import Aircd.Tokens
import Aircd.Sender
import Aircd.Claude
import Aircd.Patterns
import Aircd.Notices
import Aircd.Readings
import Aircd.Keys
import Aircd.Work
import Aircd.Serial
import Aircd.Progress
import Aircd.Flow
import Aircd.Authorship
import Aircd.Audience
import Aircd.Posting
import Aircd.Speaking
import Aircd.Handshake
import Aircd.Connecting
import Aircd.Resuming
import Aircd.CatchingUp
import Aircd.Json
import Aircd.Query
import Aircd.Api
import Aircd.Bridge
import Aircd.Served
import Aircd.Turns
import Aircd.Shown
import Aircd.Delegation
