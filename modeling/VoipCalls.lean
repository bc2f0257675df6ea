import VoipCalls.Attempt
import VoipCalls.Address.Basic
import VoipCalls.Address.Ip
import VoipCalls.Call.Column
import VoipCalls.Call.Event
import VoipCalls.Call.Key
import VoipCalls.Call.Order
import VoipCalls.Call.Payload
import VoipCalls.Call.Protocol
import VoipCalls.Call.Record
import VoipCalls.Call.Unchecked
import VoipCalls.Capture.Packet
import VoipCalls.CommandLine
import VoipCalls.Files
import VoipCalls.Filter.Choice
import VoipCalls.Filter.Fields
import VoipCalls.Filter.Frames
import VoipCalls.Http.Api
import VoipCalls.Intake
import VoipCalls.Logging
import VoipCalls.Number.Decimal
import VoipCalls.Number.Double
import VoipCalls.Number.Fixed
import VoipCalls.Number.Integer
import VoipCalls.Number.Lenient
import VoipCalls.Number.Power
import VoipCalls.Number.Rounding
import VoipCalls.Number.Shortest
import VoipCalls.Proofs.Call.Growth
import VoipCalls.Proofs.Filter.Fallback
import VoipCalls.Proofs.Filter.Words
import VoipCalls.Proofs.Filter.Language
import VoipCalls.Proofs.Filter.Meaning
import VoipCalls.Proofs.Filter.Circuit
import VoipCalls.Proofs.Filter.Identifiers
import VoipCalls.Proofs.Filter.Listing
import VoipCalls.Proofs.Filter.FrameRange
import VoipCalls.Proofs.FirstOccurrences
import VoipCalls.Proofs.Intake.Acceptance
import VoipCalls.Proofs.Intake.Isolation
import VoipCalls.Proofs.Intake.Log
import VoipCalls.Proofs.Number.Comparison
import VoipCalls.Proofs.Session.Bookkeeping
import VoipCalls.Proofs.Session.Runs
import VoipCalls.Proofs.Store.Batches
import VoipCalls.Proofs.Store.Deciding
import VoipCalls.Proofs.Store.Numbering
import VoipCalls.Proofs.Store.Publishing
import VoipCalls.Replay
import VoipCalls.Sequence
import VoipCalls.Session.Basic
import VoipCalls.Session.Host
import VoipCalls.Settings.Basic
import VoipCalls.Settings.Document
import VoipCalls.Settings.Field
import VoipCalls.Settings.Load
import VoipCalls.Sip.Events
import VoipCalls.Sip.Message
import VoipCalls.Sip.StartLine
import VoipCalls.Sorting.Insertion
import VoipCalls.Sorting.Merge
import VoipCalls.Sorting.Runs
import VoipCalls.Sorting.Stable
import VoipCalls.Store
import VoipCalls.Table
import VoipCalls.Tap
import VoipCalls.Text.Base64
import VoipCalls.Text.Blank
import VoipCalls.Text.Case
import VoipCalls.Text.CaseTable
import VoipCalls.Text.Digit
import VoipCalls.Text.Hex
import VoipCalls.Text.HiddenTable
import VoipCalls.Text.Line
import VoipCalls.Text.Path
import VoipCalls.Text.Percent
import VoipCalls.Text.Point
import VoipCalls.Text.Quoted
import VoipCalls.Text.Ranges
import VoipCalls.Text.Split
import VoipCalls.Text.Terminal
import VoipCalls.Text.Utf8
import VoipCalls.Yaml.Cursor
import VoipCalls.Yaml.Fault
import VoipCalls.Yaml.Meaning
import VoipCalls.Yaml.Merge
import VoipCalls.Yaml.Node
import VoipCalls.Yaml.Reading
import VoipCalls.Yaml.Scalar
import VoipCalls.Yaml.Tag
import VoipCalls.Yaml.Token
import VoipCalls.Proofs.Call.Summary
import VoipCalls.Proofs.Call.Outcome
import VoipCalls.Proofs.Store.History
import VoipCalls.Proofs.Number.Range
import VoipCalls.Proofs.Store.Overflow
import VoipCalls.Proofs.Intake.Refusal
import VoipCalls.Proofs.Sequence.Order
import VoipCalls.Proofs.Session.Diagram
import VoipCalls.Proofs.Filter.Viewing
import VoipCalls.Proofs.Sorting.Rearrangement
import VoipCalls.Proofs.Table.Rows
import VoipCalls.Proofs.Session.Redraw
import VoipCalls.Proofs.Session.Replaying
import VoipCalls.Proofs.Sip.Events
import VoipCalls.Proofs.Number.Finite
import VoipCalls.Proofs.Intake.Records
import VoipCalls.Proofs.Intake.Decisions
import VoipCalls.Proofs.Sorting.Stability
import VoipCalls.Proofs.Call.Comparison
import VoipCalls.Proofs.Table.Presentation
import VoipCalls.Proofs.Session.Requests
import VoipCalls.Proofs.Session.Lifecycle
import VoipCalls.Proofs.Session.Decisions
import VoipCalls.Proofs.Session.Redelivery
import VoipCalls.Proofs.Session.Presentation
import VoipCalls.Proofs.Session.Accounting
import VoipCalls.Proofs.Text.Cutting
import VoipCalls.Proofs.Sip.Recognition
import VoipCalls.Proofs.Session.Appearance
import VoipCalls.Proofs.Sip.Writing
import VoipCalls.Proofs.Http.History
import VoipCalls.Proofs.Call.Unchecked
import VoipCalls.Proofs.Call.WeakOrder
import VoipCalls.Proofs.Sorting.Successive
import VoipCalls.Proofs.Table.Refreshing
import VoipCalls.Proofs.Store.Integrity
import VoipCalls.Proofs.Table.Suspension
import VoipCalls.Proofs.Sequence.Runs
import VoipCalls.Proofs.Filter.FrameList
import VoipCalls.Proofs.Store.Endpoints
import VoipCalls.Proofs.Call.Merging
import VoipCalls.Proofs.Store.CallEnd
import VoipCalls.Proofs.Text.Breaking
import VoipCalls.Proofs.Sip.LineEnds
import VoipCalls.Proofs.Sip.Renaming
import VoipCalls.Proofs.Sip.ShortNames
import VoipCalls.Proofs.Sip.StatusLine
import VoipCalls.Proofs.Sip.Identity
import VoipCalls.Proofs.Number.Digits
import VoipCalls.Proofs.Address.Literal
import VoipCalls.Proofs.Address.Display
import VoipCalls.Proofs.Text.Utf8Order
import VoipCalls.Proofs.Address.Order
import VoipCalls.Proofs.Call.Speakers
