import JobWatch.Calendar.Date
import JobWatch.Calendar.Instant
import JobWatch.Calendar.Timestamp
import JobWatch.Client.Connection
import JobWatch.Client.Endpoint
import JobWatch.Client.Error
import JobWatch.Client.Response
import JobWatch.CommandLine.Details
import JobWatch.CommandLine.Effect
import JobWatch.CommandLine.EmptyDirectory
import JobWatch.CommandLine.Export
import JobWatch.CommandLine.Follow
import JobWatch.CommandLine.Invocation
import JobWatch.CommandLine.Program
import JobWatch.CommandLine.Scanner
import JobWatch.CommandLine.Settings
import JobWatch.CommandLine.Usage
import JobWatch.Domain.Direction
import JobWatch.Domain.DirectionTable
import JobWatch.Domain.Joining
import JobWatch.Domain.JoiningTable
import JobWatch.Domain.Mapping
import JobWatch.Domain.MappingTable
import JobWatch.Domain.Name
import JobWatch.Domain.Punycode
import JobWatch.Execution.Basic
import JobWatch.Execution.Page
import JobWatch.Execution.Status
import JobWatch.Export.Status
import JobWatch.Http.Address
import JobWatch.Http.Authority
import JobWatch.Http.Head
import JobWatch.Http.Host
import JobWatch.Http.Message
import JobWatch.Http.Percent
import JobWatch.Http.Proxies
import JobWatch.Http.Proxy
import JobWatch.Http.Resolver
import JobWatch.Http.Transfer
import JobWatch.Http.Url
import JobWatch.Json.Reader
import JobWatch.Json.Value
import JobWatch.Json.Writer
import JobWatch.Listing.Paging
import JobWatch.Main
import JobWatch.Number.Binary64
import JobWatch.Number.Decimal
import JobWatch.Number.Radix
import JobWatch.Number.Shortest
import JobWatch.Output.Batch
import JobWatch.Output.Cursor
import JobWatch.Output.Decompaction
import JobWatch.Output.Entry
import JobWatch.Output.Router
import JobWatch.Output.Template
import JobWatch.Poll.Follow
import JobWatch.Poll.Loop
import JobWatch.Poll.Track
import JobWatch.Poll.Wait
import JobWatch.Text.Base64
import JobWatch.Text.Blank
import JobWatch.Text.CodeTable
import JobWatch.Text.Composition
import JobWatch.Text.CompositionTable
import JobWatch.Text.Marked
import JobWatch.Text.Split
import JobWatch.Text.Utf16
import JobWatch.Text.Utf8
import JobWatch.Wire.Fault
import JobWatch.Wire.Lenient
import JobWatch.Wire.Record
import JobWatch.Wire.Scalar
import JobWatch.Proofs.Poll.FollowLaw
import JobWatch.Proofs.Poll.HonestLog
import JobWatch.Proofs.Client.CursorOnWire
import JobWatch.Proofs.CommandLine.Effects
import JobWatch.Proofs.CommandLine.InterruptedExport
import JobWatch.Proofs.CommandLine.InterruptedFollowing
import JobWatch.Proofs.CommandLine.Interruption
import JobWatch.Proofs.Poll.TrackLaw
import JobWatch.Proofs.CommandLine.FollowedOutput
import JobWatch.Proofs.Client.Sending
import JobWatch.Proofs.CommandLine.ArchiveIntegrity
import JobWatch.Proofs.Poll.Cuttings
import JobWatch.Proofs.Poll.Skeleton
import JobWatch.Proofs.Client.ServedRuns
import JobWatch.Proofs.Wire.RoundTrips
import JobWatch.Proofs.Output.Lines
import JobWatch.Proofs.Wire.CursorNumbers
import JobWatch.Proofs.CommandLine.ConfiguredServer
import JobWatch.Proofs.CommandLine.MarkedRequests
import JobWatch.Proofs.Output.Merging
import JobWatch.Proofs.CommandLine.DeliveredLines
import JobWatch.Proofs.Client.Results
import JobWatch.Proofs.Wire.Notations
import JobWatch.Proofs.Output.Modes
import JobWatch.Proofs.Poll.Cancellation
import JobWatch.Proofs.Listing.Walking
import JobWatch.Proofs.Wire.CursorTexts
import JobWatch.Proofs.CommandLine.Revaluing
import JobWatch.Proofs.CommandLine.Offsets
import JobWatch.Proofs.CommandLine.Browsing
