import Pubky2Pubky.Foundation.Checks
import Pubky2Pubky.Foundation.Refusals
import Pubky2Pubky.Foundation.Machine
import Pubky2Pubky.Foundation.Json
import Pubky2Pubky.Foundation.JsonText
import Pubky2Pubky.Foundation.Utf8
import Pubky2Pubky.Foundation.Saturating
import Pubky2Pubky.Foundation.Utf16
import Pubky2Pubky.Foundation.Radix
import Pubky2Pubky.Foundation.Sha256
import Pubky2Pubky.Foundation.Register
import Pubky2Pubky.Foundation.Ledger
import Pubky2Pubky.Foundation.Replaced
import Pubky2Pubky.Foundation.Book
import Pubky2Pubky.Foundation.Notify
import Pubky2Pubky.Foundation.Newest
import Pubky2Pubky.Foundation.Frames
import Pubky2Pubky.Foundation.Lease
import Pubky2Pubky.Foundation.Timed
import Pubky2Pubky.Protocol.Primitives
import Pubky2Pubky.Protocol.Window
import Pubky2Pubky.Protocol.Grant
import Pubky2Pubky.Protocol.Certificate
import Pubky2Pubky.Protocol.Relay
import Pubky2Pubky.Protocol.UrlParts
import Pubky2Pubky.Protocol.Locator
import Pubky2Pubky.Protocol.Hello
import Pubky2Pubky.Protocol.Ack
import Pubky2Pubky.Protocol.Currentness
import Pubky2Pubky.Protocol.Sizes
import Pubky2Pubky.Protocol.Issuance
import Pubky2Pubky.Protocol.SizeErrors
import Pubky2Pubky.Protocol.Reference
import Pubky2Pubky.Protocol.LengthDigest
import Pubky2Pubky.Protocol.Bindings
import Pubky2Pubky.Protocol.Lifetimes
import Pubky2Pubky.Protocol.Acceptance
import Pubky2Pubky.Protocol.GrantSpelling
import Pubky2Pubky.Protocol.CanonicalForms
import Pubky2Pubky.Protocol.SigningInputs
import Pubky2Pubky.Client.Error
import Pubky2Pubky.Client.Sequence
import Pubky2Pubky.Client.SequenceStore
import Pubky2Pubky.Client.Batches
import Pubky2Pubky.Client.StateEntries
import Pubky2Pubky.Client.FileUpdate
import Pubky2Pubky.Client.StateJson
import Pubky2Pubky.Client.CrashSafety
import Pubky2Pubky.Client.StateRecovery
import Pubky2Pubky.Browser.SequenceStore
import Pubky2Pubky.Browser.SequenceLedger
import Pubky2Pubky.Browser.StoreAgreement
import Pubky2Pubky.Browser.DeviceIssue
import Pubky2Pubky.Browser.BrowserStore
import Pubky2Pubky.Browser.PublisherCounters
import Pubky2Pubky.Browser.SealedRecords
import Pubky2Pubky.Browser.OnlineFailure
import Pubky2Pubky.Browser.OnlineRecord
import Pubky2Pubky.Browser.Config
import Pubky2Pubky.Client.Handshake
import Pubky2Pubky.Client.Framing
import Pubky2Pubky.Client.ControlMessages
import Pubky2Pubky.Client.Cleanup
import Pubky2Pubky.Client.RelayPolicy
import Pubky2Pubky.Client.ReplayHistory
import Pubky2Pubky.Client.Discovery
import Pubky2Pubky.Client.StoragePaths
import Pubky2Pubky.Client.ReceivedBytes
import Pubky2Pubky.Client.SizeLimits
import Pubky2Pubky.Client.PendingQueue
import Pubky2Pubky.Client.Consumers
import Pubky2Pubky.Client.Awaits
import Pubky2Pubky.Client.Exchange
import Pubky2Pubky.Client.Admission
import Pubky2Pubky.Client.Deadline
import Pubky2Pubky.Client.Trails
import Pubky2Pubky.Client.Sessions
import Pubky2Pubky.Client.Commits
import Pubky2Pubky.Client.AntiRollback
import Pubky2Pubky.Client.DialOrder
import Pubky2Pubky.Client.Network
import Pubky2Pubky.Client.Agreement
import Pubky2Pubky.Client.Guarantees
import Pubky2Pubky.Client.ReplayedHellos
import Pubky2Pubky.Foundation.Tables
import Pubky2Pubky.Browser.NetworkCore
import Pubky2Pubky.Browser.NetworkSteps
import Pubky2Pubky.Browser.NetworkRuns
import Pubky2Pubky.Browser.ConnectedPeers
import Pubky2Pubky.Browser.PeerEvents
import Pubky2Pubky.Browser.InboundRequests
