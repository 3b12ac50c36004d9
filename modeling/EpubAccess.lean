import EpubAccess.Handle
import EpubAccess.Text.Blank
import EpubAccess.Text.Quoted
import EpubAccess.Text.Percent
import EpubAccess.Json.Basic
import EpubAccess.Json.Outline
import EpubAccess.Json.Table
import EpubAccess.Spine
import EpubAccess.Manifest
import EpubAccess.Navigation
import EpubAccess.Metadata
import EpubAccess.Config
import EpubAccess.Event
import EpubAccess.Engine.Operations
import EpubAccess.Engine.Request
import EpubAccess.Gateway
import EpubAccess.Stream.Operation
import EpubAccess.Pool
import EpubAccess.Package.ContentDescription
import EpubAccess.Fetch
import EpubAccess.Container
import EpubAccess.Library
import EpubAccess.Files
import EpubAccess.Notifier
import EpubAccess.Host.Basic
import EpubAccess.Host.Libraries
import EpubAccess.Host.Step
import EpubAccess.Host.Session
import EpubAccess.Proofs.OrderedMap
import EpubAccess.Proofs.Slots
import EpubAccess.Proofs.Ownership.Uses
import EpubAccess.Proofs.Ownership.Ledger
import EpubAccess.Proofs.Ownership.Streams
import EpubAccess.Proofs.Ownership.Opening
import EpubAccess.Proofs.Ownership.Fetches
import EpubAccess.Proofs.Ownership.Places
import EpubAccess.Proofs.Ownership.Slots
import EpubAccess.Proofs.Ownership.Teardown
import EpubAccess.Proofs.Ownership.Owners
import EpubAccess.Proofs.Ownership.Loading
import EpubAccess.Proofs.Ownership.Libraries
import EpubAccess.Proofs.Ownership.Commands
import EpubAccess.Proofs.Ownership.Runs
import EpubAccess.Proofs.Streams.Following
import EpubAccess.Proofs.Streams.Interleaving
import EpubAccess.Proofs.Fetches.Answers
import EpubAccess.Proofs.Fetches.History
import EpubAccess.Proofs.Lifetimes.Forward
import EpubAccess.Proofs.Lifetimes.Later
import EpubAccess.Proofs.Lifetimes.Closing
import EpubAccess.Proofs.Lifetimes.Libraries
import EpubAccess.Proofs.Lifetimes.Commands
import EpubAccess.Proofs.Ownership.TeardownOrder
import EpubAccess.Proofs.Fetches.Moves
import EpubAccess.Proofs.Fetches.Lives
import EpubAccess.Proofs.Fetches.Closing
import EpubAccess.Proofs.Libraries.Backing
import EpubAccess.Proofs.Libraries.Identifiers
import EpubAccess.Proofs.Json.Scanning
import EpubAccess.Proofs.Json.Building
import EpubAccess.Proofs.Json.Members
import EpubAccess.Proofs.Json.Values
import EpubAccess.Proofs.Libraries.Links
import EpubAccess.Proofs.Libraries.Documents
import EpubAccess.Proofs.Walks
import EpubAccess.Proofs.Packages.Descriptions
import EpubAccess.Proofs.Packages.Unasked
import EpubAccess.Proofs.Packages.Navigation
import EpubAccess.Proofs.Engine.Registry
import EpubAccess.Proofs.Reports.Remarks
import EpubAccess.Proofs.Reports.Discreet
import EpubAccess.Proofs.Reports.Commands
import EpubAccess.Proofs.Reports.Misuse
import EpubAccess.Proofs.Lifetimes.Attachment
import EpubAccess.Proofs.Streams.Twins
import EpubAccess.Proofs.Fetches.Twins
import EpubAccess.Proofs.Fetches.Spares
import EpubAccess.Proofs.Fetches.Tidying
import EpubAccess.Proofs.Fetches.Apart
import EpubAccess.Proofs.Fetches.Readers
import EpubAccess.Proofs.Fetches.Independence
import EpubAccess.Proofs.Lifetimes.Exclusive
import EpubAccess.Proofs.Streams.Refusals
import EpubAccess.Proofs.Streams.Standing
import EpubAccess.Proofs.Engine.Calls
import EpubAccess.Proofs.Streams.Seeking
import EpubAccess.Proofs.Streams.Bounds
import EpubAccess.Proofs.Lifetimes.Guards
import EpubAccess.Proofs.Packages.Opening
import EpubAccess.Proofs.Libraries.Adding
import EpubAccess.Proofs.Fetches.OneShot
import EpubAccess.Proofs.Packages.TreeWalk
import EpubAccess.Proofs.Libraries.Lookup
import EpubAccess.Proofs.Libraries.Counting
import EpubAccess.Proofs.Engine.Releases
import EpubAccess.Proofs.Lifetimes.Lineage
import EpubAccess.Proofs.Lifetimes.Draining
import EpubAccess.Proofs.Libraries.ClosingOrder
import EpubAccess.Proofs.Packages.NavigationText
import EpubAccess.Proofs.Text.Blanks
import EpubAccess.Proofs.Text.Sizes
import EpubAccess.Proofs.Settings.Variables
import EpubAccess.Proofs.Packages.Properties
import EpubAccess.Proofs.Engine.Cursors
