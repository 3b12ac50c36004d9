/-
  EpubAccess.Event
  ────────────────────────────────
  What the library reports while it works.

  An event is a cause.  Its `level` says how serious it is and its `message`
  how it is worded.  The errors are exactly the uses of an object that the
  host itself closed before, and the attempt to attach a package twice.
-/
import EpubAccess.Error
import EpubAccess.Navigation

namespace EpubAccess

/-- How serious an event is. -/
inductive Level where
  | error
  | warn
  | info
  | debug
  deriving DecidableEq, Inhabited

/-- The name of a level. -/
def Level.name : Level → String
  | .error => "ERROR"
  | .warn => "WARN"
  | .info => "INFO"
  | .debug => "DEBUG"

/-- Operations of a stream that need it to be open. -/
inductive StreamAccess where
  | available
  | read
  | readAll
  | readRange
  | skip
  | mark
  | reset
  | seek
  deriving DecidableEq, Inhabited

/-- The word for an operation of a stream. -/
def StreamAccess.word : StreamAccess → String
  | .available => "available"
  | .read => "read"
  | .readAll => "read_all"
  | .readRange => "read_range"
  | .skip => "skip"
  | .mark => "mark"
  | .reset => "reset"
  | .seek => "seek"

/-- Operations of a package that need it to be open. -/
inductive PackageAccess where
  | property
  | hasProperty
  | navigation
  | openStream
  | openRawStream
  | probeSize
  deriving DecidableEq, Inhabited

/-- The word for an operation of a package. -/
def PackageAccess.word : PackageAccess → String
  | .property => "property"
  | .hasProperty => "has_property"
  | .navigation => "navigation"
  | .openStream => "open_stream"
  | .openRawStream => "open_raw_stream"
  | .probeSize => "probe_size"

/-- Operations of a fetch that need a stream. -/
inductive FetchAccess where
  | readAll
  | readRange
  | openStream
  deriving DecidableEq, Inhabited

/-- The word for an operation of a fetch. -/
def FetchAccess.word : FetchAccess → String
  | .readAll => "read_all"
  | .readRange => "read_range"
  | .openStream => "open_stream"

/-- Something worth a line in the log. -/
inductive Event where
  /-- A handle was to be given back a second time. -/
  | releasedTwice (kind : HandleKind) (h : Handle)
  /-- An object went away with its handle still held. -/
  | releasedOnDrop (kind : HandleKind) (h : Handle)
  /-- The engine was to take back a handle that it does not know. -/
  | unknownRelease (h : Handle)
  /-- The engine took back a package while it still knew its container. -/
  | releasedBeforeContainer (package container : Handle)
  | containerOpened (path : String) (h : Handle) (packages : Nat)
  | containerClosed (path : String) (h : Handle)
  | containerDropped (path : String)
  | closedContainerUsed (h : Handle)
  | streamOpened (h : Handle) (path : String) (length : UInt64)
  | streamClosed (h : Handle) (path : String)
  | closedStreamUsed (access : StreamAccess) (h : Handle) (path : String)
  | fetchFailed (access : FetchAccess) (path : String) (cause : AccessError)
  | rangeReadFailed (offset length : UInt64) (path : String) (cause : AccessError)
  | packageLoaded (id : Option String) (h : Handle) (spine manifest : Nat)
  | packageClosed (h : Handle)
  | packageAttachedTwice (h : Handle)
  | closedPackageUsed (access : PackageAccess) (h : Handle)
  | navigationFetched (kind : NavKind) (h : Handle)
  | resourceUnreachable (path : String)
  | mediaOverlayDiscarded
  | libraryLoaded (publications : Nat) (file : String)
  | packageWithoutId (h : Handle) (path : String)
  | containerReplaced (path : String)
  /-- A message of the engine that no handler took. -/
  | engineMessage (severe : Bool) (message : String)
  deriving DecidableEq, Inhabited

namespace Event

/-- How serious an event is. -/
def level : Event → Level
  | releasedTwice .. | closedContainerUsed .. | closedStreamUsed .. | packageAttachedTwice ..
  | closedPackageUsed .. => .error
  | releasedOnDrop .. | unknownRelease .. | releasedBeforeContainer .. | containerDropped ..
  | rangeReadFailed .. | resourceUnreachable .. | mediaOverlayDiscarded | packageWithoutId ..
  | engineMessage true _ => .warn
  | containerOpened .. | containerClosed .. | packageLoaded .. | packageClosed ..
  | libraryLoaded .. | containerReplaced .. | engineMessage false _ => .info
  | streamOpened .. | streamClosed .. | fetchFailed .. | navigationFetched .. => .debug

/-- A handle as messages name it. -/
def tag (h : Handle) : String := "[ptr:" ++ h.text ++ "]"

/-- The wording of an event. -/
def message : Event → String
  | releasedTwice kind h => "Releasing already released " ++ kind.word ++ " " ++ tag h
  | releasedOnDrop kind h =>
    "Releasing " ++ kind.word ++ " " ++ tag h ++ " on drop, it was never closed"
  | unknownRelease h => "Release of unknown handle " ++ h.text
  | releasedBeforeContainer p c =>
    "Releasing package " ++ p.text ++ " while container " ++ c.text ++ " is still registered"
  | containerOpened path h n =>
    "Opened container " ++ path ++ " " ++ tag h ++ " with " ++ toString n ++ " package(s)"
  | containerClosed path h => "Closed container " ++ path ++ " " ++ tag h
  | containerDropped path => "Closing container " ++ path ++ " on drop, it was never closed"
  | closedContainerUsed h => "raw_stream on closed container " ++ tag h
  | streamOpened h path n =>
    "Opened stream " ++ tag h ++ " for " ++ path ++ " (" ++ toString n.toNat ++ " bytes)"
  | streamClosed h path => "Closed stream " ++ tag h ++ " for " ++ path
  | closedStreamUsed access h path =>
    access.word ++ " on closed stream " ++ tag h ++ " for " ++ path
  | fetchFailed access path cause => access.word ++ " " ++ path ++ ": " ++ cause.message
  | rangeReadFailed offset n path cause =>
    "Range read " ++ toString offset.toNat ++ "+" ++ toString n.toNat ++ " of " ++ path
      ++ " failed: " ++ cause.message
  | packageLoaded id h spine manifest =>
    "Loaded package " ++ id.getD "<no id>" ++ " " ++ tag h ++ ": " ++ toString spine
      ++ " spine items, " ++ toString manifest ++ " manifest items"
  | packageClosed h => "Closed package " ++ tag h
  | packageAttachedTwice h => "Package " ++ tag h ++ " is already attached to a container"
  | closedPackageUsed access h => access.word ++ " on closed package " ++ tag h
  | navigationFetched kind h => "Fetching " ++ kind.epubType ++ " for package " ++ tag h
  | resourceUnreachable path =>
    "Cannot reach " ++ path ++ ": " ++ AccessError.containerDetached.message
  | mediaOverlayDiscarded => "Discarding malformed media overlay data:"
  | libraryLoaded n file =>
    "Loaded library with " ++ toString n ++ " publication(s) from " ++ file
  | packageWithoutId h path =>
    "Skipping package " ++ tag h ++ " of " ++ path ++ " without a unique identifier"
  | containerReplaced path => "Replacing container " ++ path ++ " in library"
  | engineMessage true m => "Native error: " ++ m
  | engineMessage false m => "Native notice: " ++ m

end Event

end EpubAccess
