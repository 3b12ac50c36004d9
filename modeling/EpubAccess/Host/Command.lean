/-
  EpubAccess.Host.Command
  ────────────────────────────────
  What a host can ask for, and what it is told.

  A `Command` names the slots that it uses and the slot for what it makes.
  Commands of one family share a constructor, with the operation as data.
  `Command.isDirect` marks those that go around the library, straight to the
  engine or to handles and packages that the library did not open.
-/
import EpubAccess.Engine.Request
import EpubAccess.Host.Libraries
import EpubAccess.Package.ContentDescription
import EpubAccess.Stream.Operation

namespace EpubAccess

/-! ## Operations by family. -/

/-- Operations of a loose handle. -/
inductive OwnedOp where
  | release
  | info
  deriving DecidableEq, Inhabited

/-- Operations of a container that make no object. -/
inductive ContainerOp where
  | info
  | close
  | rawBytes (path : String)
  deriving DecidableEq, Inhabited

/-- Operations of a package that make no object. -/
inductive PackageOp where
  | info
  | close
  | property (name vocabulary : String)
  | hasProperty (name vocabulary : String)
  | spine
  | spineItem (idref : String)
  | manifest
  | manifestItem (key : String)
  | isContentDocument (path : String)
  | navigation (kind : NavKind)
  | probeSize (path : String)
  | setRootUrls (urls : RootUrls)
  | describe
  | url
  deriving DecidableEq, Inhabited

/-- How a package opens a stream. -/
inductive StreamMode where
  | filtered (ranged : Bool)
  | raw
  deriving DecidableEq, Inhabited

/-- Questions to a library. -/
inductive LibraryQuery where
  | info
  | container (path : String)
  | pathForUniqueId (id : String)
  | pathForPackageId (id : String)
  deriving DecidableEq, Inhabited

/-- How a library is asked for a package. -/
inductive PackageKey where
  | uniqueId (id : String)
  | url (url : String)
  deriving DecidableEq, Inhabited

/-- Operations on the handler for messages of the engine. -/
inductive NotifierOp where
  | install (mode : HandlerMode)
  | clear
  | hasHandler
  | report (message : String) (severe : Bool)
  deriving DecidableEq, Inhabited

/-! ## Commands. -/

/-- A command of a host. -/
inductive Command where
  /-- Register an archive with the engine. -/
  | register (path : String) (archive : Archive)
  /-- Prepare an answer for a later call of the library. -/
  | inject (fault : Fault)
  /-- The buffer size hint of the latest opening of a content stream. -/
  | lastHint
  /-- Call the engine directly. -/
  | engine (request : Request)
  /-- The handles that the engine took back. -/
  | released
  | notifier (op : NotifierOp)
  | writeFile (file : String) (bytes : ByteArray)
  | showFile (file : String)
  /-- Empty a slot. -/
  | drop (slot : String)
  /-- Take a handle. -/
  | own (h : Handle) (kind : HandleKind) (dest : String)
  | owned (slot : String) (op : OwnedOp)
  | openContainer (path : String) (config : Config) (dest : String)
  | container (slot : String) (op : ContainerOp)
  | rawStream (slot path dest : String)
  | addPackage (container package : String)
  /-- The package at an index, or the default package. -/
  | selectPackage (slot : String) (index : Option Nat) (dest : String)
  | loadPackage (h : Handle) (config : Config) (dest : String)
  | package (slot : String) (op : PackageOp)
  | packageStream (slot path : String) (mode : StreamMode) (dest : String)
  | fetchResource (slot path : String) (raw : Bool) (dest : String)
  | fetchInfo (slot : String)
  | fetch (slot : String) (op : FetchOp)
  /-- Take the stream out of a fetch. -/
  | handOver (slot : String) (ranged : Bool) (dest : String)
  | stream (slot : String) (op : StreamOp)
  | streamInfo (slot : String)
  | newLibrary (dest : String)
  | loadLibrary (file dest : String)
  | saveLibrary (slot file : String)
  | addToLibrary (slot container : String)
  | library (slot : String) (query : LibraryQuery)
  /-- A package of a library, put into a slot if one is named. -/
  | libraryPackage (slot : String) (key : PackageKey) (dest : Option String)
  | closeLibrary (slot : String)

/-- Does the command go around the library? -/
def Command.isDirect : Command → Bool
  | engine _ | own .. | loadPackage .. => true
  | _ => false

/-! ## Answers. -/

/-- An entry of a library: identifier, path, and the package with its handle
and whether it is closed. -/
structure EntryView where
  id : String
  path : String
  package : Option (Handle × Bool)
  deriving DecidableEq, Inhabited

/-- The answer to a command. -/
inductive Answer where
  | done
  /-- A slot is empty or holds something else. -/
  | noSlot
  /-- The container has another owner. -/
  | shared
  | flag (b : Bool)
  | text (t : Option String)
  | handle (h : Option Handle)
  | handles (hs : List Handle)
  | bytes (b : Option ByteArray)
  | word (n : Option UInt64)
  | size (n : Option Nat)
  | failed (e : AccessError)
  | ioFailed (e : IoError)
  | reply (r : Reply)
  | advice (goOn : Bool) (seen : List Sighting)
  | file (bytes : ByteArray)
  | owned (o : OwnedHandle)
  | opened (h : Handle) (packages : Nat)
  | container (c : Container) (packages : List Handle)
  | package (p : Package)
  | spine (items : List SpineItem)
  | spineItem (item : Option (SpineItem × Rendition))
  | manifest (items : List ManifestItem)
  | manifestItem (item : Option ManifestItem)
  | navigation (t : Option NavTable)
  | stream (s : Option ContentStream)
  | streamReply (r : StreamReply) (after : ContentStream)
  | streamInfo (s : ContentStream)
  | fetch (f : Fetch)
  | fetchInfo (f : Fetch) (package : Handle)
  | fetchReply (r : FetchReply) (after : Fetch)
  | handedOver (s : Option ContentStream) (after : Fetch)
  | loaded (publications : Nat)
  | added (publications : Nat)
  | library (entries : List EntryView)
  /-- The handle of an object and whether it is closed. -/
  | object (o : Option (Handle × Bool))
  deriving Inhabited

end EpubAccess
