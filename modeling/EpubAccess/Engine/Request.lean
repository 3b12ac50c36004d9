/-
  EpubAccess.Engine.Request
  ────────────────────────────────
  Engine calls as data.

  A `Request` is a call with its arguments and a `Reply` what the engine
  answers.  `Engine.perform` runs a request; `Request.call` is the record it
  leaves.
-/
import EpubAccess.Engine.Operations

namespace EpubAccess

/-- A call with its arguments. -/
inductive Request where
  | openArchive (path : String)
  | openPlain (path : String)
  | releaseHandle (h : Handle)
  | containerVersion (h : Handle)
  | packages (h : Handle)
  | rawContainerStream (h : Handle) (path : String)
  | metadata (h : Handle) (field : MetadataField)
  | authorList (h : Handle)
  | subjects (h : Handle)
  | spineItems (h : Handle)
  | manifestItems (h : Handle)
  | mediaOverlay (h : Handle)
  | property (h : Handle) (name vocabulary : String)
  | hasProperty (h : Handle) (name vocabulary : String)
  | navigation (h : Handle) (kind : NavKind)
  | openStream (h : Handle) (path : String) (ranged : Bool)
  | openRawStream (h : Handle) (path : String)
  | probeSize (h : Handle) (path : String)
  | readBytes (h : Handle) (length : UInt64)
  | readAll (h : Handle) (cap : UInt64)
  | readRange (h : Handle) (offset length : UInt64)
  | skip (h : Handle) (count : UInt64)
  | mark (h : Handle)
  | reset (h : Handle) (toMark : Bool)
  | available (h : Handle)
  | closeStream (h : Handle)
  deriving DecidableEq, Inhabited

/-- The record that a request leaves. -/
def Request.call : Request → Call
  | openArchive path | openPlain path => .open path
  | releaseHandle h => .releaseHandle h
  | containerVersion h => .containerVersion h
  | packages h => .packages h
  | rawContainerStream h path => .rawContainerStream h path
  | metadata h field => .metadata h field
  | authorList h => .authorList h
  | subjects h => .subjects h
  | spineItems h => .spineItems h
  | manifestItems h => .manifestItems h
  | mediaOverlay h => .mediaOverlay h
  | property h name vocabulary => .property h name vocabulary
  | hasProperty h name vocabulary => .hasProperty h name vocabulary
  | navigation h kind => .navigation h kind
  | openStream h path ranged => .openStream h path ranged
  | openRawStream h path => .openRawStream h path
  | probeSize h path => .probeSize h path
  | readBytes h length => .readBytes h length
  | readAll h _ => .readAll h
  | readRange h offset length => .readRange h offset length
  | skip h count => .skip h count
  | mark h => .mark h
  | reset h toMark => .reset h toMark
  | available h => .available h
  | closeStream h => .closeStream h

/-- The answer to a request. -/
inductive Reply where
  | handle (h : Option Handle)
  | handles (hs : List Handle)
  /-- A handle was taken back, with what the engine said about it. -/
  | released (notice : Option Event)
  | text (t : Option String)
  | texts (ts : List String)
  | spine (items : List SpineItem)
  | manifest (items : List ManifestItem)
  | flag (b : Bool)
  | navigation (t : Option NavTable)
  | size (n : Int)
  | count (n : UInt64)
  | bytes (b : ByteArray)
  | range (r : Except EngineError ByteArray)
  | moved (r : Except EngineError Unit)
  deriving Inhabited

/-- A request run on the engine. -/
def Engine.perform (e : Engine) : Request → Reply × Engine
  | .openArchive path | .openPlain path => (e.openArchive path).map .handle id
  | .releaseHandle h => (e.releaseHandle h).map .released id
  | .containerVersion h => (e.containerVersion h).map .text id
  | .packages h => (e.packages h).map .handles id
  | .rawContainerStream h path => (e.rawContainerStream h path).map .handle id
  | .metadata h field => (e.metadata h field).map .text id
  | .authorList h => (e.authorList h).map .texts id
  | .subjects h => (e.subjects h).map .texts id
  | .spineItems h => (e.spineItems h).map .spine id
  | .manifestItems h => (e.manifestItems h).map .manifest id
  | .mediaOverlay h => (e.mediaOverlay h).map .text id
  | .property h name vocabulary => (e.property h name vocabulary).map .text id
  | .hasProperty h name vocabulary => (e.hasProperty h name vocabulary).map .flag id
  | .navigation h kind => (e.navigation h kind).map .navigation id
  | .openStream h path ranged => (e.openStream h path ranged).map .handle id
  | .openRawStream h path => (e.openRawStream h path).map .handle id
  | .probeSize h path => (e.probeSize h path).map .size id
  | .readBytes h length => (e.readBytes h length).map .bytes id
  | .readAll h cap => (e.readAll h cap).map .bytes id
  | .readRange h offset length => (e.readRange h offset length).map .range id
  | .skip h count => (e.skip h count).map .moved id
  | .mark h => (e.mark h).map .moved id
  | .reset h toMark => (e.reset h toMark).map .moved id
  | .available h => (e.available h).map .count id
  | .closeStream h => (e.closeStream h).map .released id

end EpubAccess
