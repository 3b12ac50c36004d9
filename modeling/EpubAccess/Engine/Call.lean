/-
  EpubAccess.Engine.Call
  ────────────────────────────────
  What the engine records of a call.

  Every call leaves one record.  Opening an archive with and without filters
  leaves the same one, and reading everything does not record its cap.
-/
import EpubAccess.Handle
import EpubAccess.Metadata
import EpubAccess.Navigation

namespace EpubAccess

/-- The record of one call. -/
inductive Call where
  | «open» (path : String)
  | releaseHandle (h : Handle)
  | containerVersion (h : Handle)
  | packages (h : Handle)
  | rawContainerStream (h : Handle) (path : String)
  | metadata (h : Handle) (field : MetadataField)
  | authorList (h : Handle)
  | subjects (h : Handle)
  | spineItems (h : Handle)
  | manifestItems (h : Handle)
  | mediaOverlay (h : Handle)
  | property (h : Handle) (name vocabulary : String)
  | hasProperty (h : Handle) (name vocabulary : String)
  | navigation (h : Handle) (kind : NavKind)
  | openStream (package : Handle) (path : String) (ranged : Bool)
  | openRawStream (package : Handle) (path : String)
  | probeSize (h : Handle) (path : String)
  | readBytes (h : Handle) (length : UInt64)
  | readAll (h : Handle)
  | readRange (h : Handle) (offset length : UInt64)
  | skip (h : Handle) (count : UInt64)
  | mark (h : Handle)
  | reset (h : Handle) (toMark : Bool)
  | available (h : Handle)
  | closeStream (h : Handle)
  deriving DecidableEq, Inhabited

namespace Call

/-- The handle that the call was about; opening an archive is about none. -/
def handle? : Call → Option Handle
  | «open» _ => none
  | releaseHandle h | containerVersion h | packages h | rawContainerStream h _ | metadata h _
  | authorList h | subjects h | spineItems h | manifestItems h | mediaOverlay h | property h _ _
  | hasProperty h _ _ | navigation h _ | openStream h _ _ | openRawStream h _ | probeSize h _
  | readBytes h _ | readAll h | readRange h _ _ | skip h _ | mark h | reset h _ | available h
  | closeStream h => some h

/-- Does the call give its handle back? -/
def isRelease : Call → Bool
  | releaseHandle _ | closeStream _ => true
  | _ => false

/-- The name of the call. -/
def name : Call → String
  | «open» _ => "Open"
  | releaseHandle _ => "ReleaseHandle"
  | containerVersion _ => "ContainerVersion"
  | packages _ => "Packages"
  | rawContainerStream _ _ => "RawContainerStream"
  | metadata _ _ => "Metadata"
  | authorList _ => "AuthorList"
  | subjects _ => "Subjects"
  | spineItems _ => "SpineItems"
  | manifestItems _ => "ManifestItems"
  | mediaOverlay _ => "MediaOverlay"
  | property _ _ _ => "Property"
  | hasProperty _ _ _ => "HasProperty"
  | navigation _ _ => "Navigation"
  | openStream _ _ _ => "OpenStream"
  | openRawStream _ _ => "OpenRawStream"
  | probeSize _ _ => "ProbeSize"
  | readBytes _ _ => "ReadBytes"
  | readAll _ => "ReadAll"
  | readRange _ _ _ => "ReadRange"
  | skip _ _ => "Skip"
  | mark _ => "Mark"
  | reset _ _ => "Reset"
  | available _ => "Available"
  | closeStream _ => "CloseStream"

end Call

end EpubAccess
