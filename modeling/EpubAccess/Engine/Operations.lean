/-
  EpubAccess.Engine.Operations
  ────────────────────────────────
  The calls that the in-memory engine answers.

  Each operation records its call, looks its handle up and answers from the
  archive behind it.  A handle that is not live or of the wrong kind gives an
  empty answer, or the error `invalidHandle` where the operation can fail,
  and counts as a dangling use.
-/
import EpubAccess.Engine.Basic

namespace EpubAccess.Engine

/-! ## Archives and containers. -/

/-- A container for the archive under a path, if one is registered. -/
def openArchive (e : Engine) (path : String) : Option Handle × Engine :=
  let e := e.record (.open path)
  if path ∈ e.archives then
    let (h, e) := e.allocate (.container path)
    (some h, e)
  else (none, e)

/-- A container or package taken back. -/
def releaseHandle (e : Engine) (h : Handle) : Option Event × Engine :=
  (e.record (.releaseHandle h)).takeBack h

/-- The version that an archive states. -/
def containerVersion (e : Engine) (h : Handle) : Option String × Engine :=
  (e.record (.containerVersion h)).onContainer h none fun archive e =>
    ((e.archives[archive]?).bind Archive.version, e)

/-- New package objects for the packages from `index` on, `count` of them. -/
def allocatePackages (e : Engine) (container : Handle) (archive : String) (index : Nat) :
    Nat → List Handle × Engine
  | 0 => ([], e)
  | count + 1 =>
    let (h, e) := e.allocate (.package container archive index)
    let (hs, e) := e.allocatePackages container archive (index + 1) count
    (h :: hs, e)

/-- A new package object for every package of an archive, in order. -/
def packages (e : Engine) (h : Handle) : List Handle × Engine :=
  (e.record (.packages h)).onContainer h [] fun archive e =>
    let count := ((e.archives[archive]?).map fun a => a.packages.length).getD 0
    e.allocatePackages h archive 0 count

/-- A stream over a file of an archive. -/
def rawContainerStream (e : Engine) (h : Handle) (path : String) : Option Handle × Engine :=
  (e.record (.rawContainerStream h path)).onContainer h none fun archive e =>
    match (e.archives[archive]?).bind fun a => a.files[path]? with
    | some contents =>
      let (s, e) := e.allocate (.stream (.start contents true false))
      (some s, e)
    | none => (none, e)

/-! ## Packages. -/

/-- A single metadata text. -/
def metadata (e : Engine) (h : Handle) (field : MetadataField) : Option String × Engine :=
  (e.record (.metadata h field)).onPackage h none fun d => d.metadata field

/-- The list of authors. -/
def authorList (e : Engine) (h : Handle) : List String × Engine :=
  (e.record (.authorList h)).onPackage h [] fun d => d.authorList

/-- The list of subjects. -/
def subjects (e : Engine) (h : Handle) : List String × Engine :=
  (e.record (.subjects h)).onPackage h [] fun d => d.subjects

/-- The reading order. -/
def spineItems (e : Engine) (h : Handle) : List SpineItem × Engine :=
  (e.record (.spineItems h)).onPackage h [] fun d => d.spine

/-- The declared resources. -/
def manifestItems (e : Engine) (h : Handle) : List ManifestItem × Engine :=
  (e.record (.manifestItems h)).onPackage h [] fun d => d.manifest

/-- The media overlay data, as JSON text. -/
def mediaOverlay (e : Engine) (h : Handle) : Option String × Engine :=
  (e.record (.mediaOverlay h)).onPackage h none fun d => d.mediaOverlay

/-- The value of a property. -/
def property (e : Engine) (h : Handle) (name vocabulary : String) : Option String × Engine :=
  (e.record (.property h name vocabulary)).onPackage h none fun d =>
    d.property? ⟨vocabulary, name⟩

/-- Is there such a property? -/
def hasProperty (e : Engine) (h : Handle) (name vocabulary : String) : Bool × Engine :=
  (e.record (.hasProperty h name vocabulary)).onPackage h false fun d =>
    (d.property? ⟨vocabulary, name⟩).isSome

/-- A navigation table. -/
def navigation (e : Engine) (h : Handle) (kind : NavKind) : Option NavTable × Engine :=
  (e.record (.navigation h kind)).onPackage h none fun d => d.navigation kind

/-- A stream over a resource of a package; raw ones let the cursor jump even
over filtered content. -/
def resourceStream (e : Engine) (h : Handle) (path : String) (raw ranged : Bool) :
    Option Handle × Engine :=
  let (found, e) := e.onPackage h none fun d => d.resources[path]?
  match found with
  | some r =>
    let (s, e) := e.allocate (.stream (.start r.contents (raw || !r.filtered) ranged))
    (some s, e)
  | none => (none, e)

/-- A stream over the filtered content of a resource. -/
def openStream (e : Engine) (h : Handle) (path : String) (ranged : Bool) :
    Option Handle × Engine :=
  (e.record (.openStream h path ranged)).resourceStream h path false ranged

/-- A stream over a resource that bypasses the filters. -/
def openRawStream (e : Engine) (h : Handle) (path : String) : Option Handle × Engine :=
  (e.record (.openRawStream h path)).resourceStream h path true false

/-- The size of a resource, minus one if there is none. -/
def probeSize (e : Engine) (h : Handle) (path : String) : Int × Engine :=
  (e.record (.probeSize h path)).onPackage h (-1) fun d =>
    match d.resources[path]? with
    | some r => (r.contents.size : Int)
    | none => -1

/-! ## Streams. -/

/-- Up to `length` bytes at the cursor. -/
def readBytes (e : Engine) (h : Handle) (length : UInt64) : ByteArray × Engine :=
  (e.record (.readBytes h length)).onCursor h .empty fun c => c.take length.toNat

/-- Everything from the cursor on, at most `cap` bytes. -/
def readAll (e : Engine) (h : Handle) (cap : UInt64) : ByteArray × Engine :=
  (e.record (.readAll h)).onCursor h .empty fun c => c.take cap.toNat

/-- Up to `length` bytes at an offset. -/
def readRange (e : Engine) (h : Handle) (offset length : UInt64) :
    Except EngineError ByteArray × Engine :=
  (e.record (.readRange h offset length)).onCursor h (.error (.invalidHandle h)) fun c =>
    c.readRange offset.toNat length.toNat

/-- The cursor moved forward. -/
def skip (e : Engine) (h : Handle) (count : UInt64) : Except EngineError Unit × Engine :=
  (e.record (.skip h count)).onCursor h (.error (.invalidHandle h)) fun c => c.skip count.toNat

/-- The position remembered. -/
def mark (e : Engine) (h : Handle) : Except EngineError Unit × Engine :=
  (e.record (.mark h)).onCursor h (.error (.invalidHandle h)) Cursor.setMark

/-- The cursor moved back to its mark, or to the start. -/
def reset (e : Engine) (h : Handle) (toMark : Bool) : Except EngineError Unit × Engine :=
  (e.record (.reset h toMark)).onCursor h (.error (.invalidHandle h)) fun c => c.reset toMark

/-- The number of bytes after the cursor. -/
def available (e : Engine) (h : Handle) : UInt64 × Engine :=
  (e.record (.available h)).onCursor h 0 fun c => (UInt64.ofNat c.remaining, c)

/-- A stream taken back. -/
def closeStream (e : Engine) (h : Handle) : Option Event × Engine :=
  (e.record (.closeStream h)).takeBack h

end EpubAccess.Engine
