/-
  EpubAccess.Package.Basic
  ────────────────────────────────
  One rendition of a publication.

  `Package.load` copies everything that is asked for often out of the engine
  in one pass of twenty-nine calls; afterwards these answers need no engine.
  Navigation tables are fetched when they are first asked for and kept, a
  missing table too.  A package is attached to at most one container, for
  good.  Once a package is closed, everything that would reach the engine
  reports the misuse and answers with nothing.
-/
import EpubAccess.Config
import EpubAccess.Stream.Basic

namespace EpubAccess

/-- Containers are told apart by number. -/
abbrev ContainerId := Nat

/-- Packages are told apart by number. -/
abbrev PackageId := Nat

/-- The container that a package was attached to, and the path of its archive. -/
structure ContainerLink where
  container : ContainerId
  path : String
  deriving DecidableEq, Inhabited

/-- The content roots that a package description names. -/
structure RootUrls where
  root : String
  mediaOverlay : Option String
  deriving DecidableEq, Inhabited

/-- A package with what was copied out of the engine. -/
structure Package where
  handle : OwnedHandle
  link : Option ContainerLink
  metadata : Metadata
  spine : List SpineItem
  manifest : List ManifestItem
  mediaOverlay : Option String
  /-- The navigation tables fetched so far; a kind may turn out to have none. -/
  navigationCache : NavKind → Option (Option NavTable)
  rootUrls : RootUrls
  bufferSizeHint : UInt64
  maxReadAll : UInt64
  deriving Inhabited

namespace Package

/-! ## Loading. -/

/-- One field read into its slot. -/
def loadField (h : Handle) (m : Metadata) (field : MetadataField) : StateM Gateway Metadata := do
  let value ← Gateway.metadata h field
  pure (m.assign field value)

/-- The metadata of a package: every field in order, then what stands beside them. -/
def loadMetadata (h : Handle) : StateM Gateway Metadata := do
  let m ← MetadataField.all.foldlM (loadField h) .empty
  let authorList ← Gateway.authorList h
  let subjects ← Gateway.subjects h
  let layout ← Gateway.property h "layout" renditionVocabulary
  let flow ← Gateway.property h "flow" renditionVocabulary
  let orientation ← Gateway.property h "orientation" renditionVocabulary
  let spread ← Gateway.property h "spread" renditionVocabulary
  pure { m with authorList, subjects, rendition := { layout, flow, orientation, spread } }

/-- A package over a handle that the engine gave, attached to nothing. -/
def load (h : Handle) (config : Config) : StateM Gateway Package := do
  let metadata ← loadMetadata h
  let spine ← Gateway.spineItems h
  let manifest ← Gateway.manifestItems h
  let mediaOverlay ← Gateway.mediaOverlay h
  Gateway.emit (.packageLoaded metadata.uniqueId h spine.length manifest.length)
  pure
    { handle := .take h .package
      link := none
      metadata, spine, manifest, mediaOverlay
      navigationCache := fun _ => none
      rootUrls := ⟨config.rootUrl, some config.rootUrlMediaOverlay⟩
      bufferSizeHint := config.bufferSizeHint
      maxReadAll := config.maxReadAll }

/-! ## The life of a package. -/

/-- Was the package closed? -/
def isClosed (p : Package) : Bool := p.handle.released

/-- The package attached to a container, unless it is attached already. -/
def attach? (p : Package) (link : ContainerLink) : Option Package :=
  match p.link with
  | none => some { p with link := some link }
  | some _ => none

/-- Close the package and forget its navigation tables.  Says whether this
request did it. -/
def close (p : Package) : StateM Gateway (Bool × Package) := do
  let (done, handle) ← p.handle.release
  if done then
    Gateway.emit (.packageClosed handle.handle)
    pure (true, { p with handle, navigationCache := fun _ => none })
  else pure (false, { p with handle })

/-- The last owner of the package goes away. -/
def drop (p : Package) : StateM Gateway Unit := p.handle.drop

/-! ## Answers that were copied. -/

/-- Is the package composed in advance? -/
def isFixedLayout (p : Package) : Bool := p.metadata.rendition.isFixedLayout

/-- The first spine item that refers to a manifest item. -/
def spineItem? (p : Package) (idref : String) : Option SpineItem :=
  p.spine.find? fun item => item.idref == idref

/-- The first manifest item at a path, else the first with an identifier. -/
def manifestItem? (p : Package) (key : String) : Option ManifestItem :=
  (p.manifest.find? fun item => item.href == key).or (p.manifest.find? fun item => item.id == key)

/-- Is some item at the path a content document? -/
def isContentDocument (p : Package) (path : String) : Bool :=
  p.manifest.any fun item => item.href == path && item.isContentDocument

/-! ## Answers of the engine. -/

/-- The handle of an open package; a closed one reports the access. -/
def live (p : Package) (access : PackageAccess) : StateM Gateway (Option Handle) :=
  match p.handle.get? with
  | some h => pure (some h)
  | none => do
    Gateway.emit (.closedPackageUsed access p.handle.handle)
    pure none

/-- The value of a property. -/
def property (p : Package) (name vocabulary : String) : StateM Gateway (Option String) := do
  match ← p.live .property with
  | none => pure none
  | some h => Gateway.property h name vocabulary

/-- Is there such a property? -/
def hasProperty (p : Package) (name vocabulary : String) : StateM Gateway Bool := do
  match ← p.live .hasProperty with
  | none => pure false
  | some h => Gateway.hasProperty h name vocabulary

/-- A navigation table, fetched when it is first asked for. -/
def navigation (p : Package) (kind : NavKind) : StateM Gateway (Option NavTable × Package) := do
  match ← p.live .navigation with
  | none => pure (none, p)
  | some h =>
    match p.navigationCache kind with
    | some known => pure (known, p)
    | none => do
      Gateway.emit (.navigationFetched kind h)
      let table ← Gateway.navigation h kind
      pure (table, { p with
        navigationCache := fun k => if k = kind then some table else p.navigationCache k })

/-! ## Content. -/

/-- Is the container of an open package there?  Otherwise the path cannot be
reached, which is reported. -/
def reach (attached : Bool) (path : String) : StateM Gateway Bool :=
  if attached then pure true
  else do
    Gateway.emit (.resourceUnreachable path)
    pure false

/-- A stream over what the engine opened, if it did. -/
def streamOver (p : Package) (path : String) (h : Option Handle) :
    StateM Gateway (Option ContentStream) :=
  match h with
  | none => pure none
  | some h => do
    let s ← ContentStream.ofHandle h path p.maxReadAll
    pure (some s)

/-- A stream over the filtered content of a resource.  `attached` says whether
the package belongs to an open container. -/
def openStream (p : Package) (attached : Bool) (path : String) (ranged : Bool) :
    StateM Gateway (Option ContentStream) := do
  match ← p.live .openStream with
  | none => pure none
  | some h =>
    if ← reach attached path then
      p.streamOver path (← Gateway.openStream h path p.bufferSizeHint ranged)
    else pure none

/-- A stream over a resource past the filters. -/
def openRawStream (p : Package) (attached : Bool) (path : String) :
    StateM Gateway (Option ContentStream) := do
  match ← p.live .openRawStream with
  | none => pure none
  | some h =>
    if ← reach attached path then
      p.streamOver path (← Gateway.openRawStream h path p.bufferSizeHint)
    else pure none

/-- The size of a resource, if there is one. -/
def probeSize (p : Package) (attached : Bool) (path : String) : StateM Gateway (Option Nat) := do
  match ← p.live .probeSize with
  | none => pure none
  | some h =>
    if ← reach attached path then
      let n ← Gateway.probeSize h path
      pure (if 0 ≤ n then some n.toNat else none)
    else pure none

end Package

end EpubAccess
