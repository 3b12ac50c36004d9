/-
  EpubAccess.Host.Step
  ────────────────────────────────
  What a command does.

  `Host.run` answers one command and `Host.runAll` a sequence.  A command
  that names a slot which is empty or holds something else is answered
  `noSlot` and does nothing.  What a command makes is stored after it was
  made; the answer describes it as it was before.
-/
import EpubAccess.Host.Command

namespace EpubAccess.Host

/-! ## Slots by what they hold. -/

/-- Work with the loose handle in a slot. -/
def withOwned (slot : String) (f : OwnedHandle → StateM Host Answer) : StateM Host Answer := do
  match (← get).slots[slot]? with
  | some (.owned o) => f o
  | _ => pure .noSlot

/-- Work with the container in a slot. -/
def withContainer (slot : String) (f : ContainerId → Container → StateM Host Answer) :
    StateM Host Answer := do
  let w ← get
  match w.slots[slot]? with
  | some (.container id) =>
    match w.containers.get? id with
    | some c => f id c
    | none => pure .noSlot
  | _ => pure .noSlot

/-- Work with the package in a slot. -/
def withPackage (slot : String) (f : PackageId → Package → StateM Host Answer) :
    StateM Host Answer := do
  let w ← get
  match w.slots[slot]? with
  | some (.package id) =>
    match w.packages.get? id with
    | some p => f id p
    | none => pure .noSlot
  | _ => pure .noSlot

/-- Work with the stream in a slot. -/
def withStream (slot : String) (f : ContentStream → StateM Host Answer) : StateM Host Answer := do
  match (← get).slots[slot]? with
  | some (.stream s) => f s
  | _ => pure .noSlot

/-- Work with the fetch in a slot and its package. -/
def withFetch (slot : String) (f : Fetch → Package → StateM Host Answer) : StateM Host Answer := do
  let w ← get
  match w.slots[slot]? with
  | some (.fetch r) =>
    match w.packages.get? r.package with
    | some p => f r p
    | none => pure .noSlot
  | _ => pure .noSlot

/-- Work with the library in a slot. -/
def withLibrary (slot : String) (f : Library → StateM Host Answer) : StateM Host Answer := do
  match (← get).slots[slot]? with
  | some (.library l) => f l
  | _ => pure .noSlot

/-! ## The families. -/

/-- Messages of the engine and their handler. -/
def runNotifier : NotifierOp → StateM Host Answer
  | .install mode => do
    modify fun w => { w with notifier := { w.notifier with handler := some mode } }
    pure .done
  | .clear => do
    modify fun w => { w with notifier := { w.notifier with handler := none } }
    pure .done
  | .hasHandler => do pure (.flag (← get).notifier.handler.isSome)
  | .report message severe => do
    let ((goOn, event), n) := (← get).notifier.report message severe
    through (Gateway.emit? event)
    let (seen, n) := n.takeSeen
    modify fun w => { w with notifier := n }
    pure (.advice goOn seen)

/-- A request to the engine itself. -/
def runRequest (r : Request) : StateM Host Answer := do
  let reply ← through (Gateway.call fun e => e.perform r)
  match reply with
  | .released notice => through (Gateway.emit? notice)
  | _ => pure ()
  pure (.reply reply)

/-- An operation of a loose handle. -/
def runOwned (slot : String) : OwnedOp → StateM Host Answer
  | .release => withOwned slot fun o => do
    let (done, o) ← through o.release
    update slot (.owned o)
    pure (.flag done)
  | .info => withOwned slot fun o => pure (.owned o)

/-- The handles of the packages of a container. -/
def packageHandles (w : Host) (c : Container) : List Handle :=
  c.packages.filterMap fun id => (w.packages.get? id).map fun p => p.handle.handle

/-- An operation of a container. -/
def runContainer (slot : String) : ContainerOp → StateM Host Answer
  | .info => withContainer slot fun _ c => do pure (.container c ((← get).packageHandles c))
  | .close => withContainer slot fun id _ => do pure (.flag (← closeContainer id))
  | .rawBytes path => withContainer slot fun _ c => do pure (.bytes (← through (c.rawBytes path)))

/-- An operation of a package. -/
def runPackage (slot : String) : PackageOp → StateM Host Answer
  | .info => withPackage slot fun _ p => pure (.package p)
  | .close => withPackage slot fun id _ => do pure (.flag (← closePackage id))
  | .property name vocabulary => withPackage slot fun _ p => do
    pure (.text (← through (p.property name vocabulary)))
  | .hasProperty name vocabulary => withPackage slot fun _ p => do
    pure (.flag (← through (p.hasProperty name vocabulary)))
  | .spine => withPackage slot fun _ p => pure (.spine p.spine)
  | .spineItem idref => withPackage slot fun _ p =>
    pure (.spineItem ((p.spineItem? idref).map fun item => (item, p.metadata.rendition)))
  | .manifest => withPackage slot fun _ p => pure (.manifest p.manifest)
  | .manifestItem key => withPackage slot fun _ p => pure (.manifestItem (p.manifestItem? key))
  | .isContentDocument path => withPackage slot fun _ p => pure (.flag (p.isContentDocument path))
  | .navigation kind => withPackage slot fun id p => do
    let (table, p) ← through (p.navigation kind)
    setPackage id p
    pure (.navigation table)
  | .probeSize path => withPackage slot fun _ p => do
    let attached := (← get).isAttached p
    pure (.size (← through (p.probeSize attached path)))
  | .setRootUrls urls => withPackage slot fun id p => do
    setPackage id { p with rootUrls := urls }
    pure .done
  | .describe => withPackage slot fun _ p => do
    let document ← through p.describe
    pure (.text (some document))
  | .url => withPackage slot fun _ p => pure (.text (p.metadata.uniqueId.map Library.urlForId))

/-- A stream that a package opens. -/
def openPackageStream (p : Package) (path : String) (mode : StreamMode) :
    StateM Host (Option ContentStream) := do
  let attached := (← get).isAttached p
  match mode with
  | .filtered ranged => through (p.openStream attached path ranged)
  | .raw => through (p.openRawStream attached path)

/-- The stream just opened, if any, put into its slot. -/
def storeStream (dest : String) (s : Option ContentStream) : StateM Host Unit :=
  match s with
  | none => pure ()
  | some s => store dest (.stream s)

/-- An operation of a fetch. -/
def runFetch (slot : String) (op : FetchOp) : StateM Host Answer :=
  withFetch slot fun f p => do
    let attached := (← get).isAttached p
    let (r, f) ← through (op.run f p attached)
    update slot (.fetch f)
    pure (.fetchReply r f)

/-- The stream of a fetch moved into a slot. -/
def runHandOver (slot : String) (ranged : Bool) (dest : String) : StateM Host Answer :=
  withFetch slot fun f p => do
    let attached := (← get).isAttached p
    let (s, f) ← through (f.handOver p attached ranged)
    update slot (.fetch f)
    storeStream dest s
    pure (.handedOver s f)

/-- An operation of a stream. -/
def runStream (slot : String) (op : StreamOp) : StateM Host Answer :=
  withStream slot fun s => do
    let (r, s) ← through (op.run s)
    update slot (.stream s)
    pure (.streamReply r s)

/-- A package as a library's host sees it. -/
def packageView (w : Host) (id : PackageId) : Option (Handle × Bool) :=
  (w.packages.get? id).map fun p => (p.handle.handle, p.isClosed)

/-- A container as a library's host sees it. -/
def containerView (w : Host) (id : ContainerId) : Option (Handle × Bool) :=
  (w.containers.get? id).map fun c => (c.handle.handle, c.isClosed)

/-- The entries of a library. -/
def entryViews (w : Host) (l : Library) : List EntryView :=
  l.entries.toList.map fun (id, e) => ⟨id, e.path, e.package.bind w.packageView⟩

/-- A question to a library. -/
def runQuery (slot : String) (q : LibraryQuery) : StateM Host Answer :=
  withLibrary slot fun l => do
    let w ← get
    match q with
    | .info => pure (.library (w.entryViews l))
    | .container path => pure (.object ((l.container? path).bind w.containerView))
    | .pathForUniqueId id => pure (.text (l.pathForUniqueId id))
    | .pathForPackageId id => pure (.text (l.pathForPackageId id))

/-- The package that a library has for a key. -/
def findPackage (l : Library) : PackageKey → Option PackageId
  | .uniqueId id => l.packageForUniqueId id
  | .url url => l.packageForUrl url

/-- A package out of a library. -/
def runLibraryPackage (slot : String) (key : PackageKey) (dest : Option String) :
    StateM Host Answer :=
  withLibrary slot fun l => do
    let w ← get
    match findPackage l key with
    | none => pure (.object none)
    | some id =>
      let view := w.packageView id
      match dest with
      | none => pure ()
      | some dest => store dest (.package id)
      pure (.object view)

/-! ## Every command. -/

/-- A container opened into a slot. -/
def runOpen (path : String) (config : Config) (dest : String) : StateM Host Answer := do
  match ← openContainer path config with
  | .error e => pure (.failed e)
  | .ok id =>
    let w ← get
    match w.containers.get? id with
    | none => pure .noSlot
    | some c =>
      store dest (.container id)
      pure (.opened c.handle.handle c.packages.length)

/-- A package of a container put into a slot. -/
def runSelect (slot : String) (index : Option Nat) (dest : String) : StateM Host Answer :=
  withContainer slot fun _ c => do
    let w ← get
    let chosen := match index with
      | none => c.defaultPackage?
      | some i => c.packages[i]?
    match chosen with
    | none => pure (.handle none)
    | some id =>
      let h := (w.packages.get? id).map fun p => p.handle.handle
      store dest (.package id)
      pure (.handle h)

/-- A package attached to a container that has no other owner. -/
def runAddPackage (container package : String) : StateM Host Answer :=
  withContainer container fun c _ => withPackage package fun p _ => do
    if (← get).containerOwners c ≤ 1 then pure (.flag (← addPackage c p)) else pure .shared

/-- The handles that the engine took back, in order where an order was promised. -/
def releasedHandles (w : Host) : List Handle :=
  let hs := w.gateway.engine.released.toList
  if w.libraryClosed then hs.mergeSort fun a b => a.number ≤ b.number else hs

/-- The answer to a command. -/
def run : Command → StateM Host Answer
  | .register path archive => do
    modify fun w =>
      { w with gateway := { w.gateway with engine := w.gateway.engine.register path archive } }
    pure .done
  | .inject fault => do
    modify fun w =>
      { w with gateway := { w.gateway with faults := w.gateway.faults.add fault } }
    pure .done
  | .lastHint => do pure (.word (← get).gateway.lastHint)
  | .engine r => runRequest r
  | .released => do pure (.handles (← get).releasedHandles)
  | .notifier op => runNotifier op
  | .writeFile file bytes => do
    let w ← get
    match w.files.write file bytes with
    | .error e => pure (.ioFailed e)
    | .ok files =>
      set { w with files }
      pure .done
  | .showFile file => do
    match (← get).files.read file with
    | .error e => pure (.ioFailed e)
    | .ok bytes => pure (.file bytes)
  | .drop slot => do pure (if ← clear slot then .done else .noSlot)
  | .own h kind dest => do
    store dest (.owned (.take h kind))
    pure .done
  | .owned slot op => runOwned slot op
  | .openContainer path config dest => runOpen path config dest
  | .container slot op => runContainer slot op
  | .rawStream slot path dest => withContainer slot fun _ c => do
    let s ← through (c.rawStream path)
    storeStream dest s
    pure (.stream s)
  | .addPackage container package => runAddPackage container package
  | .selectPackage slot index dest => runSelect slot index dest
  | .loadPackage h config dest => do
    let id ← loadPackage h config
    store dest (.package id)
    pure (.handle (some h))
  | .package slot op => runPackage slot op
  | .packageStream slot path mode dest => withPackage slot fun _ p => do
    let s ← openPackageStream p path mode
    storeStream dest s
    pure (.stream s)
  | .fetchResource slot path raw dest => withPackage slot fun id _ => do
    let f := Fetch.start id path raw
    store dest (.fetch f)
    pure (.fetch f)
  | .fetchInfo slot => withFetch slot fun f p => pure (.fetchInfo f p.handle.handle)
  | .fetch slot op => runFetch slot op
  | .handOver slot ranged dest => runHandOver slot ranged dest
  | .stream slot op => runStream slot op
  | .streamInfo slot => withStream slot fun s => pure (.streamInfo s)
  | .newLibrary dest => do
    store dest (.library .empty)
    pure .done
  | .loadLibrary file dest => do
    match ← loadLibrary file with
    | .error e => pure (.failed e)
    | .ok l =>
      store dest (.library l)
      pure (.loaded l.size)
  | .saveLibrary slot file => withLibrary slot fun l => do
    match ← saveLibrary l file with
    | .error e => pure (.failed e)
    | .ok () => pure .done
  | .addToLibrary slot container => withLibrary slot fun l =>
    withContainer container fun id _ => do pure (.added (← addToLibrary slot l id))
  | .library slot query => runQuery slot query
  | .libraryPackage slot key dest => runLibraryPackage slot key dest
  | .closeLibrary slot => withLibrary slot fun l => do
    closeLibrary slot l
    pure .done

/-- The answers to several commands, one after the other. -/
def runAll : List Command → StateM Host (List Answer)
  | [] => pure []
  | c :: cs => do
    let a ← run c
    let as ← runAll cs
    pure (a :: as)

end EpubAccess.Host
