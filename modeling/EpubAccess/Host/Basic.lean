/-
  EpubAccess.Host.Basic
  ────────────────────────────────
  The state of a program that uses the library.

  A host keeps objects in named slots.  Loose handles, streams, fetches and
  libraries have one owner, the slot.  Containers and packages are shared and
  live in pools: a container is owned by slots and libraries, a package by
  slots, fetches, libraries and the container it was attached to.  An object
  goes away with its last owner; then its handle is given back if it is still
  held, and what the object owned may go away too.
-/
import EpubAccess.Container
import EpubAccess.Fetch
import EpubAccess.Files
import EpubAccess.Library
import EpubAccess.Notifier
import EpubAccess.Pool

namespace EpubAccess

/-- What a slot holds. -/
inductive Holding where
  | owned (o : OwnedHandle)
  | container (id : ContainerId)
  | package (id : PackageId)
  | stream (s : ContentStream)
  | fetch (f : Fetch)
  | library (l : Library)
  deriving Inhabited

namespace Holding

/-- Does the object own a container? -/
def ownsContainer (id : ContainerId) : Holding → Bool
  | container c => c == id
  | library l => l.hasContainer id
  | _ => false

/-- Does the object own a package? -/
def ownsPackage (id : PackageId) : Holding → Bool
  | package p => p == id
  | fetch f => f.package == id
  | library l => l.hasPackage id
  | _ => false

end Holding

/-- The state of a host. -/
structure Host where
  gateway : Gateway
  containers : Pool Container
  packages : Pool Package
  slots : Std.ExtTreeMap String Holding
  notifier : Notifier
  files : Files
  /-- Was a library closed or dropped?  Its containers go in no promised order. -/
  libraryClosed : Bool

namespace Host

/-- A host that did nothing yet, with a fresh engine. -/
def fresh : Host :=
  { gateway := .fresh
    containers := .empty
    packages := .empty
    slots := ∅
    notifier := .empty
    files := .empty
    libraryClosed := false }

instance : Inhabited Host := ⟨fresh⟩

/-- Work that needs only the gateway. -/
def through (m : StateM Gateway α) : StateM Host α := fun w =>
  let (a, g) := m w.gateway
  (a, { w with gateway := g })

/-! ## Owners. -/

/-- Does anything own the container? -/
def containerOwned (w : Host) (id : ContainerId) : Bool :=
  w.slots.any fun _ o => o.ownsContainer id

/-- Does anything own the package? -/
def packageOwned (w : Host) (id : PackageId) : Bool :=
  w.slots.any (fun _ o => o.ownsPackage id) || w.containers.any fun c => c.packages.contains id

/-- The number of owners of a container. -/
def containerOwners (w : Host) (id : ContainerId) : Nat :=
  (w.slots.toList.filter fun (_, o) => o.ownsContainer id).length

/-- Does the package belong to a container that is there and open? -/
def isAttached (w : Host) (p : Package) : Bool :=
  match p.link with
  | some link => (w.containers.get? link.container).any fun c => !c.isClosed
  | none => false

/-! ## Packages. -/

/-- A package replaced by its later state. -/
def setPackage (id : PackageId) (p : Package) : StateM Host Unit :=
  modify fun w => { w with packages := w.packages.set id p }

/-- Close a package.  Says whether this request did it. -/
def closePackage (id : PackageId) : StateM Host Bool := do
  match (← get).packages.get? id with
  | none => pure false
  | some p =>
    let (done, p) ← through p.close
    setPackage id p
    pure done

/-- Close a package unless it is closed. -/
def closePackageIfOpen (id : PackageId) : StateM Host Unit := do
  match (← get).packages.get? id with
  | none => pure ()
  | some p => if p.isClosed then pure () else discard (closePackage id)

/-- An owner of the package went away; the last one takes it along. -/
def dropPackage (id : PackageId) : StateM Host Unit := do
  let w ← get
  if w.packageOwned id then pure ()
  else
    match w.packages.get? id with
    | none => pure ()
    | some p =>
      set { w with packages := w.packages.remove id }
      through p.drop

/-! ## Containers. -/

/-- Close a container: first its own handle, then its packages in order.  Says
whether this request did it. -/
def closeContainer (id : ContainerId) : StateM Host Bool := do
  match (← get).containers.get? id with
  | none => pure false
  | some c =>
    let (done, handle) ← through c.handle.release
    modify fun w => { w with containers := w.containers.set id { c with handle } }
    if done then
      c.packages.forM closePackageIfOpen
      through (Gateway.emit (.containerClosed c.path c.handle.handle))
      pure true
    else pure false

/-- Close a container unless it is closed. -/
def closeContainerIfOpen (id : ContainerId) : StateM Host Unit := do
  match (← get).containers.get? id with
  | none => pure ()
  | some c => if c.isClosed then pure () else discard (closeContainer id)

/-- An owner of the container went away; the last one takes it along.  A
container that is still open is closed first, and its packages lose an owner. -/
def dropContainer (id : ContainerId) : StateM Host Unit := do
  let w ← get
  if w.containerOwned id then pure ()
  else
    match w.containers.get? id with
    | none => pure ()
    | some c =>
      if c.isClosed then pure ()
      else
        through (Gateway.emit (.containerDropped c.path))
        discard (closeContainer id)
      modify fun w => { w with containers := w.containers.remove id }
      c.packages.forM dropPackage

/-! ## Slots. -/

/-- What a slot held goes away. -/
def dropHolding : Holding → StateM Host Unit
  | .owned o => through o.drop
  | .container id => dropContainer id
  | .package id => dropPackage id
  | .stream s => through s.drop
  | .fetch f => do
    discard (through f.close)
    dropPackage f.package
  | .library l => do
    modify fun w => { w with libraryClosed := true }
    l.containerIds.forM dropContainer
    l.packageIds.forM dropPackage

/-- An object put into a slot.  What was there goes away afterwards. -/
def store (slot : String) (o : Holding) : StateM Host Unit := do
  let w ← get
  let old := w.slots[slot]?
  set { w with slots := w.slots.insert slot o }
  match old with
  | none => pure ()
  | some old => dropHolding old

/-- An object in a slot replaced by its later state. -/
def update (slot : String) (o : Holding) : StateM Host Unit :=
  modify fun w => { w with slots := w.slots.insert slot o }

/-- A slot emptied.  Says whether something was in it. -/
def clear (slot : String) : StateM Host Bool := do
  let w ← get
  match w.slots[slot]? with
  | none => pure false
  | some o =>
    set { w with slots := w.slots.erase slot }
    dropHolding o
    pure true

/-- Every slot emptied, in the order of their names. -/
def clearAll : StateM Host Unit := do
  (← get).slots.keys.forM fun slot => discard (clear slot)

end Host

end EpubAccess
