/-
  EpubAccess.Host.Libraries
  ────────────────────────────────
  Libraries together with the containers that they own.

  Adding a container registers it under its path.  Another container
  registered there makes way: what it backed is forgotten, it is closed, and
  the library gives it up.  Then every package with an identifier is entered.
  Closing a library closes all its containers and keeps the paths.
-/
import EpubAccess.Host.Opening
import EpubAccess.Library

namespace EpubAccess.Host

/-- The packages of a container with what a library needs of them. -/
def publications (w : Host) (c : Container) : List (PackageId × Option String) :=
  c.packages.filterMap fun id =>
    (w.packages.get? id).map fun p => (id, p.metadata.uniqueId)

/-- The handles of the packages of a container that have no identifier. -/
def unidentified (w : Host) (c : Container) : List Handle :=
  c.packages.filterMap fun id =>
    (w.packages.get? id).bind fun p =>
      if p.metadata.uniqueId.isNone then some p.handle.handle else none

/-- The container that another one replaces makes way. -/
def retire (slot : String) (l : Library) (previous : ContainerId) : StateM Host Library := do
  match (← get).containers.get? previous with
  | none => pure l
  | some c =>
    let l := l.forget c.packages
    through (Gateway.emit (.containerReplaced c.path))
    closeContainerIfOpen previous
    update slot (.library l)
    dropContainer previous
    pure l

/-- Add a container to the library in a slot.  Says how many packages were
entered. -/
def addToLibrary (slot : String) (l : Library) (id : ContainerId) : StateM Host Nat := do
  match (← get).containers.get? id with
  | none => pure 0
  | some c =>
    let previous := l.replaced? c.path id
    let l := l.setContainer c.path id
    let l ←
      match previous with
      | none => pure l
      | some previous => retire slot l previous
    let w ← get
    let (count, entered) := l.enterAll c.path (w.publications c)
    (w.unidentified c).forM fun h => through (Gateway.emit (.packageWithoutId h c.path))
    update slot (.library entered)
    l.packageIds.forM dropPackage
    pure count

/-- Close a container and give it up. -/
def closeAndDrop (id : ContainerId) : StateM Host Unit := do
  closeContainerIfOpen id
  dropContainer id

/-- Close some containers, in the order given, and with them the library in a
slot that registers them. -/
def closeLibraryIn (order : List ContainerId) (slot : String) (l : Library) : StateM Host Unit := do
  modify fun w => { w with libraryClosed := true }
  update slot (.library l.forgetContainers)
  order.forM closeAndDrop
  update slot (.library l.forgetObjects)
  l.packageIds.forM dropPackage

/-- Close every container of the library in a slot. -/
def closeLibrary (slot : String) (l : Library) : StateM Host Unit :=
  closeLibraryIn l.containerIds slot l

/-- Read a library from a file. -/
def loadLibrary (file : String) : StateM Host (Except AccessError Library) := do
  match (← get).files.read file with
  | .error e => pure (.error (.io e))
  | .ok bytes =>
    match Library.ofBytes? bytes with
    | none => pure (.error .json)
    | some l =>
      through (Gateway.emit (.libraryLoaded l.size file))
      pure (.ok l)

/-- Write a library to a file. -/
def saveLibrary (l : Library) (file : String) : StateM Host (Except AccessError Unit) := do
  let w ← get
  match w.files.write file l.toDocument.toUTF8 with
  | .error e => pure (.error (.io e))
  | .ok files =>
    set { w with files }
    pure (.ok ())

end EpubAccess.Host
