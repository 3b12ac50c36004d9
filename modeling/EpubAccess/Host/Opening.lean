/-
  EpubAccess.Host.Opening
  ────────────────────────────────
  Containers opened and packages attached to them.

  A container is opened in a fixed order: the archive, its version, its
  packages, and then every package is loaded and attached.  Later a package
  that belongs to no container can be attached too, once and for good.
-/
import EpubAccess.Host.Basic

namespace EpubAccess.Host

/-- Packages loaded and attached to a container that is being opened. -/
def loadPackages (link : ContainerLink) (config : Config) :
    List Handle → StateM Host (List PackageId)
  | [] => pure []
  | h :: rest => do
    let p ← through (Package.load h config)
    let w ← get
    let (id, packages) := w.packages.add { p with link := some link }
    set { w with packages }
    let ids ← loadPackages link config rest
    pure (id :: ids)

/-- Open an archive. -/
def openContainer (path : String) (config : Config) :
    StateM Host (Except AccessError ContainerId) := do
  match ← through (Gateway.openArchive path) with
  | none => pure (.error (.containerOpen path))
  | some h => do
    let version ← through (Gateway.containerVersion h)
    let handles ← through (Gateway.packages h)
    let link : ContainerLink := { container := (← get).containers.next, path }
    let packages ← loadPackages link config handles
    let w ← get
    let c : Container := { handle := .take h .container, path, version, packages, config }
    let (id, containers) := w.containers.add c
    set { w with containers }
    through (Gateway.emit (.containerOpened path h packages.length))
    pure (.ok id)

/-- Load a package over a handle, attached to nothing. -/
def loadPackage (h : Handle) (config : Config) : StateM Host PackageId := do
  let p ← through (Package.load h config)
  let w ← get
  let (id, packages) := w.packages.add p
  set { w with packages }
  pure id

/-- Attach a package to a container and put it at the end of its list.  One
that is attached already is refused, which is reported. -/
def addPackage (container : ContainerId) (package : PackageId) : StateM Host Bool := do
  let w ← get
  match w.containers.get? container, w.packages.get? package with
  | some c, some p =>
    match p.attach? { container, path := c.path } with
    | none =>
      through (Gateway.emit (.packageAttachedTwice p.handle.handle))
      pure false
    | some p =>
      set { w with
        packages := w.packages.set package p
        containers := w.containers.set container { c with packages := c.packages ++ [package] } }
      pure true
  | _, _ => pure false

end EpubAccess.Host
