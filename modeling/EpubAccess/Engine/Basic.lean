/-
  EpubAccess.Engine.Basic
  ────────────────────────────────
  The state of the in-memory engine.

  The engine knows archives by path and live objects by handle.  Handles are
  issued in order, starting at `Handle.first`, and never again.  The engine
  records every call and every handle it took back, and counts three kinds of
  misuse: giving back a handle that is not live, using one that is not live
  or of the wrong kind, and giving back a package whose container is live.
-/
import EpubAccess.Engine.Call
import EpubAccess.Engine.Cursor
import EpubAccess.Event

namespace EpubAccess

/-- A live object of the engine. -/
inductive LiveObject where
  | container (archive : String)
  | package (container : Handle) (archive : String) (index : Nat)
  | stream (cursor : Cursor)
  deriving Inhabited

/-- Is the object a stream? -/
def LiveObject.isStream : LiveObject → Bool
  | .stream _ => true
  | _ => false

/-- The handle issued after `n` others. -/
def Handle.issuedAfter (n : Nat) : Handle := ⟨0x1001 + n⟩

/-- The first handle issued. -/
def Handle.first : Handle := Handle.issuedAfter 0

/-- The state of the engine. -/
structure Engine where
  archives : Std.ExtTreeMap String Archive
  live : Std.ExtTreeMap Handle LiveObject
  /-- How many handles were issued. -/
  issued : Nat
  /-- Every call, oldest first. -/
  calls : Array Call
  /-- Every handle taken back, oldest first. -/
  released : Array Handle
  doubleReleases : Nat
  danglingUses : Nat
  registryWarnings : Nat

namespace Engine

/-- An engine that knows nothing and did nothing. -/
def empty : Engine :=
  { archives := ∅
    live := ∅
    issued := 0
    calls := #[]
    released := #[]
    doubleReleases := 0
    danglingUses := 0
    registryWarnings := 0 }

instance : Inhabited Engine := ⟨empty⟩

/-! ## What a host can observe. -/

/-- The number of live objects. -/
def liveHandles (e : Engine) : Nat := e.live.size

/-- The number of live streams. -/
def liveStreams (e : Engine) : Nat := (e.live.toList.filter fun (_, o) => o.isStream).length

/-! ## Steps that operations are made of. -/

/-- An archive registered under a path; it replaces an earlier one. -/
def register (e : Engine) (path : String) (a : Archive) : Engine :=
  { e with archives := e.archives.insert path a }

/-- A call recorded. -/
def record (e : Engine) (c : Call) : Engine := { e with calls := e.calls.push c }

/-- A new live object under the next handle. -/
def allocate (e : Engine) (o : LiveObject) : Handle × Engine :=
  let h := Handle.issuedAfter e.issued
  (h, { e with live := e.live.insert h o, issued := e.issued + 1 })

/-- A use of a handle that is not live, or not of the kind needed. -/
def dangling (e : Engine) : Engine := { e with danglingUses := e.danglingUses + 1 }

/-- The description of a package of a registered archive. -/
def description? (e : Engine) (archive : String) (index : Nat) : Option PackageDescription :=
  (e.archives[archive]?).bind fun a => a.packages[index]?

/-- An answer about the archive of a live container. -/
def onContainer (e : Engine) (h : Handle) (absent : α) (f : String → Engine → α × Engine) :
    α × Engine :=
  match e.live[h]? with
  | some (.container archive) => f archive e
  | _ => (absent, e.dangling)

/-- An answer from the description of a live package. -/
def onPackage (e : Engine) (h : Handle) (absent : α) (f : PackageDescription → α) : α × Engine :=
  match e.live[h]? with
  | some (.package _ archive index) =>
    match e.description? archive index with
    | some d => (f d, e)
    | none => (absent, e)
  | _ => (absent, e.dangling)

/-- An operation on the cursor of a live stream. -/
def onCursor (e : Engine) (h : Handle) (absent : α) (f : Cursor → α × Cursor) : α × Engine :=
  match e.live[h]? with
  | some (.stream c) =>
    let (a, c) := f c
    (a, { e with live := e.live.insert h (.stream c) })
  | _ => (absent, e.dangling)

/-- A handle taken back, and what the engine has to say about it. -/
def takeBack (e : Engine) (h : Handle) : Option Event × Engine :=
  match e.live[h]? with
  | none => (some (.unknownRelease h), { e with doubleReleases := e.doubleReleases + 1 })
  | some o =>
    let gone := { e with live := e.live.erase h, released := e.released.push h }
    match o with
    | .package c _ _ =>
      if c ∈ gone.live then
        (some (.releasedBeforeContainer h c),
          { gone with registryWarnings := gone.registryWarnings + 1 })
      else (none, gone)
    | _ => (none, gone)

end Engine

end EpubAccess
