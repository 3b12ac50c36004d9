/-
  EpubAccess.Fetch
  ────────────────────────────────
  The content of one resource, opened when it is first needed.

  A `Fetch` binds a package to a path and holds at most one stream.
  `ensureStream` opens one unless one is held; reading opens one if
  necessary and closes it afterwards; `handOver` gives the stream away.  The
  length found when a stream was last opened is kept.
-/
import EpubAccess.Package.Basic

namespace EpubAccess

/-- A resource of a package, with the stream that is held for it. -/
structure Fetch where
  package : PackageId
  path : String
  raw : Bool
  stream : Option ContentStream
  contentLength : Option UInt64
  deriving Inhabited

namespace Fetch

/-- Nothing opened yet. -/
def start (package : PackageId) (path : String) (raw : Bool) : Fetch :=
  { package, path, raw, stream := none, contentLength := none }

/-- Is a stream held? -/
def hasStream (f : Fetch) : Bool := f.stream.isSome

/-- A stream held, opened now unless there is one.  `p` is the fetch's package
and `attached` says whether it belongs to an open container. -/
def ensureStream (f : Fetch) (p : Package) (attached ranged : Bool) :
    StateM Gateway (Except AccessError ContentStream × Fetch) :=
  match f.stream with
  | some s => pure (.ok s, f)
  | none =>
    if p.isClosed then pure (.error (.closed "package"), f)
    else do
      let opened ←
        if f.raw then p.openRawStream attached f.path else p.openStream attached f.path ranged
      match opened with
      | none => pure (.error (.streamUnavailable f.path), f)
      | some s => pure (.ok s, { f with stream := some s, contentLength := some s.length })

/-- Close the stream that is held, if any. -/
def close (f : Fetch) : StateM Gateway Fetch :=
  match f.stream with
  | none => pure f
  | some s => do
    let _ ← s.close
    pure { f with stream := none }

/-- Everything, up to the cap. -/
def readAll (f : Fetch) (p : Package) (attached : Bool) :
    StateM Gateway (Option ByteArray × Fetch) := do
  match ← f.ensureStream p attached false with
  | (.error e, f) => do
    Gateway.emit (.fetchFailed .readAll f.path e)
    pure (none, f)
  | (.ok s, f) => do
    let (bytes, s) ← s.readAll
    let f ← { f with stream := some s : Fetch }.close
    pure (some bytes, f)

/-- Up to `n` bytes at an offset. -/
def readRange (f : Fetch) (p : Package) (attached : Bool) (offset n : UInt64) :
    StateM Gateway (Option ByteArray × Fetch) := do
  match ← f.ensureStream p attached true with
  | (.error e, f) => do
    Gateway.emit (.fetchFailed .readRange f.path e)
    pure (none, f)
  | (.ok s, f) => do
    if n = 0 then
      let f ← f.close
      pure (some .empty, f)
    else
      let (r, s) ← s.readRange offset n
      let f := { f with stream := some s : Fetch }
      match r with
      | .ok bytes =>
        let f ← f.close
        pure (some bytes, f)
      | .error e =>
        Gateway.emit (.rangeReadFailed offset n f.path e)
        let f ← f.close
        pure (none, f)

/-- The stream, which no longer belongs to the fetch. -/
def handOver (f : Fetch) (p : Package) (attached ranged : Bool) :
    StateM Gateway (Option ContentStream × Fetch) := do
  match ← f.ensureStream p attached ranged with
  | (.error e, f) => do
    Gateway.emit (.fetchFailed .openStream f.path e)
    pure (none, f)
  | (.ok s, f) => pure (some s, { f with stream := none })

end Fetch

/-! ## Operations as data. -/

/-- An operation of a fetch that keeps its stream to itself. -/
inductive FetchOp where
  | ensureStream (ranged : Bool)
  | readAll
  | readRange (offset n : UInt64)
  | close
  deriving DecidableEq, Inhabited

/-- The answer of a fetch. -/
inductive FetchReply where
  | done
  | failed (e : AccessError)
  | bytes (b : Option ByteArray)
  deriving Inhabited

/-- The meaning of an operation. -/
def FetchOp.run (f : Fetch) (p : Package) (attached : Bool) :
    FetchOp → StateM Gateway (FetchReply × Fetch)
  | .ensureStream ranged => do
    let (r, f) ← f.ensureStream p attached ranged
    match r with
    | .ok _ => pure (.done, f)
    | .error e => pure (.failed e, f)
  | .readAll => do
    let (b, f) ← f.readAll p attached
    pure (.bytes b, f)
  | .readRange offset n => do
    let (b, f) ← f.readRange p attached offset n
    pure (.bytes b, f)
  | .close => do
    let f ← f.close
    pure (.done, f)

end EpubAccess
