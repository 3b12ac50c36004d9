/-
  EpubAccess.Stream.Basic
  ────────────────────────────────
  A byte stream over one resource.

  The engine's cursor moves forward, to its mark and to the start, and has no
  absolute positions.  A `ContentStream` keeps the position and the mark on
  its own side, asks the engine for no more than the declared length leaves,
  and does not ask at all where nothing is left.  `seek` rewinds and skips.

  The operations are stated over any engine that serves streams
  (`StreamEngine`).  On a closed stream every operation reports the misuse,
  reaches no engine and answers with nothing.
-/
import EpubAccess.OwnedHandle

namespace EpubAccess

/-- An engine that serves byte streams. -/
class StreamEngine (σ : Type) extends HandleSink σ where
  readBytes : Handle → UInt64 → StateM σ ByteArray
  readAll : Handle → UInt64 → StateM σ ByteArray
  readRange : Handle → UInt64 → UInt64 → StateM σ (Except EngineError ByteArray)
  skip : Handle → UInt64 → StateM σ (Except EngineError Unit)
  mark : Handle → StateM σ (Except EngineError Unit)
  reset : Handle → Bool → StateM σ (Except EngineError Unit)
  available : Handle → StateM σ UInt64

instance : StreamEngine Gateway where
  readBytes := Gateway.readBytes
  readAll := Gateway.readAll
  readRange := Gateway.readRange
  skip := Gateway.skip
  mark := Gateway.mark
  reset := Gateway.reset
  available := Gateway.available

/-- A stream: its handle, its path, the length that was declared when it was
opened, its position and mark, and the cap on reading everything. -/
structure ContentStream where
  handle : OwnedHandle
  path : String
  length : UInt64
  position : UInt64
  mark : UInt64
  maxReadAll : UInt64
  deriving DecidableEq, Inhabited

namespace ContentStream

variable {σ : Type} [StreamEngine σ]

/-- The number of bytes as a word. -/
def sizeOf (bytes : ByteArray) : UInt64 := UInt64.ofNat bytes.size

/-- A stream over a handle that the engine just gave; asks once for the length. -/
def ofHandle (h : Handle) (path : String) (maxReadAll : UInt64) : StateM σ ContentStream := do
  let length ← StreamEngine.available h
  HandleSink.emit (.streamOpened h path length)
  pure { handle := .take h .stream, path, length, position := 0, mark := 0, maxReadAll }

/-- Was the stream closed? -/
def isClosed (s : ContentStream) : Bool := s.handle.released

/-- Is the declared length zero? -/
def isEmpty (s : ContentStream) : Bool := s.length == 0

/-- The handle of an open stream; a closed one reports the access. -/
def live (s : ContentStream) (access : StreamAccess) : StateM σ (Option Handle) :=
  match s.handle.get? with
  | some h => pure (some h)
  | none => do
    HandleSink.emit (.closedStreamUsed access s.handle.handle s.path)
    pure none

/-- The declared length from an offset on. -/
def leftFrom (s : ContentStream) (offset : UInt64) : UInt64 :=
  if offset ≤ s.length then s.length - offset else 0

/-- The declared length from the position on. -/
def remaining (s : ContentStream) : UInt64 := s.leftFrom s.position

/-- The stream with its position moved forward. -/
def advance (s : ContentStream) (n : UInt64) : ContentStream :=
  { s with position := s.position + n }

/-! ## Reading. -/

/-- The number of bytes that the engine has after the cursor. -/
def available (s : ContentStream) : StateM σ UInt64 := do
  match ← s.live .available with
  | none => pure 0
  | some h => StreamEngine.available h

/-- Up to `n` bytes; none at the end. -/
def read (s : ContentStream) (n : UInt64) : StateM σ (ByteArray × ContentStream) := do
  match ← s.live .read with
  | none => pure (.empty, s)
  | some h =>
    let want := min n s.remaining
    if want = 0 then pure (.empty, s)
    else
      let bytes ← StreamEngine.readBytes h want
      pure (bytes, s.advance (sizeOf bytes))

/-- Bytes read into the front of a buffer, and their number. -/
def readInto (s : ContentStream) (buffer : ByteArray) :
    StateM σ ((UInt64 × ByteArray) × ContentStream) := do
  let (bytes, s) ← s.read (sizeOf buffer)
  pure ((sizeOf bytes, bytes ++ buffer.extract bytes.size buffer.size), s)

/-- Reads of `chunk` bytes until one gives none, put after `front`.  The first
argument bounds their number. -/
def readChunks (chunk : UInt64) :
    Nat → ByteArray → ContentStream → StateM σ (ByteArray × ContentStream)
  | 0, front, s => pure (front, s)
  | room + 1, front, s => do
    let (bytes, s) ← s.read chunk
    if bytes.isEmpty then pure (front, s) else readChunks chunk room (front ++ bytes) s

/-- Everything up to the declared length, in chunks. -/
def readToEnd (s : ContentStream) (chunk : UInt64) : StateM σ (ByteArray × ContentStream) :=
  readChunks chunk (s.remaining.toNat + 1) .empty s

/-- Everything from the cursor on, up to the cap. -/
def readAll (s : ContentStream) : StateM σ (ByteArray × ContentStream) := do
  match ← s.live .readAll with
  | none => pure (.empty, s)
  | some h =>
    let bytes ← StreamEngine.readAll h s.maxReadAll
    pure (bytes, s.advance (sizeOf bytes))

/-- Up to `n` bytes at an offset; the position moves behind what was read. -/
def readRange (s : ContentStream) (offset n : UInt64) :
    StateM σ (Except AccessError ByteArray × ContentStream) := do
  match ← s.live .readRange with
  | none => pure (.ok .empty, s)
  | some h =>
    let want := min n (s.leftFrom offset)
    if want = 0 then pure (.ok .empty, s)
    else
      match ← StreamEngine.readRange h offset want with
      | .error e => pure (.error (.engine e), s)
      | .ok bytes => pure (.ok bytes, { s with position := offset + sizeOf bytes })

/-! ## Moving. -/

/-- Move forward by up to `n` bytes.  Says by how many. -/
def skip (s : ContentStream) (n : UInt64) :
    StateM σ (Except AccessError UInt64 × ContentStream) := do
  match ← s.live .skip with
  | none => pure (.ok 0, s)
  | some h =>
    let count := min n s.remaining
    if count = 0 then pure (.ok 0, s)
    else
      match ← StreamEngine.skip h count with
      | .error e => pure (.error (.engine e), s)
      | .ok () => pure (.ok count, s.advance count)

/-- Remember the position. -/
def setMark (s : ContentStream) : StateM σ (Except AccessError Unit × ContentStream) := do
  match ← s.live .mark with
  | none => pure (.ok (), s)
  | some h =>
    match ← StreamEngine.mark h with
    | .error e => pure (.error (.engine e), s)
    | .ok () => pure (.ok (), { s with mark := s.position })

/-- Move back to the mark, or to the start. -/
def reset (s : ContentStream) (toMark : Bool) :
    StateM σ (Except AccessError Unit × ContentStream) := do
  match ← s.live .reset with
  | none => pure (.ok (), s)
  | some h =>
    match ← StreamEngine.reset h toMark with
    | .error e => pure (.error (.engine e), s)
    | .ok () => pure (.ok (), { s with position := if toMark then s.mark else 0 })

/-- Move to a position by rewinding and skipping.  Says where it ended. -/
def seek (s : ContentStream) (position : UInt64) :
    StateM σ (Except AccessError UInt64 × ContentStream) := do
  match ← s.live .seek with
  | none => pure (.ok 0, s)
  | some _ =>
    match ← s.reset false with
    | (.error e, s) => pure (.error e, s)
    | (.ok (), s) => s.skip position

/-! ## Moving relative to a base. -/

/-- Where to move to. -/
inductive SeekTarget where
  | fromStart (n : UInt64)
  | fromCurrent (n : Int64)
  | fromEnd (n : Int64)
  deriving DecidableEq, Inhabited

/-- A position moved by a signed distance, if it is still a word. -/
def displaced? (base : UInt64) (n : Int64) : Option UInt64 :=
  let sum := (base.toNat : Int) + n.toInt
  if 0 ≤ sum ∧ sum < UInt64.size then some (UInt64.ofNat sum.toNat) else none

/-- The position that a target denotes. -/
def target? (s : ContentStream) : SeekTarget → Option UInt64
  | .fromStart n => some n
  | .fromCurrent n => displaced? s.position n
  | .fromEnd n => displaced? s.length n

/-- The error of a target before the start or past all words. -/
def seekBeforeStart : IoError := ⟨.invalidInput, "seek before start of stream"⟩

/-- Move to a target: forward by skipping, backward by rewinding and skipping.
Says where it ended. -/
def seekTo (s : ContentStream) (t : SeekTarget) :
    StateM σ (Except IoError UInt64 × ContentStream) := do
  match s.target? t with
  | none => pure (.error seekBeforeStart, s)
  | some target =>
    let (r, s) ←
      if s.position ≤ target then s.skip (target - s.position) else s.seek target
    match r with
    | .error e => pure (.error e.toIoError, s)
    | .ok _ => pure (.ok s.position, s)

/-! ## Closing. -/

/-- Close the stream.  Says whether this request did it. -/
def close (s : ContentStream) : StateM σ (Bool × ContentStream) := do
  let (done, handle) ← s.handle.release
  if done then HandleSink.emit (.streamClosed handle.handle s.path)
  pure (done, { s with handle })

/-- The owner of the stream goes away. -/
def drop (s : ContentStream) : StateM σ Unit := s.handle.drop

end ContentStream

end EpubAccess
