/-
  EpubAccess.Stream.Operation
  ────────────────────────────────
  The operations of a stream as data, so that runs of them can be spoken of.

  `StreamOp.run` is the meaning of one operation and `StreamOp.runAll` of a
  sequence.
-/
import EpubAccess.Stream.Basic

namespace EpubAccess

/-- An operation of a stream. -/
inductive StreamOp where
  | read (n : UInt64)
  | readInto (buffer : ByteArray)
  | readToEnd (chunk : UInt64)
  | available
  | readAll
  | readRange (offset n : UInt64)
  | skip (n : UInt64)
  | mark
  | reset (toMark : Bool)
  | seek (position : UInt64)
  | seekTo (target : ContentStream.SeekTarget)
  | position
  | close

/-- The answer of a stream. -/
inductive StreamReply where
  | bytes (b : ByteArray)
  | filled (n : UInt64) (buffer : ByteArray)
  | number (n : UInt64)
  | flag (b : Bool)
  | done
  | failed (e : AccessError)
  | ioFailed (e : IoError)
  deriving Inhabited

namespace StreamReply

/-- Bytes, or the error. -/
def ofBytes : Except AccessError ByteArray → StreamReply
  | .ok b => bytes b
  | .error e => failed e

/-- A number, or the error. -/
def ofNumber : Except AccessError UInt64 → StreamReply
  | .ok n => number n
  | .error e => failed e

/-- Success, or the error. -/
def ofUnit : Except AccessError Unit → StreamReply
  | .ok () => done
  | .error e => failed e

/-- A number, or the I/O error. -/
def ofIoNumber : Except IoError UInt64 → StreamReply
  | .ok n => number n
  | .error e => ioFailed e

end StreamReply

namespace StreamOp

variable {σ : Type} [StreamEngine σ]

/-- The meaning of an operation. -/
def run (s : ContentStream) : StreamOp → StateM σ (StreamReply × ContentStream)
  | .read n => do
    let (b, s) ← s.read n
    pure (.bytes b, s)
  | .readInto buffer => do
    let ((n, b), s) ← s.readInto buffer
    pure (.filled n b, s)
  | .readToEnd chunk => do
    let (b, s) ← s.readToEnd chunk
    pure (.bytes b, s)
  | .available => do
    let n ← s.available
    pure (.number n, s)
  | .readAll => do
    let (b, s) ← s.readAll
    pure (.bytes b, s)
  | .readRange offset n => do
    let (r, s) ← s.readRange offset n
    pure (.ofBytes r, s)
  | .skip n => do
    let (r, s) ← s.skip n
    pure (.ofNumber r, s)
  | .mark => do
    let (r, s) ← s.setMark
    pure (.ofUnit r, s)
  | .reset toMark => do
    let (r, s) ← s.reset toMark
    pure (.ofUnit r, s)
  | .seek place => do
    let (r, s) ← s.seek place
    pure (.ofNumber r, s)
  | .seekTo target => do
    let (r, s) ← s.seekTo target
    pure (.ofIoNumber r, s)
  | .position => pure (.number s.position, s)
  | .close => do
    let (b, s) ← s.close
    pure (.flag b, s)

/-- Several operations, one after the other, with all answers. -/
def runAll (s : ContentStream) : List StreamOp → StateM σ (List StreamReply × ContentStream)
  | [] => pure ([], s)
  | op :: ops => do
    let (a, s) ← op.run s
    let (as, s) ← runAll s ops
    pure (a :: as, s)

end StreamOp

end EpubAccess
