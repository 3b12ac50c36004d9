/-
  EpubAccess.Proofs.Streams.PlainCursor
  ────────────────────────────────
  The reference for streams: a position and a mark in some bytes.

  A `PlainCursor` has no engine, no words and no handle.  `answer` says what
  every operation gives and where it leaves the position and the mark, all of
  it in terms of the bytes.  An operation that the bytes do not support is
  refused and moves nothing; one that would read or pass no byte at all is
  never refused.  The position and the mark stay within the bytes (`Within`).
-/
import EpubAccess.Stream.Operation

namespace EpubAccess

/-! ## §1. A cursor without an engine. -/

instance : DecidableEq Contents := fun a b =>
  decidable_of_iff (a.bytes.data = b.bytes.data) (by
    obtain ⟨⟨x⟩, hx⟩ := a
    obtain ⟨⟨y⟩, hy⟩ := b
    simp)

/-- A position and a mark in some bytes. -/
structure PlainCursor where
  contents : Contents
  /-- Does it skip, mark and move back? -/
  seekable : Bool
  /-- Does it read ranges even if it is not seekable? -/
  ranged : Bool
  /-- The cap on reading everything. -/
  cap : Nat
  position : Nat
  mark : Nat
  deriving DecidableEq

namespace PlainCursor

/-- A cursor at the start of some bytes. -/
def start (contents : Contents) (seekable ranged : Bool) (cap : Nat) : PlainCursor :=
  { contents, seekable, ranged, cap, position := 0, mark := 0 }

/-- A cursor over the bytes of an engine's cursor, which can do the same. -/
def ofCursor (c : Cursor) (cap : UInt64) : PlainCursor :=
  start c.contents c.seekable c.ranged cap.toNat

variable (r : PlainCursor)

/-- The number of bytes. -/
def size : Nat := r.contents.size

/-- The number of bytes after the position. -/
def left : Nat := r.size - r.position

/-- Up to `n` bytes from an offset on. -/
def slice (offset n : Nat) : ByteArray :=
  r.contents.bytes.extract offset (min (offset + n) r.size)

/-- The position moved to `k`, but not past the end. -/
def moveTo (k : Nat) : PlainCursor := { r with position := min k r.size }

/-- The position moved forward by `n`, but not past the end. -/
def advance (n : Nat) : PlainCursor := r.moveTo (r.position + n)

/-- The refusal of an operation that the bytes do not support. -/
def refusal (operation : String) : AccessError := .engine (.unsupported operation)

/-- All that is left, in chunks of some bytes; chunks of none give nothing. -/
def readToEnd (chunk : Nat) : ByteArray × PlainCursor :=
  if chunk = 0 then (.empty, r) else (r.slice r.position r.left, r.advance r.left)

/-- Up to `n` bytes at an offset; the position moves behind them, if any. -/
def readRange (offset n : Nat) : Except AccessError ByteArray × PlainCursor :=
  if min (offset + n) r.size ≤ offset then (.ok .empty, r)
  else if r.ranged || r.seekable then (.ok (r.slice offset n), r.moveTo (offset + n))
  else (.error (refusal "range read"), r)

/-- The position moved forward by up to `n`.  Says by how many. -/
def skip (n : Nat) : Except AccessError Nat × PlainCursor :=
  if min n r.left = 0 then (.ok 0, r)
  else if r.seekable then (.ok (min n r.left), r.advance n)
  else (.error (refusal "skip"), r)

/-- The position remembered. -/
def setMark : Except AccessError Unit × PlainCursor :=
  if r.seekable then (.ok (), { r with mark := r.position })
  else (.error (refusal "mark"), r)

/-- The position moved back to the mark, or to the start. -/
def reset (toMark : Bool) : Except AccessError Unit × PlainCursor :=
  if r.seekable then (.ok (), { r with position := if toMark then r.mark else 0 })
  else (.error (refusal "reset"), r)

/-- The position moved to `k`, or to the end.  Says where it ended. -/
def seek (k : Nat) : Except AccessError Nat × PlainCursor :=
  if r.seekable then (.ok (min k r.size), r.moveTo k)
  else (.error (refusal "reset"), r)

/-- A number moved by a signed distance, if the sum is that of a word. -/
def displaced? (base : Nat) (n : Int64) : Option Nat :=
  let sum := (base : Int) + n.toInt
  if 0 ≤ sum ∧ sum < UInt64.size then some sum.toNat else none

/-- The position that a target denotes. -/
def target? : ContentStream.SeekTarget → Option Nat
  | .fromStart n => some n.toNat
  | .fromCurrent n => displaced? r.position n
  | .fromEnd n => displaced? r.size n

/-- A move that is reported by where it ended, or with an I/O error. -/
def landed : Except AccessError Nat × PlainCursor → Except IoError Nat × PlainCursor
  | (.error e, r) => (.error e.toIoError, r)
  | (.ok _, r) => (.ok r.position, r)

/-- The position moved to a target, as skipping or seeking does.  Says where
it ended. -/
def seekTo (t : ContentStream.SeekTarget) : Except IoError Nat × PlainCursor :=
  match r.target? t with
  | none => (.error ContentStream.seekBeforeStart, r)
  | some k => landed (if r.position ≤ k then r.skip (k - r.position) else r.seek k)

/-! ## §2. What every operation answers. -/

/-- The answer to an operation, and the cursor afterwards. -/
def answer : StreamOp → StreamReply × PlainCursor
  | .read n => (.bytes (r.slice r.position n.toNat), r.advance n.toNat)
  | .readInto buffer =>
    let n := (ContentStream.sizeOf buffer).toNat
    let bytes := r.slice r.position n
    (.filled (ContentStream.sizeOf bytes) (bytes ++ buffer.extract bytes.size buffer.size),
      r.advance n)
  | .readToEnd chunk =>
    let (bytes, r) := r.readToEnd chunk.toNat
    (.bytes bytes, r)
  | .available => (.number (.ofNat r.left), r)
  | .readAll => (.bytes (r.slice r.position r.cap), r.advance r.cap)
  | .readRange offset n =>
    let (b, r) := r.readRange offset.toNat n.toNat
    (.ofBytes b, r)
  | .skip n =>
    let (count, r) := r.skip n.toNat
    (.ofNumber (count.map .ofNat), r)
  | .mark =>
    let (done, r) := r.setMark
    (.ofUnit done, r)
  | .reset toMark =>
    let (done, r) := r.reset toMark
    (.ofUnit done, r)
  | .seek k =>
    let (place, r) := r.seek k.toNat
    (.ofNumber (place.map .ofNat), r)
  | .seekTo t =>
    let (place, r) := r.seekTo t
    (.ofIoNumber (place.map .ofNat), r)
  | .position => (.number (.ofNat r.position), r)
  | .close => (.flag true, r)

/-- The cursor after several operations. -/
def after (r : PlainCursor) (ops : List StreamOp) : PlainCursor :=
  ops.foldl (fun r op => (r.answer op).2) r

/-! ## §3. Positions within the bytes. -/

/-- The position and the mark lie within the bytes. -/
structure Within : Prop where
  position : r.position ≤ r.size
  mark : r.mark ≤ r.size

variable {r}

theorem start_within (contents : Contents) (seekable ranged : Bool) (cap : Nat) :
    (start contents seekable ranged cap).Within :=
  ⟨Nat.zero_le _, Nat.zero_le _⟩

theorem Within.moveTo (h : r.Within) (k : Nat) : (r.moveTo k).Within :=
  ⟨Nat.min_le_right .., h.mark⟩

theorem Within.advance (h : r.Within) (n : Nat) : (r.advance n).Within := h.moveTo _

end PlainCursor

end EpubAccess
