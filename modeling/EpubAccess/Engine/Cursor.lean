/-
  EpubAccess.Engine.Cursor
  ────────────────────────────────
  The engine's position in the bytes of one stream.

  A cursor reads forward, and a seekable one skips, marks and returns to its
  mark or to the start.  A cursor that was opened for ranges reads a range
  even if it is not seekable.  Every operation keeps the position and the
  mark within the bytes (`Cursor.Within`), and what is not supported changes
  nothing.
-/
import EpubAccess.Engine.Description
import EpubAccess.Error

namespace EpubAccess

/-- A position in some bytes. -/
structure Cursor where
  contents : Contents
  position : Nat
  mark : Nat
  seekable : Bool
  ranged : Bool
  deriving Inhabited

namespace Cursor

/-- A cursor at the start of some bytes. -/
def start (contents : Contents) (seekable ranged : Bool) : Cursor :=
  { contents, position := 0, mark := 0, seekable, ranged }

/-- The position and the mark lie within the bytes. -/
def Within (c : Cursor) : Prop := c.position ≤ c.contents.size ∧ c.mark ≤ c.contents.size

/-- The number of bytes after the position. -/
def remaining (c : Cursor) : Nat := c.contents.size - c.position

/-- Up to `n` bytes at the position, which moves behind them. -/
def take (c : Cursor) (n : Nat) : ByteArray × Cursor :=
  let stop := c.position + min n c.remaining
  (c.contents.bytes.extract c.position stop, { c with position := stop })

/-- Up to `n` bytes at an offset; the position moves behind them. -/
def readRange (c : Cursor) (offset n : Nat) : Except EngineError ByteArray × Cursor :=
  if c.ranged || c.seekable then
    let (bytes, c) := { c with position := min offset c.contents.size : Cursor }.take n
    (.ok bytes, c)
  else (.error (.unsupported "range read"), c)

/-- The position moved forward by `n`, but not past the end. -/
def skip (c : Cursor) (n : Nat) : Except EngineError Unit × Cursor :=
  if c.seekable then (.ok (), { c with position := min (c.position + n) c.contents.size })
  else (.error (.unsupported "skip"), c)

/-- The position remembered. -/
def setMark (c : Cursor) : Except EngineError Unit × Cursor :=
  if c.seekable then (.ok (), { c with mark := c.position })
  else (.error (.unsupported "mark"), c)

/-- The position moved back to the mark, or to the start. -/
def reset (c : Cursor) (toMark : Bool) : Except EngineError Unit × Cursor :=
  if c.seekable then (.ok (), { c with position := if toMark then c.mark else 0 })
  else (.error (.unsupported "reset"), c)

end Cursor

end EpubAccess
