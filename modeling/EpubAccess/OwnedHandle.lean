/-
  EpubAccess.OwnedHandle
  ────────────────────────────────
  A handle in the hands of exactly one owner.

  The owner gives the handle back once: `release` passes the first request on
  to the engine and reports every later one as misuse.  `get?` shows the
  handle only while it is held.  When the owner goes away with the handle
  still held, `drop` gives it back and warns.
-/
import EpubAccess.Gateway

namespace EpubAccess

/-- Where handles are given back to, and where it is logged. -/
class HandleSink (σ : Type) where
  releaseHandle : Handle → StateM σ Unit
  closeStream : Handle → StateM σ Unit
  emit : Event → StateM σ Unit

instance : HandleSink Gateway where
  releaseHandle := Gateway.releaseHandle
  closeStream := Gateway.closeStream
  emit := Gateway.emit

/-- A handle, its kind, and whether it was given back. -/
structure OwnedHandle where
  handle : Handle
  kind : HandleKind
  released : Bool
  deriving DecidableEq, Inhabited

namespace OwnedHandle

variable {σ : Type} [HandleSink σ]

/-- A handle that its owner now holds. -/
def take (handle : Handle) (kind : HandleKind) : OwnedHandle := ⟨handle, kind, false⟩

/-- The handle, while it is held. -/
def get? (o : OwnedHandle) : Option Handle := if o.released then none else some o.handle

/-- The engine call that takes a handle of this kind back. -/
def giveBack (o : OwnedHandle) : StateM σ Unit :=
  match o.kind with
  | .container | .package => HandleSink.releaseHandle o.handle
  | .stream => HandleSink.closeStream o.handle

/-- Give the handle back.  Says whether this request did it. -/
def release (o : OwnedHandle) : StateM σ (Bool × OwnedHandle) :=
  if o.released then do
    HandleSink.emit (.releasedTwice o.kind o.handle)
    pure (false, o)
  else do
    o.giveBack
    pure (true, { o with released := true })

/-- The owner goes away. -/
def drop (o : OwnedHandle) : StateM σ Unit :=
  if o.released then pure ()
  else do
    HandleSink.emit (.releasedOnDrop o.kind o.handle)
    o.giveBack

/-- The state of the handle on one line. -/
def text (o : OwnedHandle) : String :=
  "OwnedHandle \x7b handle: NativeHandle(" ++ toString o.handle.number ++ "), kind: "
    ++ o.kind.name ++ ", released: " ++ (if o.released then "true" else "false") ++ " \x7d"

end OwnedHandle

end EpubAccess
