/-
  EpubAccess.Gateway
  ────────────────────────────────
  The way from the library to the engine.

  Every engine call of the library goes through a `Gateway`.  Calls of some
  kinds can be given a fault beforehand: the call is then answered by the
  fault and the engine neither sees nor records it.  Faults of one kind wait
  in line, and each serves one call.  The gateway also keeps the log, and the
  buffer size hint of the latest opening of a content stream.

  Work at the gateway is stateful work, in `StateM`, which is a function of the
  state.  The equations of `Stateful` push the state through sequencing, so that
  the outcome of a composite operation is read off the outcomes of its parts.
-/
import EpubAccess.Engine.Operations

namespace EpubAccess

/-! ## Stateful work applied to a state. -/

namespace Stateful

variable {σ α β : Type}

theorem bind_apply (m : StateM σ α) (f : α → StateM σ β) (s : σ) :
    (m >>= f) s = f (m s).1 (m s).2 := rfl

theorem pure_apply (a : α) (s : σ) : (pure a : StateM σ α) s = (a, s) := rfl

theorem map_apply (f : α → β) (m : StateM σ α) (s : σ) : (f <$> m) s = (f (m s).1, (m s).2) := rfl

theorem get_bind_apply (f : σ → StateM σ α) (s : σ) : (get >>= f) s = f s s := rfl

theorem get_apply (s : σ) : (get : StateM σ σ) s = (s, s) := rfl

theorem set_apply (s s' : σ) : (set s' : StateM σ PUnit) s = (⟨⟩, s') := rfl

theorem modify_apply (f : σ → σ) (s : σ) : (modify f : StateM σ PUnit) s = (⟨⟩, f s) := rfl

theorem forM_nil (f : α → StateM σ PUnit) (s : σ) : ([] : List α).forM f s = (⟨⟩, s) := rfl

theorem mapM_cons_apply (f : α → StateM σ β) (a : α) (as : List α) (s : σ) :
    (a :: as).mapM f s
      = ((f a s).1 :: (as.mapM f (f a s).2).1, (as.mapM f (f a s).2).2) := by
  rw [List.mapM_cons]
  rfl

end Stateful

/-! ## Faults. -/

/-- A prepared answer for one call. -/
inductive Fault where
  | refuseOpen
  | refuseOpenStream
  | refuseOpenRawStream
  | refuseRawContainerStream
  | failSkip (e : EngineError)
  | failMark (e : EngineError)
  | failReset (e : EngineError)
  | answerReadRange (r : Except EngineError ByteArray)
  | answerReadBytes (b : ByteArray)
  | answerReadAll (b : ByteArray)
  | answerAvailable (n : UInt64)
  | answerProbeSize (n : Int)
  deriving Inhabited

/-- The faults that wait, by kind of call, the next one first. -/
structure Faults where
  /-- How many openings of archives are refused. -/
  refusedOpens : Nat
  refusedOpenStreams : Nat
  refusedOpenRawStreams : Nat
  refusedRawContainerStreams : Nat
  skip : List EngineError
  mark : List EngineError
  reset : List EngineError
  readRange : List (Except EngineError ByteArray)
  readBytes : List ByteArray
  readAll : List ByteArray
  available : List UInt64
  probeSize : List Int

namespace Faults

/-- No fault waits. -/
def none : Faults :=
  { refusedOpens := 0
    refusedOpenStreams := 0
    refusedOpenRawStreams := 0
    refusedRawContainerStreams := 0
    skip := []
    mark := []
    reset := []
    readRange := []
    readBytes := []
    readAll := []
    available := []
    probeSize := [] }

instance : Inhabited Faults := ⟨none⟩

/-- One more fault at the end of its line. -/
def add (q : Faults) : Fault → Faults
  | .refuseOpen => { q with refusedOpens := q.refusedOpens + 1 }
  | .refuseOpenStream => { q with refusedOpenStreams := q.refusedOpenStreams + 1 }
  | .refuseOpenRawStream => { q with refusedOpenRawStreams := q.refusedOpenRawStreams + 1 }
  | .refuseRawContainerStream =>
    { q with refusedRawContainerStreams := q.refusedRawContainerStreams + 1 }
  | .failSkip e => { q with skip := q.skip ++ [e] }
  | .failMark e => { q with mark := q.mark ++ [e] }
  | .failReset e => { q with reset := q.reset ++ [e] }
  | .answerReadRange r => { q with readRange := q.readRange ++ [r] }
  | .answerReadBytes b => { q with readBytes := q.readBytes ++ [b] }
  | .answerReadAll b => { q with readAll := q.readAll ++ [b] }
  | .answerAvailable n => { q with available := q.available ++ [n] }
  | .answerProbeSize n => { q with probeSize := q.probeSize ++ [n] }

end Faults

/-! ## The gateway. -/

/-- The engine, the faults that wait, and the log. -/
structure Gateway where
  engine : Engine
  faults : Faults
  /-- Every event, oldest first. -/
  events : Array Event
  /-- The buffer size hint of the latest opening of a content stream. -/
  lastHint : Option UInt64

namespace Gateway

/-- A gateway to a fresh engine. -/
def fresh : Gateway := { engine := .empty, faults := .none, events := #[], lastHint := none }

instance : Inhabited Gateway := ⟨fresh⟩

/-- One more line in the log. -/
def emit (e : Event) : StateM Gateway Unit :=
  modify fun g => { g with events := g.events.push e }

/-- One more line in the log, if there is something to say. -/
def emit? : Option Event → StateM Gateway Unit
  | none => pure ()
  | some e => emit e

/-- A call that reaches the engine. -/
def call (f : Engine → α × Engine) : StateM Gateway α := fun g =>
  let (a, e) := f g.engine
  (a, { g with engine := e })

/-- A call that is refused while `refusals` is positive. -/
def refusable (refusals : Faults → Nat) (set : Nat → Faults → Faults)
    (f : Engine → Option Handle × Engine) : StateM Gateway (Option Handle) := fun g =>
  match refusals g.faults with
  | 0 => call f g
  | n + 1 => (none, { g with faults := set n g.faults })

/-- A call that the first of the waiting answers serves, if one waits. -/
def answerable (waiting : Faults → List α) (set : List α → Faults → Faults)
    (f : Engine → α × Engine) : StateM Gateway α := fun g =>
  match waiting g.faults with
  | [] => call f g
  | a :: rest => (a, { g with faults := set rest g.faults })

/-- A call that the first of the waiting errors serves, if one waits. -/
def fallible (waiting : Faults → List EngineError) (set : List EngineError → Faults → Faults)
    (f : Engine → Except EngineError α × Engine) : StateM Gateway (Except EngineError α) := fun g =>
  match waiting g.faults with
  | [] => call f g
  | e :: rest => (.error e, { g with faults := set rest g.faults })

/-! ## Archives and containers. -/

/-- Open an archive; with and without filters is the same to the engine. -/
def openArchive (path : String) : StateM Gateway (Option Handle) :=
  refusable Faults.refusedOpens (fun n q => { q with refusedOpens := n }) (·.openArchive path)

/-- Give a container or package back. -/
def releaseHandle (h : Handle) : StateM Gateway Unit := do
  emit? (← call (·.releaseHandle h))

/-- The version that a container's archive states. -/
def containerVersion (h : Handle) : StateM Gateway (Option String) := call (·.containerVersion h)

/-- New objects for the packages of a container. -/
def packages (h : Handle) : StateM Gateway (List Handle) := call (·.packages h)

/-- Open a file of a container. -/
def rawContainerStream (h : Handle) (path : String) : StateM Gateway (Option Handle) :=
  refusable Faults.refusedRawContainerStreams
    (fun n q => { q with refusedRawContainerStreams := n })
    (·.rawContainerStream h path)

/-! ## Packages. -/

/-- A single metadata text. -/
def metadata (h : Handle) (field : MetadataField) : StateM Gateway (Option String) :=
  call (·.metadata h field)

/-- The list of authors. -/
def authorList (h : Handle) : StateM Gateway (List String) := call (·.authorList h)

/-- The list of subjects. -/
def subjects (h : Handle) : StateM Gateway (List String) := call (·.subjects h)

/-- The reading order. -/
def spineItems (h : Handle) : StateM Gateway (List SpineItem) := call (·.spineItems h)

/-- The declared resources. -/
def manifestItems (h : Handle) : StateM Gateway (List ManifestItem) := call (·.manifestItems h)

/-- The media overlay data. -/
def mediaOverlay (h : Handle) : StateM Gateway (Option String) := call (·.mediaOverlay h)

/-- The value of a property. -/
def property (h : Handle) (name vocabulary : String) : StateM Gateway (Option String) :=
  call (·.property h name vocabulary)

/-- Is there such a property? -/
def hasProperty (h : Handle) (name vocabulary : String) : StateM Gateway Bool :=
  call (·.hasProperty h name vocabulary)

/-- A navigation table. -/
def navigation (h : Handle) (kind : NavKind) : StateM Gateway (Option NavTable) :=
  call (·.navigation h kind)

/-- Remember the buffer size hint of an opening. -/
def noteHint (hint : UInt64) : StateM Gateway Unit :=
  modify fun g => { g with lastHint := some hint }

/-- Open the filtered content of a resource. -/
def openStream (h : Handle) (path : String) (hint : UInt64) (ranged : Bool) :
    StateM Gateway (Option Handle) := do
  noteHint hint
  refusable Faults.refusedOpenStreams (fun n q => { q with refusedOpenStreams := n })
    (·.openStream h path ranged)

/-- Open a resource past the filters. -/
def openRawStream (h : Handle) (path : String) (hint : UInt64) :
    StateM Gateway (Option Handle) := do
  noteHint hint
  refusable Faults.refusedOpenRawStreams (fun n q => { q with refusedOpenRawStreams := n })
    (·.openRawStream h path)

/-- The size of a resource, negative if there is none. -/
def probeSize (h : Handle) (path : String) : StateM Gateway Int :=
  answerable Faults.probeSize (fun l q => { q with probeSize := l }) (·.probeSize h path)

/-! ## Streams. -/

/-- Up to `length` bytes at the cursor. -/
def readBytes (h : Handle) (length : UInt64) : StateM Gateway ByteArray :=
  answerable Faults.readBytes (fun l q => { q with readBytes := l }) (·.readBytes h length)

/-- Everything from the cursor on, at most `cap` bytes. -/
def readAll (h : Handle) (cap : UInt64) : StateM Gateway ByteArray :=
  answerable Faults.readAll (fun l q => { q with readAll := l }) (·.readAll h cap)

/-- Up to `length` bytes at an offset. -/
def readRange (h : Handle) (offset length : UInt64) :
    StateM Gateway (Except EngineError ByteArray) :=
  answerable Faults.readRange (fun l q => { q with readRange := l }) (·.readRange h offset length)

/-- Move the cursor forward. -/
def skip (h : Handle) (count : UInt64) : StateM Gateway (Except EngineError Unit) :=
  fallible Faults.skip (fun l q => { q with skip := l }) (·.skip h count)

/-- Remember the position of the cursor. -/
def mark (h : Handle) : StateM Gateway (Except EngineError Unit) :=
  fallible Faults.mark (fun l q => { q with mark := l }) (·.mark h)

/-- Move the cursor back to its mark, or to the start. -/
def reset (h : Handle) (toMark : Bool) : StateM Gateway (Except EngineError Unit) :=
  fallible Faults.reset (fun l q => { q with reset := l }) (·.reset h toMark)

/-- The number of bytes after the cursor. -/
def available (h : Handle) : StateM Gateway UInt64 :=
  answerable Faults.available (fun l q => { q with available := l }) (·.available h)

/-- Give a stream back. -/
def closeStream (h : Handle) : StateM Gateway Unit := do
  emit? (← call (·.closeStream h))

end Gateway

end EpubAccess
