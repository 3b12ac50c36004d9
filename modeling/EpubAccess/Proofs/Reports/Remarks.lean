/-
  EpubAccess.Proofs.Reports.Remarks
  ────────────────────────────────
  Which operations leave an error in the log, and which one.

  A remark is an event that is an error, or that says that a resource could
  not be reached.  `Remarking r m` says of the work `m` that it makes the
  remark `r`, or none, wherever it starts.

  The reports of misuse are functions of the object and the operation:
  `StreamOp.misuse?`, `Package.misuse?`, `Container.misuse?` and
  `OwnedHandle.misuse?`.

  Main results, one for each family of operations:

    • `StreamOp.run_remarking`: a stream that was closed reports each
      operation once, also where operations call each other,
    • `Package.openStream_remarking` and its siblings,
    • `FetchOp.run_remarking`: a fetch reports no misuse at all,
    • `OwnedHandle.drop_unremarked`: an owner that goes away reports none.
-/
import EpubAccess.Engine.Request
import EpubAccess.Package.ContentDescription
import EpubAccess.Proofs.Fetches.Moves
import EpubAccess.Stream.Operation

namespace EpubAccess

open Stateful

/-! ## §1. Remarks. -/

/-- Is the event an error? -/
def Event.isError (e : Event) : Bool := e.level == .error

/-- Is the event an error, or about a resource that could not be reached? -/
def Event.isRemark : Event → Bool
  | .resourceUnreachable _ => true
  | e => e.isError

/-- Errors are remarks. -/
theorem Event.isRemark_of_isError {e : Event} (h : e.isError = true) : e.isRemark = true := by
  cases e <;> first | exact h | rfl

/-- What is reported on a condition is an error if the report is one. -/
theorem Event.isError_of_ite {b : Prop} [Decidable b] {e e' : Event} (he : e.isError = true)
    (h : (if b then some e else none) = some e') : e'.isError = true := by
  split at h
  · obtain rfl := Option.some.inj h
    exact he
  · exact absurd h (by simp)

namespace Gateway

variable {α β : Type} {r : Option Event} {g g' g'' : Gateway}

/-- The work that led from `g` to `g'` made the remark `r`, or none. -/
def Remarks (r : Option Event) (g g' : Gateway) : Prop :=
  ∃ new, g'.events.toList = g.events.toList ++ new ∧ new.filter Event.isRemark = r.toList

namespace Remarks

theorem same (h : g'.events = g.events) : Remarks none g g' := ⟨[], by rw [h]; simp, rfl⟩

theorem refl (g : Gateway) : Remarks none g g := same rfl

/-- The remark comes first. -/
theorem before (h : Remarks r g g') (h' : Remarks none g' g'') : Remarks r g g'' := by
  obtain ⟨new, hlog, hnew⟩ := h
  obtain ⟨new', hlog', hnew'⟩ := h'
  refine ⟨new ++ new', by rw [hlog', hlog, List.append_assoc], ?_⟩
  rw [List.filter_append, hnew, hnew']
  exact List.append_nil _

/-- The remark comes last. -/
theorem after (h : Remarks none g g') (h' : Remarks r g' g'') : Remarks r g g'' := by
  obtain ⟨new, hlog, hnew⟩ := h
  obtain ⟨new', hlog', hnew'⟩ := h'
  refine ⟨new ++ new', by rw [hlog', hlog, List.append_assoc], ?_⟩
  rw [List.filter_append, hnew, hnew']
  rfl

/-- The errors of some work are those among its remarks. -/
theorem errors (h : Remarks r g g') :
    g'.events.toList.filter Event.isError
      = g.events.toList.filter Event.isError ++ r.toList.filter Event.isError := by
  obtain ⟨new, hlog, hnew⟩ := h
  have hboth : (fun e : Event => e.isError && e.isRemark) = Event.isError := by
    funext e
    cases he : e.isError with
    | false => rfl
    | true => rw [Event.isRemark_of_isError he]; rfl
  rw [hlog, List.filter_append, ← hnew, List.filter_filter, hboth]

end Remarks

/-- Work that makes the remark `r`, or none, and answers as `post` says. -/
def Remarking (r : Option Event) (post : α → Prop) (m : StateM Gateway α) : Prop :=
  ∀ g, Remarks r g (m g).2 ∧ post (m g).1

/-- Work that makes no remark. -/
abbrev Unremarked (m : StateM Gateway α) : Prop := Remarking none (fun _ => True) m

namespace Remarking

variable {P : α → Prop} {Q : β → Prop} {m : StateM Gateway α} {f : α → StateM Gateway β}

theorem pure {a : α} (h : P a) : Remarking none P (pure a) := fun g => ⟨.refl g, h⟩

/-- The first part makes the remark. -/
theorem before (hm : Remarking r P m) (hf : ∀ a, P a → Remarking none Q (f a)) :
    Remarking r Q (m >>= f) := by
  intro g
  obtain ⟨hg, ha⟩ := hm g
  obtain ⟨hg', hb⟩ := hf (m g).1 ha (m g).2
  exact ⟨hg.before hg', hb⟩

/-- The second part makes the remark. -/
theorem after (hm : Remarking none P m) (hf : ∀ a, P a → Remarking r Q (f a)) :
    Remarking r Q (m >>= f) := by
  intro g
  obtain ⟨hg, ha⟩ := hm g
  obtain ⟨hg', hb⟩ := hf (m g).1 ha (m g).2
  exact ⟨hg.after hg', hb⟩

theorem weaken (hm : Remarking r P m) {Q : α → Prop} (h : ∀ a, P a → Q a) :
    Remarking r Q m := by
  intro g
  exact ⟨(hm g).1, h _ (hm g).2⟩

/-- Work that leaves the log alone. -/
theorem silent (h : ∀ g, (m g).2.events = g.events) : Unremarked m :=
  fun g => ⟨.same (h g), trivial⟩

/-- An event that is a remark. -/
theorem emit {e : Event} (he : e.isRemark = true) :
    Remarking (some e) (fun _ => True) (Gateway.emit e) := by
  refine fun g => ⟨⟨[e], Array.toList_push, ?_⟩, trivial⟩
  rw [List.filter_cons_of_pos he]
  rfl

/-- An event that is none. -/
theorem emit_plain {e : Event} (he : e.isRemark = false) : Unremarked (Gateway.emit e) := by
  refine fun g => ⟨⟨[e], Array.toList_push, ?_⟩, trivial⟩
  rw [List.filter_cons_of_neg (by simp [he])]
  rfl

/-- What the engine has to say about a handle that it took back is no remark. -/
theorem emit?_plain {e? : Option Event} (he : ∀ e ∈ e?, e.isRemark = false) :
    Unremarked (Gateway.emit? e?) := by
  cases e? with
  | none => exact .pure trivial
  | some e => exact .emit_plain (he e rfl)

theorem call (f : Engine → α × Engine) : Unremarked (Gateway.call f) := .silent fun _ => rfl

theorem refusable (refusals : Faults → Nat) (set : Nat → Faults → Faults)
    (f : Engine → Option Handle × Engine) : Unremarked (Gateway.refusable refusals set f) := by
  refine .silent fun g => ?_
  unfold Gateway.refusable
  split <;> rfl

theorem answerable (waiting : Faults → List α) (set : List α → Faults → Faults)
    (f : Engine → α × Engine) : Unremarked (Gateway.answerable waiting set f) := by
  refine .silent fun g => ?_
  unfold Gateway.answerable
  split <;> rfl

theorem fallible (waiting : Faults → List EngineError) (set : List EngineError → Faults → Faults)
    (f : Engine → Except EngineError α × Engine) :
    Unremarked (Gateway.fallible waiting set f) := by
  refine .silent fun g => ?_
  unfold Gateway.fallible
  split <;> rfl

theorem foldlM {f : α → β → StateM Gateway α} (hf : ∀ a b, Unremarked (f a b)) (l : List β)
    (a : α) : Unremarked (l.foldlM f a) := by
  induction l generalizing a with
  | nil => exact .pure trivial
  | cons b l ih =>
    rw [List.foldlM_cons]
    exact .before (hf a b) fun a' _ => ih a'

end Remarking

/-- Of a handle taken back the engine says at most that it did not know it, or
that its container is still there. -/
theorem takeBack_unremarked (e : Engine) (h : Handle) :
    ∀ n ∈ (e.takeBack h).1, Event.isRemark n = false := by
  intro n hn
  unfold Engine.takeBack at hn
  cases ho : e.live[h]? with
  | none =>
    rw [ho] at hn
    obtain rfl := Option.some.inj hn
    rfl
  | some o =>
    rw [ho] at hn
    cases o with
    | package c a i =>
      dsimp only at hn
      split at hn
      · obtain rfl := Option.some.inj hn
        rfl
      · exact absurd hn (by simp)
    | container a => exact absurd hn (by simp)
    | stream c => exact absurd hn (by simp)

theorem releaseHandle_unremarked (h : Handle) : Unremarked (releaseHandle h) := by
  intro g
  exact ⟨(Remarking.emit?_plain (takeBack_unremarked (g.engine.record (.releaseHandle h)) h) _).1,
    trivial⟩

theorem closeStream_unremarked (h : Handle) : Unremarked (closeStream h) := by
  intro g
  exact ⟨(Remarking.emit?_plain (takeBack_unremarked (g.engine.record (.closeStream h)) h) _).1,
    trivial⟩

theorem openArchive_unremarked (path : String) : Unremarked (openArchive path) :=
  .refusable _ _ _

theorem containerVersion_unremarked (h : Handle) : Unremarked (containerVersion h) := .call _

theorem packages_unremarked (h : Handle) : Unremarked (packages h) := .call _

theorem noteHint_unremarked (hint : UInt64) : Unremarked (noteHint hint) := .silent fun _ => rfl

theorem openStream_unremarked (h : Handle) (path : String) (hint : UInt64) (ranged : Bool) :
    Unremarked (openStream h path hint ranged) :=
  .before (noteHint_unremarked hint) fun _ _ => .refusable _ _ _

theorem openRawStream_unremarked (h : Handle) (path : String) (hint : UInt64) :
    Unremarked (openRawStream h path hint) :=
  .before (noteHint_unremarked hint) fun _ _ => .refusable _ _ _

/-! Operations on the cursor of a stream. -/

section Cursors

variable (h : Handle)

theorem readBytes_unremarked (n : UInt64) : Unremarked (readBytes h n) := .answerable _ _ _

theorem readAll_unremarked (cap : UInt64) : Unremarked (readAll h cap) := .answerable _ _ _

theorem readRange_unremarked (offset n : UInt64) : Unremarked (readRange h offset n) :=
  .answerable _ _ _

theorem skip_unremarked (n : UInt64) : Unremarked (skip h n) := .fallible _ _ _

theorem mark_unremarked : Unremarked (mark h) := .fallible _ _ _

theorem reset_unremarked (toMark : Bool) : Unremarked (reset h toMark) := .fallible _ _ _

theorem available_unremarked : Unremarked (available h) := .answerable _ _ _

end Cursors

end Gateway

open Gateway (Remarking Unremarked)

/-! ## §2. Handles in the hands of an owner. -/

namespace OwnedHandle

variable (x : OwnedHandle)

/-- What is reported of a handle that is to be given back again. -/
def misuse? : Option Event := if x.released then some (.releasedTwice x.kind x.handle) else none

theorem isError_of_misuse? {e : Event} : x.misuse? = some e → e.isError = true :=
  Event.isError_of_ite rfl

theorem giveBack_unremarked : Unremarked (x.giveBack : StateM Gateway Unit) := by
  unfold giveBack
  cases x.kind with
  | container => exact Gateway.releaseHandle_unremarked _
  | package => exact Gateway.releaseHandle_unremarked _
  | stream => exact Gateway.closeStream_unremarked _

/-- A request to give a handle back is reported if it is a second one. -/
theorem release_remarking :
    Remarking x.misuse? (fun r => r.1 = !x.released) (x.release : StateM Gateway _) := by
  unfold release misuse?
  cases x.released with
  | true => exact .before (.emit rfl) fun _ _ => .pure rfl
  | false => exact .before x.giveBack_unremarked fun _ _ => .pure rfl

/-- **An owner that goes away reports no misuse**, whether the handle was given
back or not. -/
theorem drop_unremarked : Unremarked (x.drop : StateM Gateway Unit) := by
  unfold drop
  split
  · exact .pure trivial
  · exact .before (.emit_plain rfl) fun _ _ => x.giveBack_unremarked

end OwnedHandle

/-! ## §3. Streams. -/

namespace ContentStream

variable (s : ContentStream)

/-- What is reported of an operation that needs the stream to be open. -/
def misuse? (access : StreamAccess) : Option Event :=
  if s.isClosed then some (.closedStreamUsed access s.handle.handle s.path) else none

theorem isError_of_misuse? {access : StreamAccess} {e : Event} :
    s.misuse? access = some e → e.isError = true := Event.isError_of_ite rfl

variable {s}

theorem misuse?_of_open (hs : s.isClosed = false) (access : StreamAccess) :
    s.misuse? access = none := by
  unfold misuse?
  rw [hs]
  rfl

theorem isClosed_congr {s' : ContentStream} (h : s'.handle = s.handle) :
    s'.isClosed = s.isClosed := by
  unfold isClosed
  rw [h]

variable (s)

theorem ofHandle_unremarked (h : Handle) (path : String) (cap : UInt64) :
    Remarking none (fun s => s.isClosed = false) (ofHandle h path cap : StateM Gateway _) :=
  .before (Gateway.available_unremarked h) fun _ _ =>
    .before (.emit_plain rfl) fun _ _ => .pure rfl

/-- An operation that asks for the handle first: the report is made there, and
what follows on an open stream makes none. -/
theorem live_bind_remarking {β : Type} {post : β → Prop} {f : Option Handle → StateM Gateway β}
    {access : StreamAccess} (hnone : s.isClosed = true → Remarking none post (f none))
    (hsome : s.isClosed = false → ∀ h, Remarking none post (f (some h))) :
    Remarking (s.misuse? access) post (s.live access >>= f) := by
  unfold live misuse? OwnedHandle.get?
  cases hs : s.isClosed with
  | true =>
    rw [show s.handle.released = true from hs]
    exact .before (P := (· = none)) (.before (.emit rfl) fun _ _ => .pure rfl)
      fun _ h => h ▸ hnone hs
  | false =>
    rw [show s.handle.released = false from hs]
    exact .before (P := (· = some s.handle.handle)) (.pure rfl) fun _ h => h ▸ hsome hs _

theorem available_remarking :
    Remarking (s.misuse? .available) (fun _ => True) (s.available : StateM Gateway _) :=
  s.live_bind_remarking (fun _ => .pure trivial) fun _ h => Gateway.available_unremarked h

/-- A closed stream gives no bytes. -/
theorem read_remarking (n : UInt64) :
    Remarking (s.misuse? .read)
      (fun r => r.2.handle = s.handle ∧ (s.isClosed = true → r.1 = .empty))
      (s.read n : StateM Gateway _) := by
  refine s.live_bind_remarking (fun _ => .pure ⟨rfl, fun _ => rfl⟩) fun hs h => ?_
  have hopen : ∀ bytes : ByteArray, s.isClosed = true → bytes = .empty :=
    fun _ hc => absurd (hs.symm.trans hc) (by simp)
  dsimp only
  split
  · exact .pure ⟨rfl, fun _ => rfl⟩
  · exact .before (Gateway.readBytes_unremarked h _) fun bytes _ => .pure ⟨rfl, hopen bytes⟩

/-- Reads one after the other: a stream that was closed ends them with the
first. -/
theorem readChunks_remarking (chunk : UInt64) (room : Nat) :
    ∀ (front : ByteArray) (s : ContentStream),
      Remarking (s.misuse? .read) (fun r => r.2.handle = s.handle)
        (readChunks chunk (room + 1) front s : StateM Gateway _) := by
  induction room with
  | zero =>
    intro front s
    refine .before (s.read_remarking chunk) fun r hr => ?_
    dsimp only
    split <;> exact .pure hr.1
  | succ room ih =>
    intro front s
    refine .before (s.read_remarking chunk) fun r hr => ?_
    obtain ⟨hhandle, hempty⟩ := hr
    dsimp only
    split
    · exact .pure hhandle
    · next hbytes =>
      -- there were bytes, so the stream is open, and stays so
      have hopen : r.2.isClosed = false := by
        cases hs : s.isClosed with
        | false => exact (isClosed_congr hhandle).trans hs
        | true => exact absurd (by rw [hempty hs]; rfl) hbytes
      have hrest := ih (front ++ r.1) r.2
      rw [misuse?_of_open hopen] at hrest
      exact hrest.weaken fun _ h => h.trans hhandle

theorem readAll_remarking :
    Remarking (s.misuse? .readAll) (fun r => r.2.handle = s.handle)
      (s.readAll : StateM Gateway _) :=
  s.live_bind_remarking (fun _ => .pure rfl) fun _ h =>
    .before (Gateway.readAll_unremarked h _) fun _ _ => .pure rfl

theorem readRange_remarking (offset n : UInt64) :
    Remarking (s.misuse? .readRange) (fun r => r.2.handle = s.handle)
      (s.readRange offset n : StateM Gateway _) := by
  refine s.live_bind_remarking (fun _ => .pure rfl) fun _ h => ?_
  dsimp only
  split
  · exact .pure rfl
  · refine .before (Gateway.readRange_unremarked h offset _) fun r _ => ?_
    cases r <;> exact .pure rfl

theorem skip_remarking (n : UInt64) :
    Remarking (s.misuse? .skip) (fun r => r.2.handle = s.handle) (s.skip n : StateM Gateway _) := by
  refine s.live_bind_remarking (fun _ => .pure rfl) fun _ h => ?_
  dsimp only
  split
  · exact .pure rfl
  · refine .before (Gateway.skip_unremarked h _) fun r _ => ?_
    cases r <;> exact .pure rfl

theorem setMark_remarking :
    Remarking (s.misuse? .mark) (fun r => r.2.handle = s.handle)
    (s.setMark : StateM Gateway _) := by
  refine s.live_bind_remarking (fun _ => .pure rfl) fun _ h => ?_
  refine .before (Gateway.mark_unremarked h) fun r _ => ?_
  cases r <;> exact .pure rfl

theorem reset_remarking (toMark : Bool) :
    Remarking (s.misuse? .reset) (fun r => r.2.handle = s.handle)
      (s.reset toMark : StateM Gateway _) := by
  refine s.live_bind_remarking (fun _ => .pure rfl) fun _ h => ?_
  refine .before (Gateway.reset_unremarked h toMark) fun r _ => ?_
  cases r <;> exact .pure rfl

/-- Seeking rewinds and skips; a closed stream reports it once, and not again
in the operations that it is made of. -/
theorem seek_remarking (place : UInt64) :
    Remarking (s.misuse? .seek) (fun r => r.2.handle = s.handle)
      (s.seek place : StateM Gateway _) := by
  refine s.live_bind_remarking (fun _ => .pure rfl) fun hs _ => ?_
  have hreset := s.reset_remarking false
  rw [misuse?_of_open hs] at hreset
  refine .before hreset fun r hr => ?_
  obtain ⟨r, s'⟩ := r
  cases r with
  | error e => exact .pure hr
  | ok _ =>
    have hskip := s'.skip_remarking place
    rw [misuse?_of_open ((isClosed_congr hr).trans hs)] at hskip
    exact hskip.weaken fun _ h => h.trans hr

end ContentStream

namespace StreamOp

variable (s : ContentStream)

/-- The access that an operation is reported as; one that needs no open stream,
or whose target is no position, is not. -/
def access? : StreamOp → Option StreamAccess
  | read _ | readInto _ | readToEnd _ => some .read
  | available => some .available
  | readAll => some .readAll
  | readRange _ _ => some .readRange
  | skip _ => some .skip
  | mark => some .mark
  | reset _ => some .reset
  | seek _ => some .seek
  | seekTo t => (s.target? t).map fun target => if s.position ≤ target then .skip else .seek
  | position | close => none

/-- What is reported of an operation. -/
def misuse? (op : StreamOp) : Option Event :=
  match op with
  | close => s.handle.misuse?
  | op => (op.access? s).bind s.misuse?

theorem isError_of_misuse? {op : StreamOp} {e : Event} (h : op.misuse? s = some e) :
    e.isError = true := by
  unfold misuse? at h
  split at h
  · exact s.handle.isError_of_misuse? h
  · obtain ⟨access, -, hs⟩ := Option.bind_eq_some_iff.mp h
    exact s.isError_of_misuse? hs

/-- **A closed stream reports every use of it once**, and an open one none; the
handle stays where it is until it is given back. -/
theorem run_remarking (op : StreamOp) :
    Remarking (op.misuse? s) (fun r => op.closes = false → r.2.handle = s.handle)
      (op.run s : StateM Gateway _) := by
  cases op with
  | read n => exact .before (s.read_remarking n) fun _ h => .pure fun _ => h.1
  | readInto buffer =>
    have hread : Remarking (s.misuse? .read) (fun r => r.2.handle = s.handle)
        (s.readInto buffer : StateM Gateway _) :=
      .before (s.read_remarking _) fun _ h => .pure h.1
    exact .before hread fun _ h => .pure fun _ => h
  | readToEnd chunk =>
    exact .before (ContentStream.readChunks_remarking chunk _ .empty s) fun _ h => .pure fun _ => h
  | available => exact .before s.available_remarking fun _ _ => .pure fun _ => rfl
  | readAll => exact .before s.readAll_remarking fun _ h => .pure fun _ => h
  | readRange offset n => exact .before (s.readRange_remarking offset n) fun _ h => .pure fun _ => h
  | skip n => exact .before (s.skip_remarking n) fun _ h => .pure fun _ => h
  | mark => exact .before s.setMark_remarking fun _ h => .pure fun _ => h
  | reset toMark => exact .before (s.reset_remarking toMark) fun _ h => .pure fun _ => h
  | seek place => exact .before (s.seek_remarking place) fun _ h => .pure fun _ => h
  | seekTo t =>
    refine .before (P := fun r => r.2.handle = s.handle) ?_ fun _ h => .pure fun _ => h
    show Remarking (((s.target? t).map _).bind s.misuse?) _ (s.seekTo t)
    unfold ContentStream.seekTo
    cases s.target? t with
    | none => exact .pure rfl
    | some target =>
      simp only [Option.map_some, Option.bind_some]
      split
      · refine .before (s.skip_remarking _) fun r h => ?_
        obtain ⟨r, s'⟩ := r
        cases r <;> exact .pure h
      · refine .before (s.seek_remarking _) fun r h => ?_
        obtain ⟨r, s'⟩ := r
        cases r <;> exact .pure h
  | position => exact .pure fun _ => rfl
  | close =>
    refine .before (P := fun _ => True) ?_ fun _ _ => .pure fun h => absurd h (by simp [closes])
    refine .before s.handle.release_remarking fun r _ => ?_
    obtain ⟨done, handle⟩ := r
    cases done with
    | true => exact .before (.emit_plain rfl) fun _ _ => .pure trivial
    | false => exact .pure trivial

end StreamOp

/-- Closing a stream that is open reports nothing. -/
theorem ContentStream.close_unremarked {s : ContentStream} (hs : s.isClosed = false) :
    Unremarked (s.close : StateM Gateway _) := by
  intro g
  have hclose := (StreamOp.run_remarking s .close g).1
  have hnone : StreamOp.misuse? s .close = none := by
    show s.handle.misuse? = none
    unfold OwnedHandle.misuse?
    rw [show s.handle.released = false from hs]
    rfl
  rw [hnone] at hclose
  exact ⟨hclose, trivial⟩

/-! ## §4. Packages. -/

namespace Package

variable (p : Package) (attached : Bool)

/-- What is reported of an operation that needs the package to be open. -/
def misuse? (access : PackageAccess) : Option Event :=
  if p.isClosed then some (.closedPackageUsed access p.handle.handle) else none

/-- What is reported of a package that is to be attached to a container. -/
def attachMisuse? : Option Event :=
  if p.link.isSome then some (.packageAttachedTwice p.handle.handle) else none

theorem isError_of_misuse? {access : PackageAccess} {e : Event} :
    p.misuse? access = some e → e.isError = true := Event.isError_of_ite rfl

/-- What is reported of an open package whose container is not there. -/
def unreached? (path : String) : Option Event :=
  if p.isClosed then none
  else if attached then none
  else some (.resourceUnreachable path)

variable {p attached} in
theorem eq_of_unreached? {path : String} {e : Event} (h : p.unreached? attached path = some e) :
    e = .resourceUnreachable path := by
  unfold unreached? at h
  split at h
  · exact absurd h (by simp)
  · split at h
    · exact absurd h (by simp)
    · exact (Option.some.inj h).symm

theorem load_unremarked (h : Handle) (config : Config) : Unremarked (load h config) := by
  have hfield : ∀ m field, Unremarked (loadField h m field) :=
    fun _ _ => .before (.call _) fun _ _ => .pure trivial
  have hmetadata : Unremarked (loadMetadata h) :=
    .before (.foldlM hfield _ _) fun _ _ => .before (.call _) fun _ _ =>
      .before (.call _) fun _ _ => .before (.call _) fun _ _ => .before (.call _) fun _ _ =>
        .before (.call _) fun _ _ => .before (.call _) fun _ _ => .pure trivial
  exact .before hmetadata fun _ _ => .before (.call _) fun _ _ => .before (.call _) fun _ _ =>
    .before (.call _) fun _ _ => .before (.emit_plain rfl) fun _ _ => .pure trivial

theorem close_remarking : Remarking p.handle.misuse? (fun _ => True) p.close := by
  refine .before p.handle.release_remarking fun r _ => ?_
  obtain ⟨done, handle⟩ := r
  cases done with
  | true => exact .before (.emit_plain rfl) fun _ _ => .pure trivial
  | false => exact .pure trivial

/-- An operation that asks for the handle first: a closed package reports it,
and an open one makes the remark `r` of what follows. -/
theorem live_bind_remarking {β : Type} {post : β → Prop} {f : Option Handle → StateM Gateway β}
    {access : PackageAccess} {r : Option Event}
    (hnone : Remarking none post (f none)) (hsome : ∀ h, Remarking r post (f (some h))) :
    Remarking ((p.misuse? access).or (if p.isClosed then none else r)) post
      (p.live access >>= f) := by
  unfold live misuse? OwnedHandle.get?
  cases hs : p.isClosed with
  | true =>
    rw [show p.handle.released = true from hs]
    exact .before (P := (· = none)) (.before (.emit rfl) fun _ _ => .pure rfl)
      fun _ h => h ▸ hnone
  | false =>
    rw [show p.handle.released = false from hs]
    exact .after (P := (· = some p.handle.handle)) (.pure rfl) fun _ h => h ▸ hsome _

/-- The same where what follows makes no remark. -/
theorem live_bind_misuse {β : Type} {post : β → Prop} {f : Option Handle → StateM Gateway β}
    {access : PackageAccess} (hnone : Remarking none post (f none))
    (hsome : ∀ h, Remarking none post (f (some h))) :
    Remarking (p.misuse? access) post (p.live access >>= f) := by
  have h : Remarking ((p.misuse? access).or _) post (p.live access >>= f) :=
    p.live_bind_remarking hnone hsome
  rwa [ite_self, Option.or_none] at h

theorem property_remarking (name vocabulary : String) :
    Remarking (p.misuse? .property) (fun _ => True) (p.property name vocabulary) :=
  p.live_bind_misuse (.pure trivial) fun _ => .call _

theorem hasProperty_remarking (name vocabulary : String) :
    Remarking (p.misuse? .hasProperty) (fun _ => True) (p.hasProperty name vocabulary) :=
  p.live_bind_misuse (.pure trivial) fun _ => .call _

theorem navigation_remarking (kind : NavKind) :
    Remarking (p.misuse? .navigation) (fun _ => True) (p.navigation kind) := by
  refine p.live_bind_misuse (.pure trivial) fun h => ?_
  dsimp only
  split
  · exact .pure trivial
  · exact .before (.emit_plain rfl) fun _ _ => .before (.call _) fun _ _ => .pure trivial

theorem describe_unremarked : Unremarked p.describe := by
  unfold describe
  cases Overlay.ofText? p.mediaOverlay with
  | malformed => exact .before (.emit_plain rfl) fun _ _ => .pure trivial
  | _ => exact .pure trivial

/-! ### Content. -/

theorem reach_remarking (path : String) :
    Remarking (if attached then none else some (.resourceUnreachable path)) (fun _ => True)
      (reach attached path) := by
  unfold reach
  split
  · exact .pure trivial
  · exact .before (.emit rfl) fun _ _ => .pure trivial

theorem streamOver_unremarked (path : String) (h : Option Handle) :
    Remarking none (fun r => ∀ s ∈ r, s.isClosed = false) (p.streamOver path h) := by
  cases h with
  | none => exact .pure (by simp)
  | some h =>
    refine .before (ContentStream.ofHandle_unremarked h path _) fun s hs => .pure ?_
    intro s' hs'
    obtain rfl := Option.some.inj hs'
    exact hs

/-- **A closed package reports that it was asked for a stream**; an open one
says only whether its container is there. -/
theorem openStream_remarking (path : String) (ranged : Bool) :
    Remarking ((p.misuse? .openStream).or (p.unreached? attached path))
      (fun r => ∀ s ∈ r, s.isClosed = false) (p.openStream attached path ranged) := by
  refine p.live_bind_remarking (.pure (by simp)) fun h => .before (reach_remarking attached path) ?_
  intro there _
  cases there with
  | true =>
    exact .before (Gateway.openStream_unremarked h path _ ranged) fun _ _ =>
      p.streamOver_unremarked path _
  | false => exact .pure (by simp)

theorem openRawStream_remarking (path : String) :
    Remarking ((p.misuse? .openRawStream).or (p.unreached? attached path))
      (fun r => ∀ s ∈ r, s.isClosed = false) (p.openRawStream attached path) := by
  refine p.live_bind_remarking (.pure (by simp)) fun h => .before (reach_remarking attached path) ?_
  intro there _
  cases there with
  | true =>
    exact .before (Gateway.openRawStream_unremarked h path _) fun _ _ =>
      p.streamOver_unremarked path _
  | false => exact .pure (by simp)

theorem probeSize_remarking (path : String) :
    Remarking ((p.misuse? .probeSize).or (p.unreached? attached path)) (fun _ => True)
      (p.probeSize attached path) := by
  refine p.live_bind_remarking (.pure trivial) fun h => .before (reach_remarking attached path) ?_
  intro there _
  cases there with
  | true =>
    exact .before (Gateway.Remarking.answerable _ _ (·.probeSize h path)) fun _ _ => .pure trivial
  | false => exact .pure trivial

end Package

/-! ## §5. Fetches. -/

namespace Fetch

variable {f : Fetch} (p : Package) (attached : Bool)

/-- What is reported when the fetch has to open a stream. -/
def unreached? (f : Fetch) (p : Package) (attached : Bool) : Option Event :=
  if f.hasStream then none else p.unreached? attached f.path

variable {p attached} in
theorem eq_of_unreached? {e : Event} (h : f.unreached? p attached = some e) :
    e = .resourceUnreachable f.path := by
  unfold unreached? at h
  split at h
  · exact absurd h (by simp)
  · exact Package.eq_of_unreached? h

/-- The stream that a fetch holds, if any, is open. -/
def Fresh (f : Fetch) : Prop := ∀ s ∈ f.stream, s.isClosed = false

theorem Holds.fresh (h : f.Holds) : f.Fresh := by
  intro s hs
  have hopen : s.handle = .take s.handle.handle .stream := (h s hs).1
  unfold ContentStream.isClosed
  rw [hopen]
  rfl

/-- What is there after a stream was asked for is open. -/
def Usable (r : Except AccessError ContentStream × Fetch) : Prop :=
  r.2.Fresh ∧ ∀ s, r.1 = .ok s → s.isClosed = false

/-- A fetch asks the package for nothing that would be reported: it looks first
whether the package is open. -/
theorem ensureStream_remarking (hf : f.Fresh) (ranged : Bool) :
    Remarking (f.unreached? p attached) Usable (f.ensureStream p attached ranged) := by
  unfold unreached? hasStream
  cases hs : f.stream with
  | some s =>
    intro g
    rw [ensureStream_of_some hs]
    refine ⟨.refl g, hf, ?_⟩
    intro s' hs'
    cases hs'
    exact hf s hs
  | none =>
    cases hp : p.isClosed with
    | true =>
      have hnone : p.unreached? attached f.path = none := by
        unfold Package.unreached?
        rw [hp]
        rfl
      rw [hnone]
      intro g
      rw [ensureStream_of_closed hs hp]
      exact ⟨.refl g, hf, fun s h => absurd h (by simp)⟩
    | false =>
      have hopen : ∀ access, p.misuse? access = none := by
        intro access
        unfold Package.misuse?
        rw [hp]
        rfl
      have hraw := p.openRawStream_remarking attached f.path
      have hfiltered := p.openStream_remarking attached f.path ranged
      rw [hopen] at hraw hfiltered
      have hopening : Remarking (p.unreached? attached f.path)
          (fun r => ∀ s ∈ r, s.isClosed = false) (f.opening p attached ranged) := by
        unfold opening
        split
        · exact hraw
        · exact hfiltered
      rw [ensureStream_of_none hs hp, map_eq_pure_bind]
      refine .before hopening fun r hr => ?_
      cases r with
      | none => exact .pure ⟨hf, fun s h => absurd h (by simp [keep])⟩
      | some s =>
        refine .pure ⟨hr, ?_⟩
        intro s' hs'
        cases hs'
        exact hr s rfl

theorem close_unremarked (hf : f.Fresh) : Unremarked f.close := by
  unfold close
  cases hs : f.stream with
  | none => exact .pure trivial
  | some s => exact .before (ContentStream.close_unremarked (hf s hs)) fun _ _ => .pure trivial

theorem readAll_remarking (hf : f.Fresh) :
    Remarking (f.unreached? p attached) (fun _ => True) (f.readAll p attached) := by
  refine .before (ensureStream_remarking p attached hf false) fun r hr => ?_
  obtain ⟨r, f'⟩ := r
  cases r with
  | error e => exact .before (.emit_plain rfl) fun _ _ => .pure trivial
  | ok s =>
    have hopen := hr.2 s rfl
    have hread := s.readAll_remarking
    rw [ContentStream.misuse?_of_open hopen] at hread
    refine .before hread fun r hhandle => ?_
    refine .before (close_unremarked ?_) fun _ _ => .pure trivial
    intro s' hs'
    obtain rfl := Option.some.inj hs'
    exact (ContentStream.isClosed_congr hhandle).trans hopen

theorem readRange_remarking (hf : f.Fresh) (offset n : UInt64) :
    Remarking (f.unreached? p attached) (fun _ => True) (f.readRange p attached offset n) := by
  refine .before (ensureStream_remarking p attached hf true) fun r hr => ?_
  obtain ⟨r, f'⟩ := r
  cases r with
  | error e => exact .before (.emit_plain rfl) fun _ _ => .pure trivial
  | ok s =>
    have hopen := hr.2 s rfl
    dsimp only
    split
    · exact .before (close_unremarked hr.1) fun _ _ => .pure trivial
    · have hread := s.readRange_remarking offset n
      rw [ContentStream.misuse?_of_open hopen] at hread
      refine .before hread fun r hhandle => ?_
      obtain ⟨r, s'⟩ := r
      have hfresh : { f' with stream := some s' : Fetch }.Fresh := by
        intro s'' hs''
        obtain rfl := Option.some.inj hs''
        exact (ContentStream.isClosed_congr hhandle).trans hopen
      cases r with
      | ok bytes => exact .before (close_unremarked hfresh) fun _ _ => .pure trivial
      | error e =>
        exact .before (.emit_plain rfl) fun _ _ => .before (close_unremarked hfresh) fun _ _ =>
          .pure trivial

theorem handOver_remarking (hf : f.Fresh) (ranged : Bool) :
    Remarking (f.unreached? p attached) (fun r => r.2.Fresh) (f.handOver p attached ranged) := by
  refine .before (ensureStream_remarking p attached hf ranged) fun r hr => ?_
  obtain ⟨r, f'⟩ := r
  cases r with
  | error e => exact .before (.emit_plain rfl) fun _ _ => .pure hr.1
  | ok s => exact .pure (fun s hs => absurd hs (by simp))

end Fetch

/-- What is reported of an operation of a fetch; closing opens nothing. -/
def FetchOp.unreached? (f : Fetch) (p : Package) (attached : Bool) : FetchOp → Option Event
  | close => none
  | _ => f.unreached? p attached

/-- **No operation of a fetch reports a misuse**, whatever became of its
package. -/
theorem FetchOp.run_remarking {f : Fetch} (hf : f.Fresh) (p : Package) (attached : Bool)
    (op : FetchOp) :
    Remarking (op.unreached? f p attached) (fun _ => True) (op.run f p attached) := by
  cases op with
  | ensureStream ranged =>
    refine .before (Fetch.ensureStream_remarking p attached hf ranged) fun r _ => ?_
    obtain ⟨r, f'⟩ := r
    cases r <;> exact .pure trivial
  | readAll => exact .before (Fetch.readAll_remarking p attached hf) fun _ _ => .pure trivial
  | readRange offset n =>
    exact .before (Fetch.readRange_remarking p attached hf offset n) fun _ _ => .pure trivial
  | close => exact .before (Fetch.close_unremarked hf) fun _ _ => .pure trivial

/-! ## §6. Containers. -/

namespace Container

variable (c : Container)

/-- What is reported of a file asked for from a closed container. -/
def misuse? : Option Event :=
  if c.isClosed then some (.closedContainerUsed c.handle.handle) else none

theorem isError_of_misuse? {e : Event} : c.misuse? = some e → e.isError = true :=
  Event.isError_of_ite rfl

theorem rawStream_remarking (path : String) :
    Remarking c.misuse? (fun r => ∀ s ∈ r, s.isClosed = false) (c.rawStream path) := by
  unfold rawStream misuse? OwnedHandle.get? isClosed
  cases c.handle.released with
  | true => exact .before (.emit rfl) fun _ _ => .pure (by simp)
  | false =>
    refine .before (.refusable _ _ (·.rawContainerStream c.handle.handle path)) fun h _ => ?_
    cases h with
    | none => exact .pure (by simp)
    | some h =>
      refine .before (ContentStream.ofHandle_unremarked h path _) fun s hs => .pure ?_
      intro s' hs'
      obtain rfl := Option.some.inj hs'
      exact hs

/-- A file asked for as bytes is reported once too, by the stream that it is
read through. -/
theorem rawBytes_remarking (path : String) :
    Remarking c.misuse? (fun _ => True) (c.rawBytes path) := by
  refine .before (c.rawStream_remarking path) fun r hr => ?_
  cases r with
  | none => exact .pure trivial
  | some s =>
    have hopen := hr s rfl
    have hread := s.readAll_remarking
    rw [ContentStream.misuse?_of_open hopen] at hread
    refine .before hread fun r hhandle => ?_
    have hopen' : r.2.isClosed = false := (ContentStream.isClosed_congr hhandle).trans hopen
    exact .before (ContentStream.close_unremarked hopen') fun _ _ => .pure trivial

end Container

end EpubAccess
