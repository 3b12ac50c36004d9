/-
  EpubAccess.Proofs.Streams.Following
  ────────────────────────────────
  A stream does what a plain cursor does.

  A stream keeps its position and mark as words and the engine keeps its own
  cursor; both are moved by separate code.  `ContentStream.Follows` says that
  they stand where one `PlainCursor` stands.  While no fault waits, every
  operation but closing answers as the plain cursor and leaves the stream
  following it (`StreamOp.run_follows`).
-/
import EpubAccess.Proofs.Ownership.Uses
import EpubAccess.Proofs.Streams.PlainCursor

namespace EpubAccess

open Stateful

/-! ## §1. Words and bytes. -/

theorem toNat_min (a b : UInt64) : (min a b).toNat = min a.toNat b.toNat := by
  show (if a ≤ b then a else b).toNat = _
  split
  · next h => rw [UInt64.le_iff_toNat_le] at h; omega
  · next h => rw [UInt64.le_iff_toNat_le] at h; omega

theorem ofNat_of_toNat {a : UInt64} {n : Nat} (h : a.toNat = n) : UInt64.ofNat n = a := by
  rw [← h, UInt64.ofNat_toNat]

theorem eq_zero_iff (a : UInt64) : a = 0 ↔ a.toNat = 0 := by
  rw [← UInt64.toNat_inj]
  rfl

/-- A sum that is the number of some bytes is not too large for a word. -/
theorem toNat_add_sizeOf {a : UInt64} {b : ByteArray}
    (h : a.toNat + b.size < 0x8000000000000000) :
    (a + ContentStream.sizeOf b).toNat = a.toNat + b.size := by
  have hb : b.size < UInt64.size := by
    show b.size < 18446744073709551616
    omega
  rw [UInt64.toNat_add, ContentStream.sizeOf, UInt64.toNat_ofNat_of_lt' hb]
  omega

/-! ## §2. Calls about a cursor. -/

namespace Gateway

/-- Without faults, the work is `f` on the cursor behind `h`. -/
def Works (h : Handle) (m : StateM Gateway α) (f : Cursor → α × Cursor) : Prop :=
  ∀ (g : Gateway) (c : Cursor), g.faults = .none → g.engine.live[h]? = some (.stream c) →
    (m g).1 = (f c).1 ∧ (m g).2.engine.live[h]? = some (.stream (f c).2) ∧ (m g).2.faults = .none

variable {h : Handle} {α : Type}

theorem call_works (k : Call) (absent : α) (f : Cursor → α × Cursor) :
    Works h (call fun e => (e.record k).onCursor h absent f) f := by
  intro g c hf hl
  have hrun : (g.engine.record k).onCursor h absent f
      = ((f c).1, { g.engine.record k with
          live := (g.engine.record k).live.insert h (.stream (f c).2) }) := by
    unfold Engine.onCursor
    rw [show (g.engine.record k).live[h]? = some (.stream c) from hl]
  refine ⟨?_, ?_, hf⟩
  · show ((g.engine.record k).onCursor h absent f).1 = _
    rw [hrun]
  · show ((g.engine.record k).onCursor h absent f).2.live[h]? = _
    rw [hrun]
    simp

theorem Works.answerable {waiting : Faults → List α} {set : List α → Faults → Faults}
    {f : Engine → α × Engine} {F : Cursor → α × Cursor} (hw : waiting .none = [])
    (hf : Works h (call f) F) : Works h (answerable waiting set f) F := by
  intro g c hg hl
  have hrun : Gateway.answerable waiting set f g = call f g := by
    unfold Gateway.answerable
    rw [hg, hw]
  rw [hrun]
  exact hf g c hg hl

theorem Works.fallible {waiting : Faults → List EngineError}
    {set : List EngineError → Faults → Faults} {f : Engine → Except EngineError α × Engine}
    {F : Cursor → Except EngineError α × Cursor} (hw : waiting .none = [])
    (hf : Works h (call f) F) : Works h (fallible waiting set f) F := by
  intro g c hg hl
  have hrun : Gateway.fallible waiting set f g = call f g := by
    unfold Gateway.fallible
    rw [hg, hw]
  rw [hrun]
  exact hf g c hg hl

theorem readBytes_works (n : UInt64) : Works h (readBytes h n) fun c => c.take n.toNat :=
  .answerable rfl (call_works _ _ _)

theorem readAll_works (cap : UInt64) : Works h (readAll h cap) fun c => c.take cap.toNat :=
  .answerable rfl (call_works _ _ _)

theorem readRange_works (offset n : UInt64) :
    Works h (readRange h offset n) fun c => c.readRange offset.toNat n.toNat :=
  .answerable rfl (call_works _ _ _)

theorem skip_works (n : UInt64) : Works h (skip h n) fun c => c.skip n.toNat :=
  .fallible rfl (call_works _ _ _)

theorem mark_works : Works h (mark h) Cursor.setMark :=
  .fallible rfl (call_works _ _ _)

theorem reset_works (toMark : Bool) : Works h (reset h toMark) fun c => c.reset toMark :=
  .fallible rfl (call_works _ _ _)

theorem available_works : Works h (available h) fun c => (UInt64.ofNat c.remaining, c) :=
  .answerable rfl (call_works _ _ _)

end Gateway

/-! ## §3. Streams and plain cursors. -/

/-- The engine's cursor that stands where the plain one stands. -/
def PlainCursor.behind (r : PlainCursor) : Cursor :=
  { contents := r.contents
    position := r.position
    mark := r.mark
    seekable := r.seekable
    ranged := r.ranged }

/-- An open stream goes on with its handle. -/
theorem ContentStream.live_of_open {σ : Type} [StreamEngine σ] {s : ContentStream}
    (hs : s.handle.released = false) (x : StreamAccess) :
    (s.live x : StateM σ (Option Handle)) = pure (some s.handle.handle) := by
  unfold ContentStream.live OwnedHandle.get?
  rw [hs]
  rfl

/-- What the declared length leaves from an offset on. -/
theorem ContentStream.toNat_leftFrom (s : ContentStream) (offset : UInt64) :
    (s.leftFrom offset).toNat = s.length.toNat - offset.toNat := by
  unfold ContentStream.leftFrom
  split
  · next hle => exact UInt64.toNat_sub_of_le _ _ hle
  · next hgt =>
    rw [UInt64.le_iff_toNat_le] at hgt
    show 0 = _
    omega

/-- The stream is open, and it and the engine stand where the plain cursor
stands.  No fault waits. -/
structure ContentStream.Follows (g : Gateway) (s : ContentStream) (r : PlainCursor) : Prop where
  calm : g.faults = .none
  isOpen : s.handle.released = false
  cursor : g.engine.live[s.handle.handle]? = some (.stream r.behind)
  position : s.position.toNat = r.position
  mark : s.mark.toNat = r.mark
  length : s.length.toNat = r.size
  cap : s.maxReadAll.toNat = r.cap
  within : r.Within

namespace ContentStream.Follows

variable {g : Gateway} {s : ContentStream} {r : PlainCursor}

/-- An open stream goes on with its handle. -/
theorem live_bind (h : s.Follows g r) {α : Type} (x : StreamAccess)
    (f : Option Handle → StateM Gateway α) :
    (s.live x >>= f) g = f (some s.handle.handle) g := by
  rw [live_of_open h.isOpen, pure_bind]

theorem size_lt (r : PlainCursor) : r.size < 0x8000000000000000 := r.contents.size_lt

theorem leftFrom (h : s.Follows g r) (offset : UInt64) :
    (s.leftFrom offset).toNat = r.size - offset.toNat := by
  rw [toNat_leftFrom, h.length]

theorem remaining (h : s.Follows g r) : s.remaining.toNat = r.left := by
  unfold ContentStream.remaining PlainCursor.left
  rw [h.leftFrom, h.position]

/-- The stream and the engine moved alike. -/
theorem moved (h : s.Follows g r) {g' : Gateway} {p m : UInt64} {p' m' : Nat}
    (hcalm : g'.faults = .none)
    (hl : g'.engine.live[s.handle.handle]?
      = some (.stream ({ r with position := p', mark := m' } : PlainCursor).behind))
    (hp : p.toNat = p') (hm : m.toNat = m') (hp' : p' ≤ r.size) (hm' : m' ≤ r.size) :
    ({ s with position := p, mark := m } : ContentStream).Follows g'
      { r with position := p', mark := m' } :=
  ⟨hcalm, h.isOpen, hl, hp, hm, h.length, h.cap, ⟨hp', hm'⟩⟩

/-- The engine's cursor did not move. -/
theorem stayed (h : s.Follows g r) {g' : Gateway} (hcalm : g'.faults = .none)
    (hl : g'.engine.live[s.handle.handle]? = some (.stream r.behind)) : s.Follows g' r :=
  ⟨hcalm, h.isOpen, hl, h.position, h.mark, h.length, h.cap, h.within⟩

end ContentStream.Follows

/-! ## §4. One operation. -/

namespace PlainCursor

variable {r : PlainCursor}

/-- Where reading or skipping `n` bytes ends. -/
theorem Within.stop (h : r.Within) (n : Nat) :
    r.position + min n r.left = min (r.position + n) r.size := by
  have hp := h.position
  unfold left
  omega

theorem size_slice (offset n : Nat) :
    (r.slice offset n).size = min (offset + n) r.size - offset := by
  unfold slice size Contents.size
  rw [ByteArray.size_extract]
  omega

theorem slice_eq_empty {offset n : Nat} (h : min (offset + n) r.size ≤ offset) :
    r.slice offset n = .empty := by
  unfold slice
  rw [ByteArray.extract_eq_empty_iff]
  omega

/-- No more is asked for than is left. -/
theorem Within.slice_min (h : r.Within) (n : Nat) :
    r.slice r.position (min n r.left) = r.slice r.position n := by
  have hp := h.position
  unfold slice left
  congr 1
  omega

theorem Within.advance_min (h : r.Within) (n : Nat) : r.advance (min n r.left) = r.advance n := by
  have hp := h.position
  unfold PlainCursor.advance PlainCursor.moveTo left
  congr 1
  omega

/-- Nothing is left to advance over. -/
theorem Within.advance_of_min (h : r.Within) {n : Nat} (hn : min n r.left = 0) :
    r.advance n = r := by
  have hstop := h.stop n
  rw [hn] at hstop
  unfold PlainCursor.advance PlainCursor.moveTo
  rw [← hstop]
  rfl

theorem Within.behind_take (h : r.Within) (n : Nat) :
    r.behind.take n = (r.slice r.position n, (r.advance n).behind) := by
  have hstop := h.stop n
  unfold Cursor.take
  show (r.contents.bytes.extract r.position (r.position + min n r.left),
    ({ r.behind with position := r.position + min n r.left } : Cursor)) = _
  rw [hstop]
  rfl

/-- Where skipping what is left of `n` bytes ends. -/
theorem Within.skipped (h : r.Within) (n : Nat) :
    min (r.position + min n r.left) r.size = min (r.position + n) r.size := by
  rw [h.stop]
  omega

/-- Skipping from the start is seeking. -/
theorem skip_of_start (hs : r.seekable = true) (k : Nat) :
    ({ r with position := 0 } : PlainCursor).skip k = (.ok (min k r.size), r.moveTo k) := by
  have hleft : ({ r with position := 0 } : PlainCursor).left = r.size := rfl
  unfold skip
  rw [hleft]
  split
  · next hz =>
    rw [hz]
    unfold PlainCursor.moveTo
    rw [hz]
  · unfold PlainCursor.advance PlainCursor.moveTo
    rw [Nat.zero_add]
    rfl

/-! What the engine's cursor does, in terms of the plain one. -/

theorem behind_setMark : r.behind.setMark
    = if r.seekable then (.ok (), ({ r with mark := r.position } : PlainCursor).behind)
      else (.error (.unsupported "mark"), r.behind) := rfl

theorem behind_reset (toMark : Bool) : r.behind.reset toMark
    = if r.seekable then
        (.ok (), ({ r with position := if toMark then r.mark else 0 } : PlainCursor).behind)
      else (.error (.unsupported "reset"), r.behind) := rfl

theorem Within.behind_skip (h : r.Within) (n : Nat) : r.behind.skip (min n r.left)
    = if r.seekable then (.ok (), (r.advance n).behind)
      else (.error (.unsupported "skip"), r.behind) := by
  have hskipped : min (r.position + min n r.left) r.size = min (r.position + n) r.size :=
    h.skipped n
  unfold Cursor.skip
  show (if r.seekable then (_, ({ r.behind with
    position := min (r.position + min n r.left) r.size } : Cursor)) else _) = _
  rw [hskipped]
  rfl

/-- A range that starts within the bytes ends where the slice does. -/
theorem behind_readRange {offset n : Nat} (h : ¬ min n (r.size - offset) = 0) :
    r.behind.readRange offset (min n (r.size - offset))
      = if r.ranged || r.seekable then (.ok (r.slice offset n), (r.moveTo (offset + n)).behind)
        else (.error (.unsupported "range read"), r.behind) := by
  have hstart : min offset r.size = offset := by omega
  have hstop : offset + min (min n (r.size - offset)) (r.size - offset)
      = min (offset + n) r.size := by
    omega
  have htake : ({ r.behind with position := min offset r.size } : Cursor).take
      (min n (r.size - offset)) = (r.slice offset n, (r.moveTo (offset + n)).behind) := by
    rw [hstart]
    show (r.contents.bytes.extract offset (offset + min _ (r.size - offset)),
      ({ r.behind with
          position := offset + min (min n (r.size - offset)) (r.size - offset) } : Cursor)) = _
    rw [hstop]
    rfl
  unfold Cursor.readRange
  show (if r.ranged || r.seekable then
    (Except.ok (({ r.behind with position := min offset r.size } : Cursor).take _).1,
      (({ r.behind with position := min offset r.size } : Cursor).take _).2) else _) = _
  rw [htake]

/-- All that is left. -/
theorem Within.slice_left (h : r.Within) :
    r.slice r.position r.left = r.contents.bytes.extract r.position r.size := by
  have hp := h.position
  unfold slice left
  congr 1
  omega

theorem Within.advance_left (h : r.Within) : r.advance r.left = { r with position := r.size } := by
  have hp := h.position
  unfold PlainCursor.advance PlainCursor.moveTo left
  congr 1
  omega

/-- Bytes at the position and then all that is left are all that was left. -/
theorem Within.slice_append (h : r.Within) (n : Nat) :
    r.slice r.position n ++ (r.advance n).slice (r.advance n).position (r.advance n).left
      = r.slice r.position r.left := by
  have hp := h.position
  have hle : r.position ≤ (r.advance n).position := by
    show r.position ≤ min (r.position + n) r.size
    omega
  rw [(h.advance n).slice_left, h.slice_left]
  exact (ByteArray.extract_eq_extract_append_extract _ hle (h.advance n).position).symm

theorem Within.advance_advance_left (h : r.Within) (n : Nat) :
    (r.advance n).advance (r.advance n).left = r.advance r.left := by
  rw [(h.advance n).advance_left, h.advance_left]
  rfl

theorem Within.left_advance (h : r.Within) (n : Nat) : (r.advance n).left = r.left - n := by
  have hp := h.position
  show r.size - min (r.position + n) r.size = r.size - r.position - n
  omega

end PlainCursor

namespace ContentStream

/-- The work gives `a` and leaves the stream following `r`. -/
structure Does {α : Type} (g : Gateway) (m : StateM Gateway (α × ContentStream)) (a : α)
    (r : PlainCursor) : Prop where
  answer : (m g).1.1 = a
  follows : (m g).1.2.Follows (m g).2 r

variable {g : Gateway} {s : ContentStream} {r : PlainCursor} {α β : Type}

theorem Does.pure {a : α} (h : s.Follows g r) :
    Does g (pure (a, s) : StateM Gateway (α × ContentStream)) a r :=
  ⟨rfl, h⟩

theorem Does.bind {m : StateM Gateway (α × ContentStream)} {r' : PlainCursor}
    {f : α × ContentStream → StateM Gateway (β × ContentStream)} {a : α} {b : β}
    (h : Does g m a r) (hf : ∀ s' g', s'.Follows g' r → Does g' (f (a, s')) b r') :
    Does g (m >>= f) b r' := by
  have hstep := hf _ _ h.follows
  rw [← h.answer] at hstep
  exact ⟨hstep.answer, hstep.follows⟩

/-- Work at the gateway that gave `b`. -/
theorem Does.after {m : StateM Gateway β} {f : β → StateM Gateway (α × ContentStream)} {a : α}
    {b : β} (hm : (m g).1 = b) (hf : Does (m g).2 (f b) a r) : Does g (m >>= f) a r := by
  subst hm
  exact ⟨hf.answer, hf.follows⟩

/-- An open stream goes on with its handle. -/
theorem Does.of_live {r' : PlainCursor} {a : α} {x : StreamAccess}
    {f : Option Handle → StateM Gateway (α × ContentStream)} (h : s.Follows g r)
    (hf : Does g (f (some s.handle.handle)) a r') : Does g (s.live x >>= f) a r' := by
  have hrun := h.live_bind x f
  exact ⟨hrun ▸ hf.answer, hrun ▸ hf.follows⟩

/-- A move that is reported by where it ended. -/
theorem does_landed {m : StateM Gateway (Except AccessError UInt64 × ContentStream)}
    {x : Except AccessError Nat × PlainCursor} (hm : Does g m (x.1.map UInt64.ofNat) x.2) :
    Does g (do
        let (a, s) ← m
        match a with
        | .error e => pure (.error e.toIoError, s)
        | .ok _ => pure (.ok s.position, s))
      ((PlainCursor.landed x).1.map UInt64.ofNat) (PlainCursor.landed x).2 := by
  obtain ⟨a, r'⟩ := x
  refine hm.bind fun s' g' h' => ?_
  cases a with
  | error e => exact .pure h'
  | ok n =>
    show Does g' _ (Except.ok (UInt64.ofNat r'.position)) _
    rw [ofNat_of_toNat h'.position]
    exact .pure h'

namespace Follows

/-- Bytes at the position were read. -/
theorem took (h : s.Follows g r) {g' : Gateway} (n : Nat) (hcalm : g'.faults = .none)
    (hl : g'.engine.live[s.handle.handle]? = some (.stream (r.advance n).behind)) :
    (s.advance (sizeOf (r.slice r.position n))).Follows g' (r.advance n) := by
  have hp := h.within.position
  have hlt := size_lt r
  have hsize := PlainCursor.size_slice (r := r) r.position n
  refine h.moved hcalm hl ?_ h.mark (Nat.min_le_right ..) h.within.mark
  rw [toNat_add_sizeOf (by rw [h.position]; omega), h.position]
  omega

theorem read (h : s.Follows g r) (n : UInt64) :
    Does g (s.read n) (r.slice r.position n.toNat) (r.advance n.toNat) := by
  have hwant : (min n s.remaining).toNat = min n.toNat r.left := by
    rw [toNat_min, h.remaining]
  unfold ContentStream.read
  refine .of_live h ?_
  dsimp only
  -- a read of no bytes does not reach the engine
  split
  · next hz =>
    have hmin : min n.toNat r.left = 0 := by
      rw [← hwant, hz]
      rfl
    rw [h.within.advance_of_min hmin,
      PlainCursor.slice_eq_empty (by rw [← h.within.stop, hmin]; omega)]
    exact .pure h
  · obtain ⟨ha, hl, hf⟩ := Gateway.readBytes_works (min n s.remaining) g _ h.calm h.cursor
    dsimp only at ha hl
    rw [hwant, h.within.behind_take, h.within.slice_min, h.within.advance_min] at ha hl
    exact .after ha (.pure (h.took n.toNat hf hl))

theorem readInto (h : s.Follows g r) (buffer : ByteArray) :
    Does g (s.readInto buffer)
      (let bytes := r.slice r.position (sizeOf buffer).toNat
       (sizeOf bytes, bytes ++ buffer.extract bytes.size buffer.size))
      (r.advance (sizeOf buffer).toNat) :=
  (h.read _).bind fun _ _ h' => .pure h'

theorem readAll (h : s.Follows g r) :
    Does g s.readAll (r.slice r.position r.cap) (r.advance r.cap) := by
  unfold ContentStream.readAll
  refine .of_live h ?_
  obtain ⟨ha, hl, hf⟩ := Gateway.readAll_works s.maxReadAll g _ h.calm h.cursor
  dsimp only at ha hl
  rw [h.cap, h.within.behind_take] at ha hl
  exact .after ha (.pure (h.took r.cap hf hl))

/-! ## §5. Reading everything in chunks. -/

/-- Reads of `chunk` bytes give everything that is left, if there are enough
of them.  The induction is on their number; each one that does not end the
reading leaves less. -/
theorem readChunks (h : s.Follows g r) {chunk : UInt64} (hc : chunk ≠ 0) (room : Nat)
    (hroom : r.left < room) (front : ByteArray) :
    Does g (ContentStream.readChunks chunk room front s) (front ++ r.slice r.position r.left)
      (r.advance r.left) := by
  induction room generalizing g s r front with
  | zero => exact absurd hroom (Nat.not_lt_zero _)
  | succ room ih =>
    have hchunk : 0 < chunk.toNat := by
      have hne := mt (eq_zero_iff chunk).mpr hc
      omega
    refine (h.read chunk).bind fun s' g' h' => ?_
    have hsize : (r.slice r.position chunk.toNat).size = min chunk.toNat r.left := by
      rw [PlainCursor.size_slice, ← h.within.stop]
      omega
    dsimp only
    split
    · next hnone =>
      have hleft : r.left = 0 := by
        have hzero : (r.slice r.position chunk.toNat).size = 0 := by
          simpa [ByteArray.isEmpty] using hnone
        omega
      have hsame : r.advance chunk.toNat = r.advance r.left := by
        rw [h.within.advance_of_min (by omega), h.within.advance_of_min (by omega)]
      have hempty : r.slice r.position r.left = .empty :=
        PlainCursor.slice_eq_empty (by rw [← h.within.stop]; omega)
      rw [hempty, ByteArray.append_empty]
      rw [hsame] at h'
      exact .pure h'
    · next hsome =>
      have hpos : 0 < r.left := by
        refine Nat.pos_of_ne_zero fun hz => hsome ?_
        simp [ByteArray.isEmpty, hsize, hz]
      have hrest := ih h' (by rw [h.within.left_advance]; omega)
        (front ++ r.slice r.position chunk.toNat)
      rw [ByteArray.append_assoc, h.within.slice_append, h.within.advance_advance_left] at hrest
      exact hrest

theorem readToEnd (h : s.Follows g r) (chunk : UInt64) :
    Does g (s.readToEnd chunk) (r.readToEnd chunk.toNat).1 (r.readToEnd chunk.toNat).2 := by
  unfold ContentStream.readToEnd PlainCursor.readToEnd
  rw [h.remaining]
  by_cases hc : chunk = 0
  · -- the first read of no bytes ends it
    subst hc
    have hempty : r.slice r.position 0 = .empty := PlainCursor.slice_eq_empty (Nat.min_le_left ..)
    have hsame : r.advance 0 = r := h.within.advance_of_min (Nat.zero_min _)
    refine (h.read 0).bind fun s' g' h' => ?_
    rw [show (0 : UInt64).toNat = 0 from rfl, hsame] at h'
    rw [show (0 : UInt64).toNat = 0 from rfl, hempty]
    exact .pure h'
  · rw [if_neg (mt (eq_zero_iff chunk).mpr hc)]
    have hread := h.readChunks hc (r.left + 1) (Nat.lt_succ_self _) .empty
    rw [ByteArray.empty_append] at hread
    exact hread

/-! ## §6. Ranges. -/

theorem readRange (h : s.Follows g r) (offset n : UInt64) :
    Does g (s.readRange offset n) (r.readRange offset.toNat n.toNat).1
      (r.readRange offset.toNat n.toNat).2 := by
  have hwant : (min n (s.leftFrom offset)).toNat = min n.toNat (r.size - offset.toNat) := by
    rw [toNat_min, h.leftFrom]
  have hsize := PlainCursor.size_slice (r := r) offset.toNat n.toNat
  have hlt := size_lt r
  unfold ContentStream.readRange PlainCursor.readRange
  refine .of_live h ?_
  dsimp only
  -- an empty range does not reach the engine, so it is never refused
  by_cases hz : min n (s.leftFrom offset) = 0
  · rw [eq_zero_iff, hwant] at hz
    rw [if_pos (by rw [eq_zero_iff, hwant]; exact hz), if_pos (by omega)]
    exact .pure h
  · rw [if_neg hz]
    rw [eq_zero_iff, hwant] at hz
    rw [if_neg (by omega)]
    obtain ⟨ha, hl, hf⟩ :=
      Gateway.readRange_works offset (min n (s.leftFrom offset)) g _ h.calm h.cursor
    dsimp only at ha hl
    rw [hwant, PlainCursor.behind_readRange hz] at ha hl
    by_cases hcan : (r.ranged || r.seekable) = true
    · rw [if_pos hcan] at ha hl ⊢
      refine .after ha (.pure (h.moved hf hl ?_ h.mark (Nat.min_le_right ..) h.within.mark))
      rw [toNat_add_sizeOf (by omega), hsize]
      omega
    · rw [if_neg hcan] at ha hl ⊢
      exact .after ha (.pure (h.stayed hf hl))

/-! ## §7. Moving. -/

theorem skip (h : s.Follows g r) (n : UInt64) :
    Does g (s.skip n) ((r.skip n.toNat).1.map UInt64.ofNat) (r.skip n.toNat).2 := by
  have hcount : (min n s.remaining).toNat = min n.toNat r.left := by
    rw [toNat_min, h.remaining]
  unfold ContentStream.skip PlainCursor.skip
  refine .of_live h ?_
  dsimp only
  by_cases hz : min n s.remaining = 0
  · rw [if_pos hz]
    rw [eq_zero_iff, hcount] at hz
    rw [if_pos hz]
    exact .pure h
  · rw [if_neg hz]
    rw [eq_zero_iff, hcount] at hz
    rw [if_neg hz]
    obtain ⟨ha, hl, hf⟩ := Gateway.skip_works (min n s.remaining) g _ h.calm h.cursor
    dsimp only at ha hl
    rw [hcount, h.within.behind_skip] at ha hl
    -- what a stream cannot do moves neither cursor
    by_cases hcan : r.seekable = true
    · rw [if_pos hcan] at ha hl ⊢
      have hplace : (s.position + min n s.remaining).toNat = min (r.position + n.toNat) r.size := by
        have hstop := h.within.stop n.toNat
        have hlt := size_lt r
        rw [UInt64.toNat_add, hcount, h.position, hstop]
        omega
      have hanswer : UInt64.ofNat (min n.toNat r.left) = min n s.remaining := ofNat_of_toNat hcount
      show Does g _ (Except.ok (UInt64.ofNat (min n.toNat r.left))) _
      rw [hanswer]
      exact .after ha (.pure (h.moved hf hl hplace h.mark (Nat.min_le_right ..) h.within.mark))
    · rw [if_neg hcan] at ha hl ⊢
      exact .after ha (.pure (h.stayed hf hl))

theorem setMark (h : s.Follows g r) : Does g s.setMark r.setMark.1 r.setMark.2 := by
  unfold ContentStream.setMark PlainCursor.setMark
  refine .of_live h ?_
  obtain ⟨ha, hl, hf⟩ := Gateway.mark_works g _ h.calm h.cursor
  rw [PlainCursor.behind_setMark] at ha hl
  by_cases hcan : r.seekable = true
  · rw [if_pos hcan] at ha hl ⊢
    exact .after ha
      (.pure (h.moved hf hl h.position h.position h.within.position h.within.position))
  · rw [if_neg hcan] at ha hl ⊢
    exact .after ha (.pure (h.stayed hf hl))

theorem reset (h : s.Follows g r) (toMark : Bool) :
    Does g (s.reset toMark) (r.reset toMark).1 (r.reset toMark).2 := by
  have hplace : (if toMark then s.mark else 0).toNat = if toMark then r.mark else 0 := by
    cases toMark
    · rfl
    · exact h.mark
  have hle : (if toMark then r.mark else 0) ≤ r.size := by
    cases toMark
    · exact Nat.zero_le _
    · exact h.within.mark
  unfold ContentStream.reset PlainCursor.reset
  refine .of_live h ?_
  obtain ⟨ha, hl, hf⟩ := Gateway.reset_works toMark g _ h.calm h.cursor
  dsimp only at ha hl
  rw [PlainCursor.behind_reset] at ha hl
  by_cases hcan : r.seekable = true
  · rw [if_pos hcan] at ha hl ⊢
    exact .after ha (.pure (h.moved hf hl hplace h.mark hle h.within.mark))
  · rw [if_neg hcan] at ha hl ⊢
    exact .after ha (.pure (h.stayed hf hl))

/-- Rewinding and skipping. -/
theorem seek (h : s.Follows g r) (k : UInt64) :
    Does g (s.seek k) ((r.seek k.toNat).1.map UInt64.ofNat) (r.seek k.toNat).2 := by
  have hrewind := h.reset false
  unfold ContentStream.seek
  refine .of_live h ?_
  unfold PlainCursor.reset at hrewind
  unfold PlainCursor.seek
  by_cases hcan : r.seekable = true
  · rw [if_pos hcan] at hrewind ⊢
    refine hrewind.bind fun s' g' h' => ?_
    have hskip := h'.skip k
    rw [show (if false = true then r.mark else 0) = 0 from rfl,
      PlainCursor.skip_of_start hcan] at hskip
    exact hskip
  · rw [if_neg hcan] at hrewind ⊢
    exact hrewind.bind fun _ _ h' => .pure h'

/-! ## §8. Targets. -/

/-- The words displaced are the numbers displaced. -/
theorem displaced? (base : UInt64) (n : Int64) :
    (ContentStream.displaced? base n).map UInt64.toNat = PlainCursor.displaced? base.toNat n := by
  unfold ContentStream.displaced? PlainCursor.displaced?
  dsimp only
  split
  · next hsum =>
    have hlt : ((base.toNat : Int) + n.toInt).toNat < UInt64.size := by omega
    rw [Option.map_some, UInt64.toNat_ofNat_of_lt' hlt]
  · rfl

theorem target? (h : s.Follows g r) (t : SeekTarget) :
    (s.target? t).map UInt64.toNat = r.target? t := by
  cases t with
  | fromStart n => rfl
  | fromCurrent n =>
    show (ContentStream.displaced? s.position n).map UInt64.toNat = _
    rw [displaced?, h.position]
    rfl
  | fromEnd n =>
    show (ContentStream.displaced? s.length n).map UInt64.toNat = _
    rw [displaced?, h.length]
    rfl

theorem seekTo (h : s.Follows g r) (t : SeekTarget) :
    Does g (s.seekTo t) ((r.seekTo t).1.map UInt64.ofNat) (r.seekTo t).2 := by
  have htarget := h.target? t
  unfold ContentStream.seekTo PlainCursor.seekTo
  cases ht : s.target? t with
  | none =>
    rw [ht] at htarget
    rw [← htarget]
    exact .pure h
  | some k =>
    rw [ht, Option.map_some] at htarget
    rw [← htarget]
    have hle : s.position ≤ k ↔ r.position ≤ k.toNat := by
      rw [UInt64.le_iff_toNat_le, h.position]
    dsimp only
    -- forward the target is reached by skipping, backward from the start
    by_cases hforward : r.position ≤ k.toNat
    · have hsub : (k - s.position).toNat = k.toNat - r.position := by
        rw [UInt64.toNat_sub_of_le _ _ (hle.mpr hforward), h.position]
      have hskip := h.skip (k - s.position)
      rw [hsub] at hskip
      rw [if_pos hforward, if_pos (hle.mpr hforward)]
      exact does_landed hskip
    · rw [if_neg hforward, if_neg (mt hle.mp hforward)]
      exact does_landed (h.seek k)

theorem available (h : s.Follows g r) :
    (s.available g).1 = UInt64.ofNat r.left ∧ s.Follows (s.available g).2 r := by
  obtain ⟨ha, hl, hf⟩ := Gateway.available_works g _ h.calm h.cursor
  have hrun : s.available g = Gateway.available s.handle.handle g := h.live_bind .available _
  rw [hrun]
  exact ⟨ha, h.stayed hf hl⟩

end Follows

end ContentStream

/-! ## §9. Every operation. -/

/-- **Every operation but closing answers as the plain cursor**, and leaves
the stream following it. -/
theorem StreamOp.run_follows {g : Gateway} {s : ContentStream} {r : PlainCursor}
    (h : s.Follows g r) (op : StreamOp) (hop : op.closes = false) :
    ContentStream.Does g (op.run s) (r.answer op).1 (r.answer op).2 := by
  cases op with
  | read n => exact (h.read n).bind fun _ _ h' => .pure h'
  | readInto buffer => exact (h.readInto buffer).bind fun _ _ h' => .pure h'
  | readToEnd chunk => exact (h.readToEnd chunk).bind fun _ _ h' => .pure h'
  | available =>
    obtain ⟨ha, h'⟩ := h.available
    exact .after ha (.pure h')
  | readAll => exact h.readAll.bind fun _ _ h' => .pure h'
  | readRange offset n => exact (h.readRange offset n).bind fun _ _ h' => .pure h'
  | skip n => exact (h.skip n).bind fun _ _ h' => .pure h'
  | mark => exact h.setMark.bind fun _ _ h' => .pure h'
  | reset toMark => exact (h.reset toMark).bind fun _ _ h' => .pure h'
  | seek k => exact (h.seek k).bind fun _ _ h' => .pure h'
  | seekTo t => exact (h.seekTo t).bind fun _ _ h' => .pure h'
  | position =>
    refine ⟨?_, h⟩
    show StreamReply.number s.position = .number (.ofNat r.position)
    rw [ofNat_of_toNat h.position]
  | close => exact absurd hop (by simp [StreamOp.closes])

end EpubAccess
