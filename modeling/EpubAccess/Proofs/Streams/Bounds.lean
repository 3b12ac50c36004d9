/-
  EpubAccess.Proofs.Streams.Bounds
  ────────────────────────────────
  The arithmetic of a stream over any engine.

  An engine may answer whatever it likes, now so and then so, as long as a read
  gives no more bytes than were asked for (`LengthHonest`).  A `Watched` engine
  is the same engine with a record beside it, in whole numbers that cannot wrap:
  where its replies put the position and the mark, and which spans of bytes it
  was asked for.  Watching changes nothing (`StreamOp.runAll_unwatched`).

  A stream is `Tracked` by the record when its words are the numbers there, none
  of them is past the declared length, and neither is any span.  Every operation
  but reading all at once keeps a stream tracked and reckons as whole numbers do
  (`StreamOp.run_keeps`), hence every sequence of them does
  (`StreamOp.runAll_keeps`).  `ContentStream.positions_stay_exact` is the result.
-/
import EpubAccess.Proofs.Streams.Seeking

namespace EpubAccess

open Stateful

/-! ## §1. Engines that are watched. -/

/-- An engine whose reads give no more bytes than were asked for.  Of its other
answers nothing is said. -/
structure LengthHonest (σ : Type) [StreamEngine σ] : Prop where
  readBytes : ∀ h n (e : σ), (StreamEngine.readBytes h n e).1.size ≤ n.toNat
  readRange : ∀ h offset n (e : σ) b, (StreamEngine.readRange h offset n e).1 = .ok b →
    b.size ≤ n.toNat

/-- A span of bytes that an engine was asked for. -/
structure Span where
  first : Nat
  count : Nat
  deriving DecidableEq

/-- The span has a byte, and none at or past the end. -/
structure Span.Inside (x : Span) (stop : Nat) : Prop where
  nonempty : x.count ≠ 0
  bounded : x.first + x.count ≤ stop

/-- Where the replies of an engine put a position and a mark, and the spans of
bytes that it was asked to read or to skip. -/
structure Record where
  position : Nat := 0
  mark : Nat := 0
  spans : List Span := []

namespace Record

/-- One more span. -/
def ask (r : Record) (first : Nat) (count : UInt64) : Record :=
  { r with spans := r.spans ++ [⟨first, count.toNat⟩] }

/-- The position elsewhere. -/
def moveTo (r : Record) (place : Nat) : Record := { r with position := place }

/-- The position further on. -/
def moveBy (r : Record) (n : Nat) : Record := r.moveTo (r.position + n)

end Record

/-- An engine with a record beside it. -/
structure Watched (σ : Type) where
  engine : σ
  record : Record

namespace Watched

variable {σ α β : Type}

/-- An engine watched from now on. -/
def start (e : σ) : Watched σ := { engine := e, record := {} }

/-- A call of the engine, with its reply noted. -/
def call (m : StateM σ α) (note : α → Record → Record) : StateM (Watched σ) α := fun w =>
  ((m w.engine).1, { engine := (m w.engine).2, record := note (m w.engine).1 w.record })

/-- What is noted of a reply that may be an error. -/
def onSuccess (note : α → Record → Record) : Except EngineError α → Record → Record
  | .ok a => note a
  | .error _ => id

/-- A watched engine answers as the engine does. -/
instance [StreamEngine σ] : StreamEngine (Watched σ) where
  releaseHandle h := call (HandleSink.releaseHandle h) fun _ => id
  closeStream h := call (HandleSink.closeStream h) fun _ => id
  emit x := call (HandleSink.emit x) fun _ => id
  available h := call (StreamEngine.available h) fun _ => id
  readBytes h n := call (StreamEngine.readBytes h n) fun b r =>
    (r.ask r.position n).moveBy b.size
  readAll h cap := call (StreamEngine.readAll h cap) fun b r => r.moveBy b.size
  readRange h offset n := call (StreamEngine.readRange h offset n) fun a r =>
    onSuccess (fun b r => r.moveTo (offset.toNat + b.size)) a (r.ask offset.toNat n)
  skip h n := call (StreamEngine.skip h n) fun a r =>
    onSuccess (fun _ r => r.moveBy n.toNat) a (r.ask r.position n)
  mark h := call (StreamEngine.mark h) (onSuccess fun _ r => { r with mark := r.position })
  reset h toMark := call (StreamEngine.reset h toMark)
    (onSuccess fun _ r => r.moveTo (if toMark then r.mark else 0))

/-- Work on a watched engine that is the same work on the engine. -/
def Same (m : StateM (Watched σ) α) (m' : StateM σ α) : Prop :=
  ∀ w, (m w).1 = (m' w.engine).1 ∧ (m w).2.engine = (m' w.engine).2

namespace Same

theorem pure (a : α) : Same (pure a : StateM (Watched σ) α) (pure a) := fun _ => ⟨rfl, rfl⟩

theorem bind {m : StateM (Watched σ) α} {m' : StateM σ α} {f : α → StateM (Watched σ) β}
    {f' : α → StateM σ β} (hm : Same m m') (hf : ∀ a, Same (f a) (f' a)) :
    Same (m >>= f) (m' >>= f') := by
  intro w
  obtain ⟨ha, he⟩ := hm w
  obtain ⟨hb, he'⟩ := hf (m w).1 (m w).2
  rw [bind_apply, bind_apply, hb, he', ha, he]
  exact ⟨rfl, rfl⟩

theorem call (m : StateM σ α) (note : α → Record → Record) : Same (Watched.call m note) m :=
  fun _ => ⟨rfl, rfl⟩

end Same

end Watched

/-! ## §2. Watching changes nothing. -/

section Unwatched

variable {σ : Type} [StreamEngine σ] (s : ContentStream)

open Watched (Same)

namespace ContentStream

theorem live_unwatched (x : StreamAccess) :
    Same (s.live x : StateM (Watched σ) _) (s.live x : StateM σ _) := by
  unfold live
  cases s.handle.get? with
  | none => exact .bind (.call _ _) fun _ => .pure _
  | some h => exact .pure _

theorem available_unwatched :
    Same (s.available : StateM (Watched σ) _) (s.available : StateM σ _) := by
  refine .bind (s.live_unwatched _) fun h => ?_
  cases h with
  | none => exact .pure _
  | some h => exact .call _ _

theorem read_unwatched (n : UInt64) :
    Same (s.read n : StateM (Watched σ) _) (s.read n : StateM σ _) := by
  refine .bind (s.live_unwatched _) fun h => ?_
  cases h with
  | none => exact .pure _
  | some h =>
    dsimp only
    split
    · exact .pure _
    · exact .bind (.call _ _) fun _ => .pure _

theorem readInto_unwatched (buffer : ByteArray) :
    Same (s.readInto buffer : StateM (Watched σ) _) (s.readInto buffer : StateM σ _) :=
  .bind (s.read_unwatched _) fun _ => .pure _

theorem readChunks_unwatched (chunk : UInt64) (room : Nat) (front : ByteArray) :
    Same (readChunks chunk room front s : StateM (Watched σ) _)
      (readChunks chunk room front s : StateM σ _) := by
  induction room generalizing front s with
  | zero => exact .pure _
  | succ room ih =>
    refine .bind (s.read_unwatched chunk) fun r => ?_
    dsimp only
    split
    · exact .pure _
    · exact ih r.2 (front ++ r.1)

theorem readAll_unwatched : Same (s.readAll : StateM (Watched σ) _) (s.readAll : StateM σ _) := by
  refine .bind (s.live_unwatched _) fun h => ?_
  cases h with
  | none => exact .pure _
  | some h => exact .bind (.call _ _) fun _ => .pure _

theorem readRange_unwatched (offset n : UInt64) :
    Same (s.readRange offset n : StateM (Watched σ) _) (s.readRange offset n : StateM σ _) := by
  refine .bind (s.live_unwatched _) fun h => ?_
  cases h with
  | none => exact .pure _
  | some h =>
    dsimp only
    split
    · exact .pure _
    · refine .bind (.call _ _) fun r => ?_
      cases r <;> exact .pure _

theorem skip_unwatched (n : UInt64) :
    Same (s.skip n : StateM (Watched σ) _) (s.skip n : StateM σ _) := by
  refine .bind (s.live_unwatched _) fun h => ?_
  cases h with
  | none => exact .pure _
  | some h =>
    dsimp only
    split
    · exact .pure _
    · refine .bind (.call _ _) fun r => ?_
      cases r <;> exact .pure _

theorem setMark_unwatched : Same (s.setMark : StateM (Watched σ) _) (s.setMark : StateM σ _) := by
  refine .bind (s.live_unwatched _) fun h => ?_
  cases h with
  | none => exact .pure _
  | some h =>
    refine .bind (.call _ _) fun r => ?_
    cases r <;> exact .pure _

theorem reset_unwatched (toMark : Bool) :
    Same (s.reset toMark : StateM (Watched σ) _) (s.reset toMark : StateM σ _) := by
  refine .bind (s.live_unwatched _) fun h => ?_
  cases h with
  | none => exact .pure _
  | some h =>
    refine .bind (.call _ _) fun r => ?_
    cases r <;> exact .pure _

theorem seek_unwatched (place : UInt64) :
    Same (s.seek place : StateM (Watched σ) _) (s.seek place : StateM σ _) := by
  refine .bind (s.live_unwatched _) fun h => ?_
  cases h with
  | none => exact .pure _
  | some h =>
    refine .bind (s.reset_unwatched false) fun r => ?_
    obtain ⟨_ | _, s'⟩ := r
    · exact .pure _
    · exact s'.skip_unwatched place

theorem seekTo_unwatched (t : SeekTarget) :
    Same (s.seekTo t : StateM (Watched σ) _) (s.seekTo t : StateM σ _) := by
  cases ht : s.target? t with
  | none =>
    unfold seekTo
    rw [ht]
    exact .pure _
  | some k =>
    rw [seekTo_of_target ht, seekTo_of_target ht]
    split
    · exact .bind (s.skip_unwatched _) fun _ => .pure _
    · exact .bind (s.seek_unwatched _) fun _ => .pure _

theorem close_unwatched : Same (s.close : StateM (Watched σ) _) (s.close : StateM σ _) := by
  have hrelease : Same (s.handle.release : StateM (Watched σ) _)
      (s.handle.release : StateM σ _) := by
    unfold OwnedHandle.release OwnedHandle.giveBack
    split
    · exact .bind (.call _ _) fun _ => .pure _
    · cases s.handle.kind <;> exact .bind (.call _ _) fun _ => .pure _
  refine .bind hrelease fun r => ?_
  dsimp only
  split
  · exact .bind (.call _ _) fun _ => .pure _
  · exact .pure _

end ContentStream

namespace StreamOp

theorem run_unwatched (op : StreamOp) :
    Same (op.run s : StateM (Watched σ) _) (op.run s : StateM σ _) := by
  cases op with
  | read n => exact .bind (s.read_unwatched n) fun _ => .pure _
  | readInto buffer => exact .bind (s.readInto_unwatched buffer) fun _ => .pure _
  | readToEnd chunk => exact .bind (s.readChunks_unwatched chunk _ _) fun _ => .pure _
  | available => exact .bind s.available_unwatched fun _ => .pure _
  | readAll => exact .bind s.readAll_unwatched fun _ => .pure _
  | readRange offset n => exact .bind (s.readRange_unwatched offset n) fun _ => .pure _
  | skip n => exact .bind (s.skip_unwatched n) fun _ => .pure _
  | mark => exact .bind s.setMark_unwatched fun _ => .pure _
  | reset toMark => exact .bind (s.reset_unwatched toMark) fun _ => .pure _
  | seek place => exact .bind (s.seek_unwatched place) fun _ => .pure _
  | seekTo t => exact .bind (s.seekTo_unwatched t) fun _ => .pure _
  | position => exact .pure _
  | close => exact .bind s.close_unwatched fun _ => .pure _

/-- **Watching changes nothing**: the answers are those of the engine itself, and
so is what becomes of it. -/
theorem runAll_unwatched (ops : List StreamOp) :
    Same (runAll s ops : StateM (Watched σ) _) (runAll s ops : StateM σ _) := by
  -- each operation leaves the same stream, from which the others go on
  induction ops generalizing s with
  | nil => exact .pure _
  | cons op ops ih => exact .bind (run_unwatched s op) fun r => .bind (ih r.2) fun _ => .pure _

end StreamOp

end Unwatched

/-! ## §3. Streams that the record tracks. -/

/-- The words of a stream are the numbers of the record, and nothing there is
past the declared length. -/
structure ContentStream.Tracked (s : ContentStream) (r : Record) : Prop where
  position : s.position.toNat = r.position
  mark : s.mark.toNat = r.mark
  within : r.position ≤ s.length.toNat
  marked : r.mark ≤ s.length.toNat
  asked : ∀ x ∈ r.spans, x.Inside s.length.toNat

namespace ContentStream.Tracked

variable {s : ContentStream} {r : Record}

/-- A span inside the declared length may be asked for. -/
theorem ask (h : s.Tracked r) {first : Nat} {count : UInt64} (hcount : count ≠ 0)
    (hinside : first + count.toNat ≤ s.length.toNat) : s.Tracked (r.ask first count) where
  position := h.position
  mark := h.mark
  within := h.within
  marked := h.marked
  asked := by
    intro x hx
    rcases List.mem_append.mp hx with hold | hnew
    · exact h.asked x hold
    · obtain rfl := List.mem_singleton.mp hnew
      exact ⟨fun hzero => hcount (UInt64.toNat_inj.mp hzero), hinside⟩

/-- A stream stays tracked where both sides move to one place. -/
theorem moveTo (h : s.Tracked r) {p : UInt64} {place : Nat} (hp : p.toNat = place)
    (hinside : place ≤ s.length.toNat) : Tracked { s with position := p } (r.moveTo place) where
  position := hp
  mark := h.mark
  within := hinside
  marked := h.marked
  asked := h.asked

/-- Moving by a number of bytes that fits does not wrap. -/
theorem toNat_place {base : UInt64} {n : Nat} (hfits : base.toNat + n ≤ s.length.toNat) :
    (base + UInt64.ofNat n).toNat = base.toNat + n := by
  have hsum : base.toNat + n < UInt64.size := Nat.lt_of_le_of_lt hfits s.length.toNat_lt
  rw [UInt64.toNat_add, UInt64.toNat_ofNat_of_lt' (Nat.lt_of_le_of_lt (Nat.le_add_left _ _) hsum)]
  exact Nat.mod_eq_of_lt hsum

/-- So both sides are at one place afterwards. -/
theorem moveBy (h : s.Tracked r) {n : Nat} (hfits : s.position.toNat + n ≤ s.length.toNat) :
    Tracked (s.advance (UInt64.ofNat n)) (r.moveBy n) := by
  refine h.moveTo ?_ (h.position ▸ hfits)
  rw [toNat_place hfits, h.position]

end ContentStream.Tracked

/-- The operation of `s` came out on the same stream, moved to where the record
says, and its result is as `Q` says. -/
structure ContentStream.Kept {σ α : Type} (s : ContentStream) (Q : α → ContentStream → Prop)
    (x : (α × ContentStream) × Watched σ) : Prop where
  length : x.1.2.length = s.length
  tracked : x.1.2.Tracked x.2.record
  result : Q x.1.1 x.1.2

/-- The operation of `s` keeps it tracked, and its result is as `Q` says. -/
def ContentStream.Keeps {σ α : Type} (s : ContentStream) (Q : α → ContentStream → Prop)
    (m : StateM (Watched σ) (α × ContentStream)) : Prop :=
  ∀ w, s.Tracked w.record → s.Kept Q (m w)

namespace ContentStream

section Keeps

variable {σ α β : Type} {s : ContentStream} {Q : α → ContentStream → Prop}
  {Q' : β → ContentStream → Prop}

theorem Keeps.pure {a : α} (h : Q a s) : Keeps (σ := σ) s Q (pure (a, s)) :=
  fun _ hw => ⟨rfl, hw, h⟩

theorem Keeps.bind {m : StateM (Watched σ) (α × ContentStream)}
    {f : α × ContentStream → StateM (Watched σ) (β × ContentStream)} (hm : s.Keeps Q m)
    (hf : ∀ a s', s'.length = s.length → Q a s' → s'.Keeps Q' (f (a, s'))) :
    s.Keeps Q' (m >>= f) := by
  intro w hw
  have ha := hm w hw
  have hb := hf _ _ ha.length ha.result _ ha.tracked
  exact ⟨hb.length.trans ha.length, hb.tracked, hb.result⟩

/-- An engine call that may fail: what it asks for is noted in any case, what it
gives only if it gives something. -/
theorem Keeps.attempt {m : StateM σ (Except EngineError β)} {before : Record → Record}
    {note : β → Record → Record}
    {f : Except EngineError β → StateM (Watched σ) (α × ContentStream)}
    (hask : ∀ r, s.Tracked r → s.Tracked (before r)) (hfail : ∀ e, s.Keeps Q (f (.error e)))
    (hgive : ∀ e b r, (m e).1 = .ok b → s.Tracked r →
      s.Kept Q (f (.ok b) { engine := (m e).2, record := note b (before r) })) :
    s.Keeps Q (Watched.call m (fun a r => Watched.onSuccess note a (before r)) >>= f) := by
  intro w hw
  rw [bind_apply]
  unfold Watched.call
  dsimp only
  cases hm : (m w.engine).1 with
  | error e => exact hfail e { engine := _, record := before w.record } (hask _ hw)
  | ok b => exact hgive w.engine b w.record hm hw

variable [StreamEngine σ]

/-- A closed stream answers at once; an open one goes on with its handle. -/
theorem Keeps.live {x : StreamAccess}
    {f : Option Handle → StateM (Watched σ) (α × ContentStream)}
    (hclosed : s.handle.released = true → s.Keeps Q (f none))
    (hopen : s.handle.released = false → s.Keeps Q (f (some s.handle.handle))) :
    s.Keeps Q (s.live x >>= f) := by
  intro w hw
  cases hreleased : s.handle.released with
  | false =>
    rw [live_of_open hreleased, pure_bind]
    exact hopen hreleased w hw
  | true =>
    unfold ContentStream.live
    rw [OwnedHandle.get?_eq_none hreleased]
    exact hclosed hreleased { w with engine := _ } hw

end Keeps

/-! ## §4. The operations. -/

section Operations

variable {σ : Type} [StreamEngine σ] (s : ContentStream)

/-- What is asked of the engine from an offset on is inside the declared length. -/
theorem Tracked.ask_from {s : ContentStream} {r : Record} (h : s.Tracked r) {offset n : UInt64}
    (hwant : min n (s.leftFrom offset) ≠ 0) :
    s.Tracked (r.ask offset.toNat (min n (s.leftFrom offset)))
      ∧ offset.toNat + (min n (s.leftFrom offset)).toNat ≤ s.length.toNat := by
  have hpos : (min n (s.leftFrom offset)).toNat ≠ 0 := fun hzero =>
    hwant (UInt64.toNat_inj.mp hzero)
  have hfits : offset.toNat + (min n (s.leftFrom offset)).toNat ≤ s.length.toNat := by
    rw [toNat_min, toNat_leftFrom] at hpos ⊢
    omega
  exact ⟨h.ask hwant hfits, hfits⟩

/-- So is what is asked of it from the position on. -/
theorem Tracked.ask_here {s : ContentStream} {r : Record} (h : s.Tracked r) {n : UInt64}
    (hwant : min n s.remaining ≠ 0) :
    s.Tracked (r.ask r.position (min n s.remaining))
      ∧ s.position.toNat + (min n s.remaining).toNat ≤ s.length.toNat := by
  rw [← h.position]
  exact h.ask_from hwant

theorem read_keeps (honest : LengthHonest σ) (n : UInt64) :
    s.Keeps (σ := σ) (fun b s' => b.size ≤ n.toNat
      ∧ s'.position.toNat = s.position.toNat + b.size) (s.read n) := by
  refine .live (fun _ => .pure ⟨Nat.zero_le _, rfl⟩) fun _ => ?_
  dsimp only
  split
  · exact .pure ⟨Nat.zero_le _, rfl⟩
  · next hwant =>
    intro w hw
    obtain ⟨hask, hfits⟩ := hw.ask_here hwant
    have hgot := honest.readBytes s.handle.handle (min n s.remaining) w.engine
    have hplace := Nat.le_trans (Nat.add_le_add_left hgot _) hfits
    rw [toNat_min] at hgot
    exact ⟨rfl, hask.moveBy hplace, Nat.le_trans hgot (Nat.min_le_left _ _),
      Tracked.toNat_place hplace⟩

/-- The bytes that were read are the front of the buffer; the rest stays. -/
theorem readInto_keeps (honest : LengthHonest σ) (buffer : ByteArray) :
    s.Keeps (σ := σ) (fun x s' => x.1.toNat ≤ buffer.size ∧ x.2.size = buffer.size
      ∧ (∃ front : ByteArray, front.size = x.1.toNat
          ∧ x.2 = front ++ buffer.extract front.size buffer.size)
      ∧ s'.position.toNat = s.position.toNat + x.1.toNat) (s.readInto buffer) := by
  refine (s.read_keeps honest _).bind fun b s' hlength ⟨hsize, hposition⟩ => ?_
  have hroom : b.size ≤ buffer.size := Nat.le_trans hsize (Nat.mod_le _ _)
  have hword : (sizeOf b).toNat = b.size :=
    UInt64.toNat_ofNat_of_lt' (Nat.lt_of_le_of_lt hsize (UInt64.toNat_lt _))
  refine .pure ⟨hword ▸ hroom, ?_, ⟨b, hword.symm, rfl⟩, hword ▸ hposition⟩
  rw [ByteArray.size_append, ByteArray.size_extract]
  omega

theorem readChunks_keeps (honest : LengthHonest σ) (chunk : UInt64) (room : Nat)
    (front : ByteArray) :
    s.Keeps (σ := σ) (fun b s' => s'.position.toNat + front.size = s.position.toNat + b.size)
      (readChunks chunk room front s) := by
  -- what was read so far stands in front, and the position is that much further
  induction room generalizing front s with
  | zero => exact .pure rfl
  | succ room ih =>
    refine (s.read_keeps honest chunk).bind fun b s' hlength ⟨_, hposition⟩ => ?_
    dsimp only
    split
    · next hnone =>
      refine .pure ?_
      have hsize : b.size = 0 := by simpa [ByteArray.isEmpty] using hnone
      omega
    · intro w hw
      have hrest := ih s' (front ++ b) w hw
      refine ⟨hrest.length, hrest.tracked, ?_⟩
      have hresult := hrest.result
      rw [ByteArray.size_append] at hresult
      omega

theorem readRange_keeps (honest : LengthHonest σ) (offset n : UInt64) :
    s.Keeps (σ := σ) (fun a s' => ∀ b, a = .ok b → b.size ≤ n.toNat
      ∧ (s' = s ∧ b.size = 0 ∨ s'.position.toNat = offset.toNat + b.size))
      (s.readRange offset n) := by
  have hnothing : ∀ b, (.ok .empty : Except AccessError ByteArray) = .ok b → b.size ≤ n.toNat
      ∧ (s = s ∧ b.size = 0 ∨ s.position.toNat = offset.toNat + b.size) := by
    rintro b ⟨⟩
    exact ⟨Nat.zero_le _, .inl ⟨rfl, rfl⟩⟩
  refine .live (fun _ => .pure hnothing) fun _ => ?_
  dsimp only
  split
  · exact .pure hnothing
  · next hwant =>
    refine .attempt (fun r hr => (hr.ask_from hwant).1) (fun e => .pure fun b hb => by cases hb) ?_
    intro e b r hb hr
    obtain ⟨hask, hfits⟩ := hr.ask_from hwant
    have hgot := honest.readRange _ _ _ _ _ hb
    have hplace := Nat.le_trans (Nat.add_le_add_left hgot _) hfits
    refine ⟨rfl, hask.moveTo (Tracked.toNat_place hplace) hplace, ?_⟩
    rintro _ ⟨⟩
    rw [toNat_min] at hgot
    exact ⟨Nat.le_trans hgot (Nat.min_le_left _ _), .inr (Tracked.toNat_place hplace)⟩

theorem skip_keeps (n : UInt64) :
    s.Keeps (σ := σ) (fun a s' => ∀ k, a = .ok k → s'.position.toNat = s.position.toNat + k.toNat
      ∧ (s.isClosed = false → k.toNat = min n.toNat (s.length.toNat - s.position.toNat)))
      (s.skip n) := by
  have hcount : (min n s.remaining).toNat = min n.toNat (s.length.toNat - s.position.toNat) := by
    rw [toNat_min, ContentStream.remaining, toNat_leftFrom]
  refine .live (fun hclosed => .pure ?_) fun _ => ?_
  · rintro _ ⟨⟩
    exact ⟨rfl, fun hopen => absurd (hclosed.symm.trans hopen) (by simp)⟩
  dsimp only
  split
  · next hnothing =>
    refine .pure ?_
    rintro _ ⟨⟩
    exact ⟨rfl, fun _ => by rw [← hcount, hnothing]⟩
  · next hwant =>
    refine .attempt (fun r hr => (hr.ask_here hwant).1) (fun e => .pure fun k hk => by cases hk) ?_
    intro e _ r _ hr
    obtain ⟨hask, hfits⟩ := hr.ask_here hwant
    have hmoved := hask.moveBy hfits
    have hplace := Tracked.toNat_place hfits
    rw [UInt64.ofNat_toNat] at hmoved hplace
    refine ⟨rfl, hmoved, ?_⟩
    rintro _ ⟨⟩
    exact ⟨hplace, fun _ => hcount⟩

theorem setMark_keeps :
    s.Keeps (σ := σ) (fun a s' => a = .ok () → s.isClosed = false → s'.mark = s.position)
      s.setMark := by
  refine .live (fun hclosed => .pure ?_) fun _ => ?_
  · exact fun _ hopen => absurd (hclosed.symm.trans hopen) (by simp)
  refine .attempt (fun _ hr => hr) (fun e => .pure fun h => by cases h) fun e _ r _ hr => ?_
  exact ⟨rfl, ⟨hr.position, hr.position, hr.within, hr.within, hr.asked⟩, fun _ _ => rfl⟩

theorem reset_keeps (toMark : Bool) :
    s.Keeps (σ := σ) (fun a s' => a = .ok () → s.isClosed = false →
      s' = { s with position := if toMark then s.mark else 0 }) (s.reset toMark) := by
  refine .live (fun hclosed => .pure ?_) fun _ => ?_
  · exact fun _ hopen => absurd (hclosed.symm.trans hopen) (by simp)
  refine .attempt (fun _ hr => hr) (fun e => .pure fun h => by cases h) fun e _ r _ hr => ?_
  refine ⟨rfl, ?_, fun _ _ => rfl⟩
  cases toMark with
  | false => exact hr.moveTo rfl (Nat.zero_le _)
  | true => exact hr.moveTo hr.mark hr.marked

theorem seek_keeps (place : UInt64) :
    s.Keeps (σ := σ) (fun a s' => ∀ k, a = .ok k → s.isClosed = false →
      k.toNat = min place.toNat s.length.toNat ∧ s'.position = k) (s.seek place) := by
  refine .live (fun hclosed => .pure ?_) fun hopen => ?_
  · exact fun _ _ hopen => absurd (hclosed.symm.trans hopen) (by simp)
  refine (s.reset_keeps false).bind fun a s' hlength hstart => ?_
  cases a with
  | error e => exact .pure fun k hk => by cases hk
  | ok _ =>
    obtain rfl := hstart rfl hopen
    intro w hw
    have hskip := skip_keeps _ place w hw
    refine ⟨hskip.length, hskip.tracked, fun k hk _ => ?_⟩
    obtain ⟨hposition, hcount⟩ := hskip.result k hk
    refine ⟨hcount hopen, UInt64.toNat_inj.mp ?_⟩
    rw [hposition]
    exact Nat.zero_add _

theorem seekTo_keeps (t : SeekTarget) :
    s.Keeps (σ := σ) (fun a s' => ∀ k, a = .ok k → s'.position = k
      ∧ (s.isClosed = false → (k.toNat : Int) = min (s.targetSum t) s.length.toNat))
      (s.seekTo t) := by
  cases htarget : s.target? t with
  | none =>
    unfold ContentStream.seekTo
    rw [htarget]
    exact .pure fun k hk => by cases hk
  | some p =>
    have hsum := target?_eq_some_iff.mp htarget
    rw [seekTo_of_target htarget, hsum]
    split
    · -- forward from where the stream is, by a difference that cannot wrap
      next hle =>
      have hforward : (p - s.position).toNat = p.toNat - s.position.toNat :=
        UInt64.toNat_sub_of_le _ _ hle
      intro w hw
      have hinside : s.position.toNat ≤ s.length.toNat := hw.position ▸ hw.within
      refine (s.skip_keeps (p - s.position)).bind (fun a s' hlength hskipped => ?_) w hw
      cases a with
      | error e => exact .pure fun k hk => by cases hk
      | ok n =>
        refine .pure ?_
        rintro _ ⟨⟩
        refine ⟨rfl, fun hopen => ?_⟩
        obtain ⟨hposition, hn⟩ := hskipped n rfl
        have hn := hn hopen
        have hle' := UInt64.le_iff_toNat_le.mp hle
        omega
    · -- backward, from the start again
      refine (s.seek_keeps p).bind fun a s' hlength hsought => ?_
      cases a with
      | error e => exact .pure fun k hk => by cases hk
      | ok n =>
        refine .pure ?_
        rintro _ ⟨⟩
        refine ⟨rfl, fun hopen => ?_⟩
        obtain ⟨hn, rfl⟩ := hsought n rfl hopen
        omega

theorem available_keeps {α : Type} {f : UInt64 → α} {Q : α → ContentStream → Prop}
    (h : ∀ n, Q (f n) s) :
    s.Keeps (σ := σ) Q (do let n ← s.available; pure (f n, s)) := by
  show s.Keeps Q ((s.live _ >>= _) >>= _)
  rw [bind_assoc]
  exact .live (fun _ => .pure (h 0)) fun _ _ hw => ⟨rfl, hw, h _⟩

theorem close_keeps : s.Keeps (σ := σ) (fun _ _ => True) s.close := by
  intro w hw
  unfold close OwnedHandle.release OwnedHandle.giveBack
  split
  · exact ⟨rfl, hw, trivial⟩
  · cases s.handle.kind <;>
      exact ⟨rfl, ⟨hw.position, hw.mark, hw.within, hw.marked, hw.asked⟩, trivial⟩

end Operations

end ContentStream

/-! ## §5. Every operation. -/

namespace StreamOp

/-- Does the operation ask the engine for everything at once? -/
def readsAll : StreamOp → Bool
  | .readAll => true
  | _ => false

/-- The arithmetic of an operation in whole numbers: what it answers, and where
it takes the stream from `s` to `s'`. -/
def Reckons (s s' : ContentStream) : StreamOp → StreamReply → Prop
  | .read n, .bytes b => b.size ≤ n.toNat ∧ s'.position.toNat = s.position.toNat + b.size
  | .readInto buffer, .filled n filled =>
    n.toNat ≤ buffer.size ∧ filled.size = buffer.size
      ∧ (∃ front : ByteArray, front.size = n.toNat
          ∧ filled = front ++ buffer.extract front.size buffer.size)
      ∧ s'.position.toNat = s.position.toNat + n.toNat
  | .readToEnd _, .bytes b => s'.position.toNat = s.position.toNat + b.size
  | .readRange offset n, .bytes b =>
    b.size ≤ n.toNat ∧ (s' = s ∧ b.size = 0 ∨ s'.position.toNat = offset.toNat + b.size)
  | .skip n, .number k =>
    s'.position.toNat = s.position.toNat + k.toNat
      ∧ (s.isClosed = false → k.toNat = min n.toNat (s.length.toNat - s.position.toNat))
  | .mark, .done => s.isClosed = false → s'.mark = s.position
  | .reset toMark, .done => s.isClosed = false → s'.position = if toMark then s.mark else 0
  | .seek place, .number k =>
    s.isClosed = false → k.toNat = min place.toNat s.length.toNat ∧ s'.position = k
  | .seekTo t, .number k =>
    s'.position = k ∧ (s.isClosed = false → (k.toNat : Int) = min (s.targetSum t) s.length.toNat)
  | _, _ => True

variable {σ : Type} [StreamEngine σ]

/-- **Every operation but reading all at once** keeps a stream tracked, and
reckons as whole numbers do. -/
theorem run_keeps (honest : LengthHonest σ) (s : ContentStream) (op : StreamOp)
    (hop : op.readsAll = false) :
    s.Keeps (σ := σ) (fun a s' => op.Reckons s s' a) (op.run s) := by
  cases op with
  | read n => exact (s.read_keeps honest n).bind fun _ _ _ h => .pure h
  | readInto buffer => exact (s.readInto_keeps honest buffer).bind fun _ _ _ h => .pure h
  | readToEnd chunk =>
    refine (s.readChunks_keeps honest chunk _ .empty).bind fun _ _ _ h => .pure ?_
    exact h
  | available => exact s.available_keeps fun _ => trivial
  | readAll => cases hop
  | readRange offset n =>
    refine (s.readRange_keeps honest offset n).bind fun a _ _ h => .pure ?_
    cases a with
    | error e => trivial
    | ok b => exact h b rfl
  | skip n =>
    refine (s.skip_keeps n).bind fun a _ _ h => .pure ?_
    cases a with
    | error e => trivial
    | ok k => exact h k rfl
  | mark =>
    refine s.setMark_keeps.bind fun a _ _ h => .pure ?_
    cases a with
    | error e => trivial
    | ok _ => exact h rfl
  | reset toMark =>
    refine (s.reset_keeps toMark).bind fun a _ _ h => .pure ?_
    cases a with
    | error e => trivial
    | ok _ => exact fun hopen => by rw [h rfl hopen]
  | seek place =>
    refine (s.seek_keeps place).bind fun a _ _ h => .pure ?_
    cases a with
    | error e => trivial
    | ok k => exact h k rfl
  | seekTo t =>
    refine (s.seekTo_keeps t).bind fun a _ _ h => .pure ?_
    cases a with
    | error e => trivial
    | ok k => exact h k rfl
  | position => exact .pure trivial
  | close => exact s.close_keeps.bind fun _ _ _ h => .pure trivial

/-- Hence every sequence of them keeps it tracked. -/
theorem runAll_keeps (honest : LengthHonest σ) (s : ContentStream) (ops : List StreamOp)
    (hops : ∀ op ∈ ops, op.readsAll = false) :
    s.Keeps (σ := σ) (fun _ _ => True) (runAll s ops) := by
  -- the invariant is that the stream is tracked, whatever each operation answers
  induction ops generalizing s with
  | nil => exact .pure trivial
  | cons op ops ih =>
    refine (run_keeps honest s op (hops op List.mem_cons_self)).bind fun _ s' _ _ => ?_
    exact (ih s' fun o ho => hops o (List.mem_cons_of_mem _ ho)).bind fun _ _ _ _ => .pure trivial

end StreamOp

/-! ## §6. The arithmetic of a stream. -/

/-- **The arithmetic of a stream is that of whole numbers**, whatever engine is
behind it, as long as that gives no more bytes than it is asked for.  Open a
stream over any such engine, do any operations on it but reading all at once,
and watch.  The record beside the engine changes nothing and holds the numbers
that the stream's words stand for: no position or mark has wrapped or is past
the declared length, and the engine was never asked for an empty span or for one
that reaches past the declared length.  The next operation reckons exactly: none
of its sums wraps, and it writes nowhere but into the front of its buffer. -/
theorem ContentStream.positions_stay_exact {σ : Type} [StreamEngine σ] (honest : LengthHonest σ)
    (e : σ) (h : Handle) (path : String) (cap : UInt64) (ops : List StreamOp)
    (hops : ∀ op ∈ ops, op.readsAll = false) (op : StreamOp) (hop : op.readsAll = false) :
    let opened := ContentStream.ofHandle h path cap e
    let plain := StreamOp.runAll opened.1 ops opened.2
    let watched := StreamOp.runAll opened.1 ops (Watched.start opened.2)
    let next := op.run plain.1.2 plain.2
    watched.1 = plain.1 ∧ watched.2.engine = plain.2
      ∧ plain.1.2.length = (StreamEngine.available h e).1
      ∧ plain.1.2.Tracked watched.2.record
      ∧ op.Reckons plain.1.2 next.1.2 next.1.1 := by
  intro opened plain watched next
  have hstart : opened.1.Tracked (Watched.start opened.2).record :=
    { position := rfl, mark := rfl, within := Nat.zero_le _, marked := Nat.zero_le _,
      asked := fun _ hx => absurd hx List.not_mem_nil }
  obtain ⟨hanswers, hengine⟩ := StreamOp.runAll_unwatched opened.1 ops (Watched.start opened.2)
  have hkept := StreamOp.runAll_keeps honest opened.1 ops hops _ hstart
  have hnext := (StreamOp.run_keeps honest _ op hop _ hkept.tracked).result
  rw [(StreamOp.run_unwatched _ op _).1, hanswers, hengine] at hnext
  -- what holds of the watched run holds of the plain one
  have hlength := hkept.length
  have htracked := hkept.tracked
  rw [hanswers] at hlength htracked
  exact ⟨hanswers, hengine, hlength, htracked, hnext⟩

/-- An engine that declares as many bytes as there are words, gives few, and
refuses every other move. -/
structure Fickle where
  calls : Nat

namespace Fickle

/-- One more call. -/
def count {α : Type} (reply : Nat → α) : StateM Fickle α := fun e => (reply e.calls, ⟨e.calls + 1⟩)

/-- Every other call is refused. -/
def everyOther (calls : Nat) : Except EngineError Unit :=
  if calls % 2 = 0 then .ok () else .error default

/-- Three bytes at most. -/
def few (n : UInt64) : ByteArray := ⟨Array.replicate (min 3 n.toNat) 0⟩

instance : StreamEngine Fickle where
  releaseHandle _ := count fun _ => ()
  closeStream _ := count fun _ => ()
  emit _ := pure ()
  available _ := count fun _ => UInt64.ofNat (UInt64.size - 1)
  readBytes _ n := count fun _ => few n
  readAll _ n := count fun _ => few n
  readRange _ _ n := count fun _ => .ok (few n)
  skip _ _ := count everyOther
  mark _ := count everyOther
  reset _ _ := count everyOther

theorem lengthHonest : LengthHonest Fickle where
  readBytes _ n _ := by
    show (Array.replicate (min 3 n.toNat) (0 : UInt8)).size ≤ n.toNat
    rw [Array.size_replicate]
    exact Nat.min_le_right _ _
  readRange _ _ n _ := by
    rintro _ ⟨⟩
    show (Array.replicate (min 3 n.toNat) (0 : UInt8)).size ≤ n.toNat
    rw [Array.size_replicate]
    exact Nat.min_le_right _ _

end Fickle

/-- Near the end of all words a read and a skip are cut there; the skip behind a
rewind is refused, and the stream stands at the start. -/
theorem ContentStream.positions_stay_exact_sample :
    let ops : List StreamOp := [.seekTo (.fromEnd (-4)), .read 9, .skip 7, .mark, .seek 5]
    let opened := ContentStream.ofHandle ⟨1⟩ "a" 100 (Fickle.mk 1)
    let plain := StreamOp.runAll opened.1 ops opened.2
    let watched := StreamOp.runAll opened.1 ops (Watched.start opened.2)
    LengthHonest Fickle ∧ (∀ op ∈ ops, op.readsAll = false)
      ∧ plain.1.2.Tracked watched.2.record
      ∧ plain.1.2.length.toNat + 1 = UInt64.size
      ∧ plain.1.2.position = 0
      ∧ watched.2.record.spans
          = [⟨0, UInt64.size - 5⟩, ⟨UInt64.size - 5, 4⟩, ⟨UInt64.size - 2, 1⟩, ⟨0, 5⟩] := by
  have hexact := positions_stay_exact Fickle.lengthHonest (Fickle.mk 1) ⟨1⟩ "a" 100
    [.seekTo (.fromEnd (-4)), .read 9, .skip 7, .mark, .seek 5] (by decide) .mark rfl
  exact ⟨Fickle.lengthHonest, by decide, hexact.2.2.2.1, by decide, by decide, by decide⟩

end EpubAccess
