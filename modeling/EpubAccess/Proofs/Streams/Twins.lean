/-
  EpubAccess.Proofs.Streams.Twins
  ────────────────────────────────
  Two streams that differ in nothing but the number of their handle.

  Handles are numbered in the order in which they are issued, so a host that
  does less gets other numbers for the same streams.  `ContentStream.Twins`
  relates two streams, each with its gateway, that are alike but for that
  number and stand at equal cursors of their engines.

  Whatever is asked of both, twins give equal answers and stay twins
  (`StreamOp.run_twins`): no operation looks at the number of a handle, and
  the only errors that name one are about handles that are not live.
-/
import EpubAccess.Proofs.Ownership.Opening
import EpubAccess.Proofs.Streams.Following

namespace EpubAccess

open Stateful Gateway

/-! ## §1. Streams without a number. -/

/-- The stream under another handle. -/
def ContentStream.renamed (s : ContentStream) (h : Handle) : ContentStream :=
  { s with handle := { s.handle with handle := h } }

/-- The stream with the number of its handle left out. -/
def ContentStream.nameless (s : ContentStream) : ContentStream := s.renamed ⟨0⟩

theorem ContentStream.exists_renamed {s s' : ContentStream} (h : s'.nameless = s.nameless) :
    ∃ x, s' = s.renamed x := by
  refine ⟨s'.handle.handle, ?_⟩
  have hback : s' = s'.nameless.renamed s'.handle.handle := rfl
  rw [hback, h]
  rfl

/-! ## §2. Two runs side by side. -/

section Pairs

variable {α β γ δ : Type} {R : Gateway → β → Gateway → β → Prop}
    {R' : Gateway → δ → Gateway → δ → Prop}
  {g g' : Gateway}

/-- The work `m` at `g` and the work `m'` at `g'` give equal answers and leave
what `R` relates. -/
structure Pairs (R : Gateway → β → Gateway → β → Prop) (g : Gateway)
    (m : StateM Gateway (α × β)) (g' : Gateway) (m' : StateM Gateway (α × β)) : Prop where
  answer : (m' g').1.1 = (m g).1.1
  rest : R (m g).2 (m g).1.2 (m' g').2 (m' g').1.2

namespace Pairs

theorem pure {a : α} {b b' : β} (h : R g b g' b') :
    Pairs R g (pure (a, b) : StateM Gateway (α × β)) g' (pure (a, b')) :=
  ⟨rfl, h⟩

/-- Work that goes on with equal answers and with what is related. -/
theorem bind {m m' : StateM Gateway (α × β)} {f f' : α × β → StateM Gateway (γ × δ)}
    (h : Pairs R g m g' m')
    (hf : ∀ a g b g' b', R g b g' b' → Pairs R' g (f (a, b)) g' (f' (a, b'))) :
    Pairs R' g (m >>= f) g' (m' >>= f') := by
  have hnext := hf (m g).1.1 _ _ _ _ h.rest
  have hpair : (m' g').1 = ((m g).1.1, (m' g').1.2) := Prod.ext h.answer rfl
  refine ⟨?_, ?_⟩
  · show (f' (m' g').1 (m' g').2).1.1 = (f (m g).1 (m g).2).1.1
    rw [hpair]
    exact hnext.answer
  · show R' _ _ (f' (m' g').1 (m' g').2).2 (f' (m' g').1 (m' g').2).1.2
    rw [hpair]
    exact hnext.rest

/-- Both take the same branch. -/
theorem ite {P : Prop} [Decidable P] {m m' n n' : StateM Gateway (α × β)}
    (ht : P → Pairs R g m g' m') (he : ¬ P → Pairs R g n g' n') :
    Pairs R g (if P then m else n) g' (if P then m' else n') := by
  by_cases hP : P
  · rw [if_pos hP, if_pos hP]
    exact ht hP
  · rw [if_neg hP, if_neg hP]
    exact he hP

end Pairs

end Pairs

/-! ## §3. Twins. -/

namespace ContentStream

/-- Closing an open stream gives its handle back. -/
theorem close_of_open {s : ContentStream} (hr : s.handle.released = false) (g : Gateway) :
    s.close g = ((true, { s with handle := { s.handle with released := true } }),
      (Gateway.emit (.streamClosed s.handle.handle s.path) (s.handle.giveBack g).2).2) := by
  unfold ContentStream.close OwnedHandle.release
  rw [hr]
  rfl

/-- Closing a stream again does nothing. -/
theorem close_of_closed {s : ContentStream} (hr : s.handle.released = true) (g : Gateway) :
    s.close g = ((false, s),
      (Gateway.emit (.releasedTwice s.handle.kind s.handle.handle) g).2) := by
  unfold ContentStream.close OwnedHandle.release
  rw [hr]
  rfl

/-- Two streams, each with its gateway, that are alike but for the number of
the handle, and if they are open stand at equal cursors.  No fault waits. -/
structure Twins (g : Gateway) (s : ContentStream) (g' : Gateway) (s' : ContentStream) : Prop where
  calm : g.faults = .none
  calm' : g'.faults = .none
  same : s'.nameless = s.nameless
  behind : s.isClosed = false → ∃ c, g.engine.live[s.handle.handle]? = some (.stream c)
    ∧ g'.engine.live[s'.handle.handle]? = some (.stream c)

namespace Twins

variable {g g' : Gateway} {s s' : ContentStream} {α β : Type}

theorem renamed (h : Twins g s g' s') : ∃ x, s' = s.renamed x := exists_renamed h.same

/-- Streams of two gateways that both left them alone. -/
theorem congr {g₁ g₁' : Gateway} (h : Twins g s g' s') (hf : g₁.faults = .none)
    (hf' : g₁'.faults = .none)
    (hl : ∀ x, s.handle.get? = some x → g₁.engine.live[x]? = g.engine.live[x]?)
    (hl' : ∀ x, s'.handle.get? = some x → g₁'.engine.live[x]? = g'.engine.live[x]?) :
    Twins g₁ s g₁' s' := by
  refine ⟨hf, hf', h.same, fun hopen => ?_⟩
  obtain ⟨y, rfl⟩ := h.renamed
  obtain ⟨c, hc, hc'⟩ := h.behind hopen
  exact ⟨c, (hl _ (OwnedHandle.get?_eq_some hopen)).trans hc,
    (hl' _ (OwnedHandle.get?_eq_some hopen)).trans hc'⟩

theorem symm (h : Twins g s g' s') : Twins g' s' g s := by
  refine ⟨h.calm', h.calm, h.same.symm, fun hopen => ?_⟩
  obtain ⟨x, rfl⟩ := h.renamed
  obtain ⟨c, hc, hc'⟩ := h.behind hopen
  exact ⟨c, hc', hc⟩

/-- Events do not matter. -/
theorem emit (h : Twins g s g' s') (e e' : Event) :
    Twins (Gateway.emit e g).2 s (Gateway.emit e' g').2 s' :=
  h.congr h.calm h.calm' (fun _ _ => rfl) fun _ _ => rfl

/-- Twins moved alike on the side of the streams. -/
theorem place (h : Twins g s g' s') (p m : UInt64) :
    Twins g { s with position := p, mark := m } g' { s' with position := p, mark := m } := by
  obtain ⟨x, rfl⟩ := h.renamed
  exact ⟨h.calm, h.calm', rfl, h.behind⟩

/-- The handle of an open stream is asked for; a closed one reports the access. -/
theorem live_bind {R : Gateway → β → Gateway → β → Prop} (h : Twins g s g' s') (x : StreamAccess)
    {f f' : Option Handle → StateM Gateway (α × β)}
    (hnone : ∀ g g', Twins g s g' s' → Pairs R g (f none) g' (f' none))
    (hsome : s.isClosed = false →
      Pairs R g (f (some s.handle.handle)) g' (f' (some s'.handle.handle))) :
    Pairs R g (s.live x >>= f) g' (s'.live x >>= f') := by
  obtain ⟨y, rfl⟩ := h.renamed
  cases hr : s.handle.released with
  | true =>
    have hget : s.handle.get? = none := OwnedHandle.get?_eq_none hr
    have hget' : (s.renamed y).handle.get? = none := OwnedHandle.get?_eq_none hr
    unfold live
    rw [hget, hget']
    have hnext := hnone _ _ (h.emit (.closedStreamUsed x s.handle.handle s.path)
      (.closedStreamUsed x y s.path))
    exact ⟨hnext.answer, hnext.rest⟩
  | false =>
    have hget : s.handle.get? = some s.handle.handle := OwnedHandle.get?_eq_some hr
    have hget' : (s.renamed y).handle.get? = some y := OwnedHandle.get?_eq_some hr
    unfold live
    rw [hget, hget']
    exact ⟨(hsome hr).answer, (hsome hr).rest⟩

/-- A call about the cursors of both gives equal answers and moves them alike. -/
theorem call_bind {R : Gateway → β → Gateway → β → Prop} (h : Twins g s g' s')
    (hopen : s.isClosed = false) {γ : Type} {m m' : StateM Gateway γ} {F : Cursor → γ × Cursor}
    (hm : Works s.handle.handle m F) (hm' : Works s'.handle.handle m' F)
    {f f' : γ → StateM Gateway (α × β)}
    (hf : ∀ a g g', Twins g s g' s' → Pairs R g (f a) g' (f' a)) :
    Pairs R g (m >>= f) g' (m' >>= f') := by
  obtain ⟨c, hc, hc'⟩ := h.behind hopen
  obtain ⟨ha, hl, hcalm⟩ := hm g c h.calm hc
  obtain ⟨ha', hl', hcalm'⟩ := hm' g' c h.calm' hc'
  have hnext := hf (F c).1 _ _ ⟨hcalm, hcalm', h.same, fun _ => ⟨(F c).2, hl, hl'⟩⟩
  refine ⟨?_, ?_⟩
  · show (f' (m' g').1 (m' g').2).1.1 = (f (m g).1 (m g).2).1.1
    rw [ha, ha']
    exact hnext.answer
  · show R (f (m g).1 (m g).2).2 (f (m g).1 (m g).2).1.2
      (f' (m' g').1 (m' g').2).2 (f' (m' g').1 (m' g').2).1.2
    rw [ha, ha']
    exact hnext.rest

/-! ## §4. One operation. -/

/-- The two runs of a stream operation. -/
abbrev Agree (g : Gateway) (m : StateM Gateway (α × ContentStream)) (g' : Gateway)
    (m' : StateM Gateway (α × ContentStream)) : Prop :=
  Pairs Twins g m g' m'

/-- The number of bytes after the cursor, if there is one, with the stream beside
it, as the other operations have it. -/
def count (s : ContentStream) : Option Handle → StateM Gateway (UInt64 × ContentStream)
  | none => pure (0, s)
  | some h => Gateway.available h >>= fun n => pure (n, s)

theorem available (h : Twins g s g' s') :
    (s'.available g').1 = (s.available g).1
      ∧ Twins (s.available g).2 s (s'.available g').2 s' := by
  have hpairs : Agree g (s.live .available >>= count s) g' (s'.live .available >>= count s') := by
    refine h.live_bind .available (fun _ _ h => .pure h) fun hopen => ?_
    exact h.call_bind hopen available_works available_works fun _ _ _ h => .pure h
  have hrun : ∀ (s : ContentStream) (g : Gateway),
      (s.live .available >>= count s) g = (((s.available g).1, s), (s.available g).2) := by
    intro s g
    unfold ContentStream.available
    rw [bind_apply, bind_apply]
    cases (s.live .available g).1 <;> rfl
  have ha := hpairs.answer
  have ht := hpairs.rest
  rw [hrun, hrun] at ha ht
  exact ⟨ha, ht⟩

theorem read (h : Twins g s g' s') (n : UInt64) : Agree g (s.read n) g' (s'.read n) := by
  obtain ⟨x, rfl⟩ := h.renamed
  unfold ContentStream.read
  refine h.live_bind .read (fun _ _ h => .pure h) fun hopen => ?_
  refine .ite (fun _ => .pure h) fun _ => ?_
  refine h.call_bind hopen (readBytes_works _) (readBytes_works _) fun bytes _ _ h => .pure ?_
  exact h.place (s.position + sizeOf bytes) s.mark

theorem readInto (h : Twins g s g' s') (buffer : ByteArray) :
    Agree g (s.readInto buffer) g' (s'.readInto buffer) :=
  (h.read _).bind fun _ _ _ _ _ h => .pure h

/-- Chunk after chunk; the reading ends for both at once, since both read the
same bytes. -/
theorem readChunks (chunk : UInt64) (room : Nat) (front : ByteArray) :
    ∀ {g g' s s'}, Twins g s g' s' →
      Agree g (ContentStream.readChunks chunk room front s) g'
        (ContentStream.readChunks chunk room front s') := by
  induction room generalizing front with
  | zero =>
    intro g g' s s' h
    exact .pure h
  | succ room ih =>
    intro g g' s s' h
    refine (h.read chunk).bind fun bytes _ _ _ _ h => ?_
    exact .ite (fun _ => .pure h) fun _ => ih (front ++ bytes) h

theorem readToEnd (h : Twins g s g' s') (chunk : UInt64) :
    Agree g (s.readToEnd chunk) g' (s'.readToEnd chunk) := by
  obtain ⟨x, rfl⟩ := h.renamed
  exact readChunks chunk (s.remaining.toNat + 1) .empty h

theorem readAll (h : Twins g s g' s') : Agree g s.readAll g' s'.readAll := by
  obtain ⟨x, rfl⟩ := h.renamed
  unfold ContentStream.readAll
  refine h.live_bind .readAll (fun _ _ h => .pure h) fun hopen => ?_
  refine h.call_bind hopen (readAll_works _) (readAll_works _) fun bytes _ _ h => .pure ?_
  exact h.place (s.position + sizeOf bytes) s.mark

theorem readRange (h : Twins g s g' s') (offset n : UInt64) :
    Agree g (s.readRange offset n) g' (s'.readRange offset n) := by
  obtain ⟨x, rfl⟩ := h.renamed
  unfold ContentStream.readRange
  refine h.live_bind .readRange (fun _ _ h => .pure h) fun hopen => ?_
  refine .ite (fun _ => .pure h) fun _ => ?_
  refine h.call_bind hopen (readRange_works _ _) (readRange_works _ _) fun r _ _ h => ?_
  cases r with
  | error e => exact .pure h
  | ok bytes => exact .pure (h.place (offset + sizeOf bytes) s.mark)

theorem skip (h : Twins g s g' s') (n : UInt64) : Agree g (s.skip n) g' (s'.skip n) := by
  obtain ⟨x, rfl⟩ := h.renamed
  unfold ContentStream.skip
  refine h.live_bind .skip (fun _ _ h => .pure h) fun hopen => ?_
  refine .ite (fun _ => .pure h) fun _ => ?_
  refine h.call_bind hopen (skip_works _) (skip_works _) fun r _ _ h => ?_
  cases r with
  | error e => exact .pure h
  | ok _ => exact .pure (h.place (s.position + min n s.remaining) s.mark)

theorem setMark (h : Twins g s g' s') : Agree g s.setMark g' s'.setMark := by
  obtain ⟨x, rfl⟩ := h.renamed
  unfold ContentStream.setMark
  refine h.live_bind .mark (fun _ _ h => .pure h) fun hopen => ?_
  refine h.call_bind hopen mark_works mark_works fun r _ _ h => ?_
  cases r with
  | error e => exact .pure h
  | ok _ => exact .pure (h.place s.position s.position)

theorem reset (h : Twins g s g' s') (toMark : Bool) :
    Agree g (s.reset toMark) g' (s'.reset toMark) := by
  obtain ⟨x, rfl⟩ := h.renamed
  unfold ContentStream.reset
  refine h.live_bind .reset (fun _ _ h => .pure h) fun hopen => ?_
  refine h.call_bind hopen (reset_works toMark) (reset_works toMark) fun r _ _ h => ?_
  cases r with
  | error e => exact .pure h
  | ok _ => exact .pure (h.place (if toMark then s.mark else 0) s.mark)

/-- Rewinding and skipping. -/
theorem seek (h : Twins g s g' s') (k : UInt64) : Agree g (s.seek k) g' (s'.seek k) := by
  unfold ContentStream.seek
  refine h.live_bind .seek (fun _ _ h => .pure h) fun _ => ?_
  refine (h.reset false).bind fun r _ _ _ _ h => ?_
  cases r with
  | error e => exact .pure h
  | ok _ => exact h.skip k

theorem target? (h : Twins g s g' s') (t : SeekTarget) : s'.target? t = s.target? t := by
  obtain ⟨x, rfl⟩ := h.renamed
  cases t <;> rfl

theorem seekTo (h : Twins g s g' s') (t : SeekTarget) : Agree g (s.seekTo t) g' (s'.seekTo t) := by
  unfold ContentStream.seekTo
  rw [h.target? t]
  cases s.target? t with
  | none => exact .pure h
  | some target =>
    obtain ⟨x, rfl⟩ := h.renamed
    dsimp only
    refine .ite (fun _ => (h.skip (target - s.position)).bind ?_) fun _ => (h.seek target).bind ?_
    -- whichever way the streams moved, where they ended is told
    all_goals
      intro r g s g' s' h
      obtain ⟨x, rfl⟩ := h.renamed
      cases r <;> exact .pure h

/-- Closing: the first time for both or for neither. -/
theorem close (h : Twins g s g' s') : Agree g s.close g' s'.close := by
  obtain ⟨x, rfl⟩ := h.renamed
  cases hr : s.handle.released with
  | true =>
    have hr' : (s.renamed x).handle.released = true := hr
    refine ⟨?_, ?_⟩
    · rw [close_of_closed hr, close_of_closed hr']
    · rw [close_of_closed hr, close_of_closed hr']
      exact h.emit _ _
  | false =>
    have hr' : (s.renamed x).handle.released = false := hr
    refine ⟨?_, ?_⟩
    · rw [close_of_open hr, close_of_open hr']
    · rw [close_of_open hr, close_of_open hr']
      refine ⟨?_, ?_, rfl, fun hopen => absurd hopen (by simp [isClosed])⟩
      · exact (s.handle.giveBack_faults g).trans h.calm
      · exact ((s.renamed x).handle.giveBack_faults g').trans h.calm'

end Twins

end ContentStream

/-! ## §5. Every operation. -/

/-- **Twins give equal answers to every operation** and stay twins. -/
theorem StreamOp.run_twins {g g' : Gateway} {s s' : ContentStream}
    (h : ContentStream.Twins g s g' s') (op : StreamOp) :
    Pairs ContentStream.Twins g (op.run s) g' (op.run s') := by
  cases op with
  | read n => exact (h.read n).bind fun _ _ _ _ _ h => .pure h
  | readInto buffer => exact (h.readInto buffer).bind fun _ _ _ _ _ h => .pure h
  | readToEnd chunk => exact (h.readToEnd chunk).bind fun _ _ _ _ _ h => .pure h
  | available =>
    obtain ⟨ha, h'⟩ := h.available
    exact ⟨congrArg StreamReply.number ha, h'⟩
  | readAll => exact h.readAll.bind fun _ _ _ _ _ h => .pure h
  | readRange offset n => exact (h.readRange offset n).bind fun _ _ _ _ _ h => .pure h
  | skip n => exact (h.skip n).bind fun _ _ _ _ _ h => .pure h
  | mark => exact h.setMark.bind fun _ _ _ _ _ h => .pure h
  | reset toMark => exact (h.reset toMark).bind fun _ _ _ _ _ h => .pure h
  | seek k => exact (h.seek k).bind fun _ _ _ _ _ h => .pure h
  | seekTo t => exact (h.seekTo t).bind fun _ _ _ _ _ h => .pure h
  | position =>
    obtain ⟨x, rfl⟩ := h.renamed
    exact .pure h
  | close => exact h.close.bind fun _ _ _ _ _ h => .pure h

end EpubAccess
