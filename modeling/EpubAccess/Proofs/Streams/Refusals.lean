/-
  EpubAccess.Proofs.Streams.Refusals
  ────────────────────────────────
  Streams whose moves are refused.

  Skips, marks, resets and range reads may be refused: by the engine, where
  the content does not move, and by faults that wait at the gateway.  A
  `ContentStream` counts for itself where the engine's cursor stands, so it
  must not count a move that was refused.

  `ContentStream.Agrees` says that both stand where one `PlainCursor` stands,
  whatever faults wait.  While these refuse at most, an operation goes as if
  none waited, or it ends with an error and moves nothing
  (`Gateway.Refusable`).  Only rewinding and skipping is two calls, and it may
  end between them: `StreamOp.Strands` tells when.  In any case the stream
  and the engine agree afterwards (`StreamOp.run_ends`).
-/
import EpubAccess.Proofs.Lifetimes.Forward
import EpubAccess.Proofs.Streams.Following

namespace EpubAccess

open Stateful

/-! ## §1. Work while faults wait. -/

namespace Gateway

variable {α β : Type} {g : Gateway}

/-- The gateway with other faults waiting. -/
def awaiting (g : Gateway) (q : Faults) : Gateway := { g with faults := q }

/-- The work goes as if no fault waited, and uses none up. -/
structure Undisturbed (m : StateM Gateway α) (g : Gateway) : Prop where
  run : m g = ((m (g.awaiting .none)).1, (m (g.awaiting .none)).2.awaiting g.faults)
  calm : (m (g.awaiting .none)).2.faults = .none

namespace Undisturbed

theorem answer {m : StateM Gateway α} (h : Undisturbed m g) :
    (m g).1 = (m (g.awaiting .none)).1 := by
  rw [h.run]

theorem engine {m : StateM Gateway α} (h : Undisturbed m g) :
    (m g).2.engine = (m (g.awaiting .none)).2.engine := by
  rw [h.run]
  rfl

theorem faults {m : StateM Gateway α} (h : Undisturbed m g) : (m g).2.faults = g.faults := by
  rw [h.run]
  rfl

theorem pure (a : α) : Undisturbed (pure a : StateM Gateway α) g := ⟨rfl, rfl⟩

theorem emit (e : Event) : Undisturbed (Gateway.emit e) g := ⟨rfl, rfl⟩

theorem call (f : Engine → α × Engine) : Undisturbed (Gateway.call f) g := ⟨rfl, rfl⟩

theorem bind {m : StateM Gateway α} {f : α → StateM Gateway β} (hm : Undisturbed m g)
    (hf : Undisturbed (f (m g).1) (m g).2) : Undisturbed (m >>= f) g := by
  -- the work that comes after starts where it would start without faults
  have hrest : (m g).2.awaiting .none = (m (g.awaiting .none)).2 := by
    have hcalm := hm.calm
    rw [hm.run]
    generalize m (g.awaiting .none) = x at hcalm ⊢
    obtain ⟨a, g'⟩ := x
    show ({ g' with faults := .none } : Gateway) = g'
    rw [← hcalm]
  have hrun := hf.run
  have hcalm := hf.calm
  rw [hrest, hm.answer, hm.faults] at hrun
  rw [hrest, hm.answer] at hcalm
  refine ⟨?_, hcalm⟩
  show f (m g).1 (m g).2 = _
  rw [hm.answer, hrun]
  rfl

/-- A call that no fault waits for. -/
theorem answerable {waiting : Faults → List α} {set : List α → Faults → Faults}
    {f : Engine → α × Engine} (hnone : waiting .none = []) (h : waiting g.faults = []) :
    Undisturbed (Gateway.answerable waiting set f) g := by
  have hrun : Gateway.answerable waiting set f g = Gateway.call f g := by
    unfold Gateway.answerable
    rw [h]
  have hcalm : Gateway.answerable waiting set f (g.awaiting .none)
      = Gateway.call f (g.awaiting .none) := by
    unfold Gateway.answerable
    rw [show waiting (g.awaiting .none).faults = [] from hnone]
  constructor
  · rw [hrun, hcalm]
    rfl
  · rw [hcalm]
    rfl

end Undisturbed

/-- Faults that refuse at most do not disturb the work. -/
def Unhindered (m : StateM Gateway α) : Prop := ∀ g, g.faults.Refusing → Undisturbed m g

namespace Unhindered

theorem pure (a : α) : Unhindered (pure a : StateM Gateway α) := fun _ _ => .pure a

theorem bind {m : StateM Gateway α} {f : α → StateM Gateway β} (hm : Unhindered m)
    (hf : ∀ a, Unhindered (f a)) : Unhindered (m >>= f) := by
  intro g hq
  have hfirst := hm g hq
  exact hfirst.bind (hf _ _ (hfirst.faults.symm ▸ hq))

end Unhindered

theorem readBytes_unhindered (h : Handle) (n : UInt64) : Unhindered (readBytes h n) :=
  fun _ hq => .answerable rfl hq.readBytes

theorem readAll_unhindered (h : Handle) (cap : UInt64) : Unhindered (readAll h cap) :=
  fun _ hq => .answerable rfl hq.readAll

theorem available_unhindered (h : Handle) : Unhindered (available h) :=
  fun _ hq => .answerable rfl hq.available

/-- The work was answered by a fault and did not reach the engine; `fails`
tells what its answer is. -/
structure Declined (fails : α → Prop) (m : StateM Gateway α) (g : Gateway) : Prop where
  answer : fails (m g).1
  engine : (m g).2.engine = g.engine
  refusing : (m g).2.faults.Refusing

/-- The work goes as if no fault waited, or it is declined. -/
def Refusable (fails : α → Prop) (m : StateM Gateway α) (g : Gateway) : Prop :=
  Undisturbed m g ∨ Declined fails m g

/-- What is made of the answer of a fault, if it moves nothing. -/
theorem Declined.bind {fails : α → Prop} {fails' : β → Prop} {m : StateM Gateway α}
    {f : α → StateM Gateway β} (hm : Declined fails m g)
    (hfails : ∀ a g, fails a → fails' (f a g).1 ∧ (f a g).2 = g) : Declined fails' (m >>= f) g := by
  obtain ⟨hanswer, hsame⟩ := hfails _ (m g).2 hm.answer
  refine ⟨hanswer, ?_, ?_⟩
  · show (f (m g).1 (m g).2).2.engine = _
    rw [hsame]
    exact hm.engine
  · show (f (m g).1 (m g).2).2.faults.Refusing
    rw [hsame]
    exact hm.refusing

theorem Refusable.bind {fails : α → Prop} {fails' : β → Prop} {m : StateM Gateway α}
    {f : α → StateM Gateway β} (hq : g.faults.Refusing) (hm : Refusable fails m g)
    (hf : ∀ a, Unhindered (f a)) (hfails : ∀ a g, fails a → fails' (f a g).1 ∧ (f a g).2 = g) :
    Refusable fails' (m >>= f) g := by
  rcases hm with h | h
  · exact .inl (h.bind (hf _ _ (h.faults.symm ▸ hq)))
  · exact .inr (h.bind hfails)

/-- An answer that is an error. -/
def IsFailure {ε : Type} (r : Except ε α) : Prop := ∃ e, r = .error e

/-- An answer that is no error is none. -/
theorem not_isFailure_ok {ε : Type} (a : α) : ¬ IsFailure (.ok a : Except ε α) := by
  rintro ⟨e, h⟩
  exact absurd h (by simp)

instance {ε : Type} : (r : Except ε α) → Decidable (IsFailure r)
  | .error e => isTrue ⟨e, rfl⟩
  | .ok a => isFalse (not_isFailure_ok a)

/-- A call that an error may wait for. -/
theorem fallible_refusable {waiting : Faults → List EngineError}
    {set : List EngineError → Faults → Faults} {f : Engine → Except EngineError α × Engine}
    (hq : g.faults.Refusing) (hnone : waiting .none = [])
    (hset : ∀ l q, q.Refusing → (set l q).Refusing) :
    Refusable IsFailure (fallible waiting set f) g := by
  have hcalm : fallible waiting set f (g.awaiting .none) = call f (g.awaiting .none) := by
    unfold fallible
    rw [show waiting (g.awaiting .none).faults = [] from hnone]
  cases hw : waiting g.faults with
  | nil =>
    have hrun : fallible waiting set f g = call f g := by
      unfold fallible
      rw [hw]
    refine .inl ⟨?_, ?_⟩
    · rw [hrun, hcalm]
      rfl
    · rw [hcalm]
      rfl
  | cons e rest =>
    have hrun : fallible waiting set f g = (.error e, { g with faults := set rest g.faults }) := by
      unfold fallible
      rw [hw]
    refine .inr ⟨?_, ?_, ?_⟩
    · exact ⟨e, congrArg Prod.fst hrun⟩
    · rw [hrun]
    · rw [hrun]
      exact hset rest _ hq

theorem skip_refusable (hq : g.faults.Refusing) (h : Handle) (n : UInt64) :
    Refusable IsFailure (skip h n) g :=
  fallible_refusable hq rfl fun _ _ hq => ⟨hq.readRange, hq.readBytes, hq.readAll, hq.available⟩

theorem mark_refusable (hq : g.faults.Refusing) (h : Handle) : Refusable IsFailure (mark h) g :=
  fallible_refusable hq rfl fun _ _ hq => ⟨hq.readRange, hq.readBytes, hq.readAll, hq.available⟩

theorem reset_refusable (hq : g.faults.Refusing) (h : Handle) (toMark : Bool) :
    Refusable IsFailure (reset h toMark) g :=
  fallible_refusable hq rfl fun _ _ hq => ⟨hq.readRange, hq.readBytes, hq.readAll, hq.available⟩

/-- Of the answers that wait for range reads none is bytes. -/
theorem readRange_refusable (hq : g.faults.Refusing) (h : Handle) (offset n : UInt64) :
    Refusable IsFailure (readRange h offset n) g := by
  cases hw : g.faults.readRange with
  | nil => exact .inl (.answerable rfl hw)
  | cons r rest =>
    have hrun : readRange h offset n g
        = (r, { g with faults := { g.faults with readRange := rest } }) := by
      unfold readRange answerable
      rw [hw]
    have hmem : ∀ x ∈ r :: rest, ∃ e, x = .error e := fun x hx => hq.readRange x (hw ▸ hx)
    refine .inr ⟨?_, ?_, ?_⟩
    · rw [hrun]
      exact hmem r (List.mem_cons_self ..)
    · rw [hrun]
    · rw [hrun]
      exact ⟨fun x hx => hmem x (List.mem_cons_of_mem _ hx), hq.readBytes, hq.readAll, hq.available⟩

end Gateway

/-! ## §2. Operations of a stream while faults wait. -/

namespace ContentStream

open Gateway

variable {g : Gateway} {α ε : Type}

/-- The answer is an error, and the stream is `s`. -/
def FailsAs (s : ContentStream) (x : Except ε α × ContentStream) : Prop := IsFailure x.1 ∧ x.2 = s

theorem live_unhindered (s : ContentStream) (x : StreamAccess) :
    Unhindered (s.live x : StateM Gateway (Option Handle)) := by
  unfold ContentStream.live
  split
  · exact .pure _
  · exact .bind (fun _ _ => .emit _) fun _ => .pure _

theorem read_unhindered (s : ContentStream) (n : UInt64) :
    Unhindered (s.read n : StateM Gateway (ByteArray × ContentStream)) := by
  unfold ContentStream.read
  refine .bind (s.live_unhindered _) fun h? => ?_
  cases h? with
  | none => exact .pure _
  | some h =>
    dsimp only
    split
    · exact .pure _
    · exact .bind (Gateway.readBytes_unhindered h _) fun _ => .pure _

theorem readChunks_unhindered (chunk : UInt64) (room : Nat) (front : ByteArray)
    (s : ContentStream) :
    Unhindered (readChunks chunk room front s : StateM Gateway (ByteArray × ContentStream)) := by
  induction room generalizing front s with
  | zero => exact .pure _
  | succ room ih =>
    refine .bind (s.read_unhindered chunk) fun x => ?_
    obtain ⟨bytes, s'⟩ := x
    dsimp only
    split
    · exact .pure _
    · exact ih _ s'

theorem readAll_unhindered (s : ContentStream) :
    Unhindered (s.readAll : StateM Gateway (ByteArray × ContentStream)) := by
  refine .bind (s.live_unhindered _) fun h? => ?_
  cases h? with
  | none => exact .pure _
  | some h => exact .bind (Gateway.readAll_unhindered h _) fun _ => .pure _

theorem available_unhindered (s : ContentStream) :
    Unhindered (s.available : StateM Gateway UInt64) := by
  refine .bind (s.live_unhindered _) fun h? => ?_
  cases h? with
  | none => exact .pure _
  | some h => exact Gateway.available_unhindered h

theorem refusable_of_live {s : ContentStream} {x : StreamAccess} (hs : s.handle.released = false)
    {f : Option Handle → StateM Gateway (Except ε α × ContentStream)}
    (hf : Refusable s.FailsAs (f (some s.handle.handle)) g) :
    Refusable s.FailsAs (s.live x >>= f) g := by
  rw [live_of_open hs]
  exact hf

section Refusable

variable {s : ContentStream} (hs : s.handle.released = false) (hq : g.faults.Refusing)

include hs hq

theorem skip_refusable (n : UInt64) : Refusable s.FailsAs (s.skip n) g := by
  unfold ContentStream.skip
  refine refusable_of_live hs ?_
  dsimp only
  split
  · exact .inl (.pure _)
  · refine (Gateway.skip_refusable hq _ _).bind hq (fun r => ?_) ?_
    · cases r <;> exact .pure _
    · rintro _ g ⟨e, rfl⟩
      exact ⟨⟨⟨_, rfl⟩, rfl⟩, rfl⟩

theorem setMark_refusable : Refusable s.FailsAs s.setMark g := by
  unfold ContentStream.setMark
  refine refusable_of_live hs ((Gateway.mark_refusable hq _).bind hq (fun r => ?_) ?_)
  · cases r <;> exact .pure _
  · rintro _ g ⟨e, rfl⟩
    exact ⟨⟨⟨_, rfl⟩, rfl⟩, rfl⟩

theorem reset_refusable (toMark : Bool) : Refusable s.FailsAs (s.reset toMark) g := by
  unfold ContentStream.reset
  refine refusable_of_live hs ((Gateway.reset_refusable hq _ _).bind hq (fun r => ?_) ?_)
  · cases r <;> exact .pure _
  · rintro _ g ⟨e, rfl⟩
    exact ⟨⟨⟨_, rfl⟩, rfl⟩, rfl⟩

theorem readRange_refusable (offset n : UInt64) : Refusable s.FailsAs (s.readRange offset n) g := by
  unfold ContentStream.readRange
  refine refusable_of_live hs ?_
  dsimp only
  split
  · exact .inl (.pure _)
  · refine (Gateway.readRange_refusable hq _ _ _).bind hq (fun r => ?_) ?_
    · cases r <;> exact .pure _
    · rintro _ g ⟨e, rfl⟩
      exact ⟨⟨⟨_, rfl⟩, rfl⟩, rfl⟩

end Refusable

/-! ## §3. Where a stream stands while faults wait. -/

/-- The stream is open, and it and the engine stand where the plain cursor
stands, whatever faults wait. -/
structure Agrees (e : Engine) (s : ContentStream) (r : PlainCursor) : Prop where
  isOpen : s.handle.released = false
  cursor : e.live[s.handle.handle]? = some (.stream r.behind)
  position : s.position.toNat = r.position
  mark : s.mark.toNat = r.mark
  length : s.length.toNat = r.size
  cap : s.maxReadAll.toNat = r.cap
  within : r.Within

variable {s : ContentStream} {r : PlainCursor}

theorem Follows.agrees (h : s.Follows g r) : s.Agrees g.engine r :=
  ⟨h.isOpen, h.cursor, h.position, h.mark, h.length, h.cap, h.within⟩

/-- Without faults the stream follows. -/
theorem Agrees.follows (h : s.Agrees g.engine r) (hcalm : g.faults = .none) : s.Follows g r :=
  ⟨hcalm, h.isOpen, h.cursor, h.position, h.mark, h.length, h.cap, h.within⟩

/-- What is live behind the stream is as it was. -/
theorem Agrees.stayed {e e' : Engine} (h : s.Agrees e r)
    (hl : e'.live[s.handle.handle]? = e.live[s.handle.handle]?) : s.Agrees e' r :=
  ⟨h.isOpen, hl.trans h.cursor, h.position, h.mark, h.length, h.cap, h.within⟩

/-- The work gives `a` and leaves the stream agreeing with `r`; faults still
refuse at most. -/
structure Ends (g : Gateway) (m : StateM Gateway (α × ContentStream)) (a : α) (r : PlainCursor) :
    Prop where
  answer : (m g).1.1 = a
  agrees : (m g).1.2.Agrees (m g).2.engine r
  refusing : (m g).2.faults.Refusing

/-- Work that no fault disturbs ends as it does without faults. -/
theorem Does.ends {m : StateM Gateway (α × ContentStream)} {a : α} (hq : g.faults.Refusing)
    (hm : Undisturbed m g) (h : Does (g.awaiting .none) m a r) : Ends g m a r := by
  have hagrees := h.follows.agrees
  rw [← hm.answer, ← hm.engine] at hagrees
  exact ⟨hm.answer ▸ h.answer, hagrees, hm.faults.symm ▸ hq⟩

/-- Work in two parts ends as its second part ends. -/
theorem Ends.of_bind {m : StateM Gateway β} {f : β → StateM Gateway (α × ContentStream)}
    (h : Ends (m g).2 (f (m g).1) a r) : Ends g (m >>= f) a r :=
  ⟨h.answer, h.agrees, h.refusing⟩

/-- Work that was declined leaves the stream where it stands. -/
theorem Agrees.declined {m : StateM Gateway (Except ε α × ContentStream)} (h : s.Agrees g.engine r)
    (hm : Declined s.FailsAs m g) : ∃ e, Ends g m (.error e) r := by
  obtain ⟨⟨e, he⟩, hs⟩ := hm.answer
  refine ⟨e, he, ?_, hm.refusing⟩
  rw [hs, hm.engine]
  exact h

/-! ## §4. Rewinding and skipping. -/

/-- Seeking `k` ends between its two calls: the stream is rewound, and then
skipping is refused. -/
def Strands (s : ContentStream) (k : UInt64) (g : Gateway) : Prop :=
  (s.reset false g).1.1 = .ok ()
    ∧ IsFailure ((s.reset false g).1.2.skip k (s.reset false g).2).1.1

/-- What seeking does once it was tried to rewind. -/
def afterRewind (k : UInt64) :
    Except AccessError Unit × ContentStream →
    StateM Gateway (Except AccessError UInt64 × ContentStream)
  | (.error e, s) => pure (.error e, s)
  | (.ok (), s) => s.skip k

/-- An open stream seeks in two calls. -/
theorem seek_of_open (hs : s.handle.released = false) (k : UInt64) :
    s.seek k = s.reset false >>= afterRewind k := by
  unfold ContentStream.seek
  rw [live_of_open hs, pure_bind]
  refine bind_congr fun x => ?_
  obtain ⟨_ | _, s'⟩ := x <;> rfl

/-- **Seeking** goes as if no fault waited, or it is refused and moves nothing,
or it strands at the start. -/
theorem Agrees.seek (h : s.Agrees g.engine r) (hq : g.faults.Refusing) (k : UInt64) :
    (¬ s.Strands k g ∧ Refusable s.FailsAs (s.seek k) g)
      ∨ s.Strands k g ∧ ∃ e, Ends g (s.seek k) (.error e) { r with position := 0 } := by
  unfold Strands
  rw [seek_of_open h.isOpen]
  rcases reset_refusable h.isOpen hq false with hm | hm
  · have hreset : Does (g.awaiting .none) (s.reset false) (r.reset false).1 (r.reset false).2 :=
      Follows.reset (Agrees.follows (g := g.awaiting .none) h rfl) false
    obtain ⟨ha, hrewound, hq'⟩ := hreset.ends hq hm
    have hbind : ∀ hnext : Undisturbed (afterRewind k (s.reset false g).1) (s.reset false g).2,
        Undisturbed (s.reset false >>= afterRewind k) g := hm.bind
    have hends : ∀ {a' : Except AccessError UInt64} {r' : PlainCursor},
        Ends (s.reset false g).2 (afterRewind k (s.reset false g).1) a' r' →
          Ends g (s.reset false >>= afterRewind k) a' r' := .of_bind
    unfold PlainCursor.reset at ha hrewound
    generalize s.reset false g = x at ha hrewound hq' hbind hends ⊢
    obtain ⟨⟨a, s'⟩, g'⟩ := x
    by_cases hcan : r.seekable = true
    · -- the stream is at the start now, and only skipping can still be refused
      rw [if_pos hcan] at ha hrewound
      obtain rfl : a = .ok () := ha
      have hrewound' : s'.Agrees g'.engine { r with position := 0 } := hrewound
      rcases skip_refusable hrewound'.isOpen hq' k with hskip | hskip
      · have hplain : Does (g'.awaiting .none) (s'.skip k) _ _ :=
          Follows.skip (Agrees.follows (g := g'.awaiting .none) hrewound' rfl) k
        have hok := (hplain.ends hq' hskip).answer
        rw [PlainCursor.skip_of_start hcan] at hok
        refine .inl ⟨?_, .inl (hbind hskip)⟩
        rintro ⟨-, e, he⟩
        exact absurd (hok.symm.trans he) (by simp [Except.map])
      · obtain ⟨e, hend⟩ := hrewound'.declined hskip
        exact .inr ⟨⟨rfl, hskip.answer.1⟩, e, hends hend⟩
    · rw [if_neg hcan] at ha hrewound
      obtain rfl : a = .error _ := ha
      exact .inl ⟨fun hstrands => absurd hstrands.1 (by simp), .inl (hbind (.pure _))⟩
  · -- the stream could not be rewound
    refine .inl ⟨fun hstrands => ?_, .inr (hm.bind ?_)⟩
    · obtain ⟨e, he⟩ := hm.answer.1
      exact absurd (he.symm.trans hstrands.1) (by simp)
    · rintro ⟨_, s'⟩ g ⟨⟨e, rfl⟩, rfl⟩
      exact ⟨⟨⟨_, rfl⟩, rfl⟩, rfl⟩

/-- What a move to a target reports. -/
def landing : Except AccessError UInt64 × ContentStream → Except IoError UInt64 × ContentStream
  | (.error e, s) => (.error e.toIoError, s)
  | (.ok _, s) => (.ok s.position, s)

/-- A move to a target before the stream's position strands. -/
def StrandsTo (s : ContentStream) (t : SeekTarget) (g : Gateway) : Prop :=
  ∃ k, s.target? t = some k ∧ k < s.position ∧ s.Strands k g

/-- A target is reached by skipping or by seeking. -/
theorem seekTo_of_target {σ : Type} [StreamEngine σ] {s : ContentStream} {t : SeekTarget}
    {k : UInt64} (ht : s.target? t = some k) :
    s.seekTo t = (if s.position ≤ k then s.skip (k - s.position) else s.seek k) >>= fun x =>
      (pure (landing x) : StateM σ _) := by
  unfold ContentStream.seekTo
  rw [ht]
  dsimp only
  split <;>
  · refine bind_congr fun x => ?_
    obtain ⟨_ | _, s'⟩ := x <;> rfl

/-- What was refused is reported as an I/O error. -/
theorem landing_refusable {m : StateM Gateway (Except AccessError UInt64 × ContentStream)}
    (hq : g.faults.Refusing) (hm : Refusable s.FailsAs m g) :
    Refusable s.FailsAs (m >>= fun x => (pure (landing x) : StateM Gateway _)) g := by
  refine hm.bind hq (fun _ => .pure _) ?_
  rintro ⟨_, s'⟩ g ⟨⟨e, rfl⟩, rfl⟩
  exact ⟨⟨⟨_, rfl⟩, rfl⟩, rfl⟩

/-- **Moving to a target** goes as if no fault waited, or it is refused and
moves nothing, or it strands at the start. -/
theorem Agrees.seekTo (h : s.Agrees g.engine r) (hq : g.faults.Refusing) (t : SeekTarget) :
    (¬ s.StrandsTo t g ∧ Refusable s.FailsAs (s.seekTo t) g)
      ∨ s.StrandsTo t g ∧ ∃ e, Ends g (s.seekTo t) (.error e) { r with position := 0 } := by
  unfold StrandsTo
  cases ht : s.target? t with
  | none =>
    have hrun : s.seekTo t = (pure (.error seekBeforeStart, s) : StateM Gateway _) := by
      unfold ContentStream.seekTo
      rw [ht]
    rw [hrun]
    refine .inl ⟨?_, .inl (.pure _)⟩
    rintro ⟨k, hk, -⟩
    exact absurd hk (by simp)
  | some k =>
    rw [seekTo_of_target ht]
    by_cases hle : s.position ≤ k
    · rw [if_pos hle]
      refine .inl ⟨?_, landing_refusable hq (skip_refusable h.isOpen hq _)⟩
      rintro ⟨k', hk, hlt, -⟩
      obtain rfl := Option.some.inj hk
      exact absurd hlt (UInt64.not_lt.mpr hle)
    · rw [if_neg hle]
      rcases h.seek hq k with ⟨hstrands, hm⟩ | ⟨hstrands, e, ha, hagrees, hq'⟩
      · refine .inl ⟨?_, landing_refusable hq hm⟩
        rintro ⟨k', hk, -, hk'⟩
        obtain rfl := Option.some.inj hk
        exact hstrands hk'
      · refine .inr ⟨⟨k, rfl, UInt64.not_le.mp hle, hstrands⟩, e.toIoError, .of_bind ?_⟩
        generalize s.seek k g = x at ha hagrees hq' ⊢
        obtain ⟨⟨a, s'⟩, g'⟩ := x
        obtain rfl : a = .error e := ha
        exact ⟨rfl, hagrees, hq'⟩

end ContentStream

/-! ## §5. Every operation. -/

/-- Is the answer an error? -/
def StreamReply.isError : StreamReply → Bool
  | .failed _ | .ioFailed _ => true
  | _ => false

namespace StreamOp

open Gateway ContentStream

variable {g : Gateway} {s : ContentStream} {r : PlainCursor}

/-- The operation rewinds the stream, and is then refused to skip. -/
def Strands (op : StreamOp) (s : ContentStream) (g : Gateway) : Prop :=
  match op with
  | .seek k => s.Strands k g
  | .seekTo t => s.StrandsTo t g
  | _ => False

/-- The reply is an error, and the stream is `s`. -/
def RepliesError (s : ContentStream) (x : StreamReply × ContentStream) : Prop :=
  x.1.isError = true ∧ x.2 = s

/-- What is replied to an operation that may be refused. -/
theorem reply_refusable {ε α : Type} {m : StateM Gateway (Except ε α × ContentStream)}
    (hq : g.faults.Refusing) (hm : Refusable s.FailsAs m g) {F : Except ε α → StreamReply}
    (hF : ∀ e, (F (.error e)).isError = true) :
    Refusable (RepliesError s) (m >>= fun x => (pure (F x.1, x.2) : StateM Gateway _)) g := by
  refine hm.bind hq (fun _ => .pure _) ?_
  rintro ⟨_, s'⟩ g ⟨⟨e, rfl⟩, rfl⟩
  exact ⟨⟨hF e, rfl⟩, rfl⟩

/-- The operation goes as if no fault waited, or it is refused and moves
nothing, or it strands at the start. -/
theorem run_refusable (h : s.Agrees g.engine r) (hq : g.faults.Refusing) (op : StreamOp)
    (hop : op.closes = false) :
    (¬ op.Strands s g ∧ Refusable (RepliesError s) (op.run s) g)
      ∨ op.Strands s g ∧ ∃ a, a.isError = true ∧ Ends g (op.run s) a { r with position := 0 } := by
  cases op with
  | read n => exact .inl ⟨id, .inl (.bind (s.read_unhindered n g hq) (.pure _))⟩
  | readInto buffer =>
    have hread : Unhindered (s.readInto buffer : StateM Gateway _) :=
      .bind (s.read_unhindered _) fun _ => .pure _
    exact .inl ⟨id, .inl (.bind (hread g hq) (.pure _))⟩
  | readToEnd chunk =>
    exact .inl ⟨id, .inl (.bind (readChunks_unhindered chunk _ _ s g hq) (.pure _))⟩
  | available => exact .inl ⟨id, .inl (.bind (s.available_unhindered g hq) (.pure _))⟩
  | readAll => exact .inl ⟨id, .inl (.bind (s.readAll_unhindered g hq) (.pure _))⟩
  | position => exact .inl ⟨id, .inl (.pure _)⟩
  | readRange offset n =>
    exact .inl ⟨id, reply_refusable hq (readRange_refusable h.isOpen hq offset n) fun _ => rfl⟩
  | skip n => exact .inl ⟨id, reply_refusable hq (skip_refusable h.isOpen hq n) fun _ => rfl⟩
  | mark => exact .inl ⟨id, reply_refusable hq (setMark_refusable h.isOpen hq) fun _ => rfl⟩
  | reset toMark =>
    exact .inl ⟨id, reply_refusable hq (reset_refusable h.isOpen hq toMark) fun _ => rfl⟩
  | seek k =>
    rcases h.seek hq k with ⟨hstrands, hm⟩ | ⟨hstrands, e, ha, hagrees, hq'⟩
    · exact .inl ⟨hstrands, reply_refusable hq hm fun _ => rfl⟩
    · exact .inr ⟨hstrands, .failed e, rfl, congrArg StreamReply.ofNumber ha, hagrees, hq'⟩
  | seekTo t =>
    rcases h.seekTo hq t with ⟨hstrands, hm⟩ | ⟨hstrands, e, ha, hagrees, hq'⟩
    · exact .inl ⟨hstrands, reply_refusable hq hm fun _ => rfl⟩
    · exact .inr ⟨hstrands, .ioFailed e, rfl, congrArg StreamReply.ofIoNumber ha, hagrees, hq'⟩
  | close => exact absurd hop (by simp [StreamOp.closes])

/-- What an operation answers and where it leaves the cursor: as a plain cursor
does it; or with an error, which moves nothing unless it strands. -/
structure Settles (op : StreamOp) (s : ContentStream) (g : Gateway) (r : PlainCursor)
    (a : StreamReply) (r' : PlainCursor) : Prop where
  accepted : a.isError = false → (a, r') = r.answer op
  refused : a.isError = true → ¬ op.Strands s g → r' = r
  stranded : op.Strands s g → a.isError = true ∧ r' = { r with position := 0 }

end StreamOp

/-! ## §6. What fails moves nothing. -/

open Gateway

theorem StreamReply.isFailure_of_isError {ε α : Type} (F : Except ε α → StreamReply)
    (hF : ∀ a, (F (.ok a)).isError = false) {x : Except ε α} (h : (F x).isError = true) :
    IsFailure x := by
  cases x with
  | error e => exact ⟨e, rfl⟩
  | ok a => exact absurd (h.symm.trans (hF a)) (by simp)

namespace PlainCursor

variable {r : PlainCursor} {ε α : Type}

/-- One of two answers, the first of which is no error. -/
theorem ite_stays {c : Prop} [Decidable c] {a : α} {r' : PlainCursor}
    {y : Except ε α × PlainCursor} (hy : IsFailure y.1 → y.2 = r)
    (h : IsFailure (if c then (.ok a, r') else y).1) : (if c then (.ok a, r') else y).2 = r := by
  by_cases hc : c
  · rw [if_pos hc] at h
    exact absurd h (not_isFailure_ok a)
  · rw [if_neg hc] at h ⊢
    exact hy h

theorem readRange_stays {offset n : Nat} (h : IsFailure (r.readRange offset n).1) :
    (r.readRange offset n).2 = r :=
  ite_stays (ite_stays fun _ => rfl) h

theorem skip_stays {n : Nat} (h : IsFailure (r.skip n).1) : (r.skip n).2 = r :=
  ite_stays (ite_stays fun _ => rfl) h

theorem setMark_stays (h : IsFailure r.setMark.1) : r.setMark.2 = r := ite_stays (fun _ => rfl) h

theorem reset_stays {toMark : Bool} (h : IsFailure (r.reset toMark).1) : (r.reset toMark).2 = r :=
  ite_stays (fun _ => rfl) h

theorem seek_stays {k : Nat} (h : IsFailure (r.seek k).1) : (r.seek k).2 = r :=
  ite_stays (fun _ => rfl) h

theorem landed_stays {x : Except AccessError Nat × PlainCursor} (hx : IsFailure x.1 → x.2 = r)
    (h : IsFailure (landed x).1) : (landed x).2 = r := by
  obtain ⟨_ | _, r'⟩ := x
  · exact hx ⟨_, rfl⟩
  · exact absurd h (not_isFailure_ok _)

theorem seekTo_stays {t : ContentStream.SeekTarget} (h : IsFailure (r.seekTo t).1) :
    (r.seekTo t).2 = r := by
  unfold PlainCursor.seekTo at h ⊢
  cases ht : r.target? t with
  | none => rfl
  | some k =>
    rw [ht] at h
    refine landed_stays (fun hmove => ?_) h
    split
    · next hle =>
      rw [if_pos hle] at hmove
      exact skip_stays hmove
    · next hlt =>
      rw [if_neg hlt] at hmove
      exact seek_stays hmove

/-- **A plain cursor that answers with an error did not move.** -/
theorem answer_stays {op : StreamOp} (h : (r.answer op).1.isError = true) :
    (r.answer op).2 = r := by
  cases op with
  | readRange offset n =>
    exact readRange_stays (StreamReply.isFailure_of_isError .ofBytes (fun _ => rfl) h)
  | skip n =>
    exact skip_stays (StreamReply.isFailure_of_isError (.ofNumber <| ·.map .ofNat) (fun _ => rfl) h)
  | mark => exact setMark_stays (StreamReply.isFailure_of_isError .ofUnit (fun _ => rfl) h)
  | reset toMark =>
    exact reset_stays (StreamReply.isFailure_of_isError .ofUnit (fun _ => rfl) h)
  | seek k =>
    exact seek_stays (StreamReply.isFailure_of_isError (.ofNumber <| ·.map .ofNat) (fun _ => rfl) h)
  | seekTo t =>
    exact seekTo_stays (StreamReply.isFailure_of_isError (.ofIoNumber <| ·.map .ofNat)
      (fun _ => rfl) h)
  | _ => exact absurd h (by simp [answer, StreamReply.isError])

end PlainCursor

/-- **A stream and the engine agree after every operation**, whatever is
refused meanwhile. -/
theorem StreamOp.run_ends {g : Gateway} {s : ContentStream} {r : PlainCursor}
    (h : s.Agrees g.engine r) (hq : g.faults.Refusing) (op : StreamOp) (hop : op.closes = false) :
    ∃ a r', ContentStream.Ends g (op.run s) a r' ∧ op.Settles s g r a r' := by
  rcases StreamOp.run_refusable h hq op hop with ⟨hstrands, hm | hm⟩ | ⟨hstrands, a, ha, hend⟩
  · have hplain : ContentStream.Does (g.awaiting .none) (op.run s) _ _ :=
      StreamOp.run_follows (ContentStream.Agrees.follows (g := g.awaiting .none) h rfl) op hop
    exact ⟨_, _, hplain.ends hq hm, fun _ => rfl, fun he _ => PlainCursor.answer_stays he,
      fun hs => absurd hs hstrands⟩
  · obtain ⟨herror, hs⟩ := hm.answer
    have hagrees : (op.run s g).1.2.Agrees (op.run s g).2.engine r := by
      rw [hs, hm.engine]
      exact h
    exact ⟨_, r, ⟨rfl, hagrees, hm.refusing⟩, fun he => absurd (herror.symm.trans he) (by simp),
      fun _ _ => rfl, fun hs => absurd hs hstrands⟩
  · exact ⟨a, _, hend, fun he => absurd (ha.symm.trans he) (by simp),
      fun _ hs => absurd hstrands hs, fun _ => ⟨ha, rfl⟩⟩

end EpubAccess
