/-
  EpubAccess.Proofs.Ownership.Streams
  ────────────────────────────────
  Gateway work and the balance of handles.

  `Gateway.Moved held loose g g'` says where work at the gateway ends: the
  ledger balances with `loose` in hand, those at their places notice nothing
  (`Engine.Frame`), and no fault came up.  It holds of every operation of a
  stream (`StreamOp.run_moved`), of closing one (`ContentStream.close_moved`)
  and of letting a handle go (`OwnedHandle.drop_moved`); openings and fetches
  are settled by it later.
-/
import EpubAccess.Container
import EpubAccess.Fetch
import EpubAccess.Proofs.Ownership.Ledger

namespace EpubAccess

open Stateful

/-! ## §1. What is left to those at their places. -/

/-- Nothing that is held at a place changed or was given back, and the archives
are the same. -/
structure Engine.Frame {ι : Type} (held : ι → Option OwnedHandle) (e e' : Engine) : Prop where
  archives : e'.archives = e.archives
  live : ∀ i x, held i = some x → e'.live[x.handle]? = e.live[x.handle]?
  log : ∃ new, e'.log = e.log ++ new ∧
    ∀ c ∈ new, c.isRelease = true → ∀ i x, held i = some x → c.handle? ≠ some x.handle
  registryWarnings : e'.registryWarnings = e.registryWarnings

/-- Work at the gateway ended with the handles `loose` in hand, the ledger in
balance, and nobody else disturbed. -/
structure Gateway.Moved {ι : Type} (held : ι → Option OwnedHandle) (loose : List OwnedHandle)
    (g g' : Gateway) : Prop where
  ledger : Ledger g'.engine held loose
  frame : g.engine.Frame held g'.engine
  calm : g.faults = .none → g'.faults = .none

namespace Gateway.Moved

variable {ι : Type} {held : ι → Option OwnedHandle} {loose loose' : List OwnedHandle}
  {g g' g'' : Gateway}

theorem refl (l : Ledger g.engine held loose) : Moved held loose g g :=
  ⟨l, ⟨rfl, fun _ _ _ => rfl, ⟨[], by simp, by simp⟩, rfl⟩, id⟩

theorem trans (h : Moved held loose g g') (h' : Moved held loose' g' g'') :
    Moved held loose' g g'' := by
  obtain ⟨new, hlog, hnew⟩ := h.frame.log
  obtain ⟨new', hlog', hnew'⟩ := h'.frame.log
  refine ⟨h'.ledger, ⟨h'.frame.archives.trans h.frame.archives,
    fun i x hx => (h'.frame.live i x hx).trans (h.frame.live i x hx), ⟨new ++ new', ?_, ?_⟩,
    h'.frame.registryWarnings.trans h.frame.registryWarnings⟩, h'.calm ∘ h.calm⟩
  · rw [hlog', hlog, List.append_assoc]
  · intro c hc
    exact (List.mem_append.mp hc).elim (hnew c) (hnew' c)

/-- Calls about a live handle disturb nobody, unless they move a cursor that
is held at a place. -/
theorem of_uses (l : Ledger g.engine held loose) {h? : Option Handle} (hu : g.Uses h? g')
    (hs : ∀ h, h? = some h → (g.engine.live[h]?).isSome = true)
    (hk : ∀ i x, held i = some x → h? = some x.handle → x.kind ≠ .stream) :
    Moved held loose g g' := by
  refine ⟨l.uses hu.engine hs, ⟨hu.engine.archives, ?_, ?_, hu.engine.registryWarnings⟩, hu.calm⟩
  · intro i x hx
    -- of the handle that the calls are about the cursor alone can move
    by_cases hh : h? = some x.handle
    · cases hr : x.released with
      | false =>
        obtain ⟨o, ho, hok⟩ := l.object (.inl ⟨i, hx⟩) hr
        rw [ho]
        exact hu.engine.object ho (hok ▸ hk i x hx hh)
      | true =>
        have hn := l.not_live (.inl ⟨i, hx⟩) hr
        have hshape := hu.engine.shape x.handle
        rw [hn] at hshape ⊢
        simpa using hshape
    · exact hu.engine.live x.handle (Ne.symm hh)
  · obtain ⟨new, hlog, hnew⟩ := hu.engine.log
    refine ⟨new, hlog, fun c hc hr => ?_⟩
    rw [(hnew c hc).1] at hr
    exact absurd hr (by simp)

/-- A new object, its handle in hand, disturbs nobody: its handle was not
issued before. -/
theorem issue (l : Ledger g.engine held loose) (o : LiveObject) :
    Moved held (.take (g.engine.allocate o).1 o.kind :: loose) g
      { g with engine := (g.engine.allocate o).2 } := by
  refine ⟨l.issue o, ⟨rfl, fun j y hy => ?_,
    ⟨[], by simp [Engine.allocate, Engine.log], by simp⟩, rfl⟩, id⟩
  have hne : y.handle ≠ Handle.issuedAfter g.engine.issued := fun hy' =>
    g.engine.not_issued_next (hy' ▸ l.issued y (.inl ⟨j, hy⟩))
  simp [Engine.allocate, Std.ExtTreeMap.getElem?_insert, Ne.symm hne]

/-- Loose handles may be told over in another order. -/
theorem perm (h : Moved held loose g g') (hp : loose.Perm loose') : Moved held loose' g g' :=
  ⟨h.ledger.perm hp, h.frame, h.calm⟩

/-- Only the log of events and the hint of the gateway may differ. -/
theorem congr (h : Moved held loose g g') (he : g''.engine = g'.engine)
    (hf : g''.faults = g'.faults) : Moved held loose g g'' :=
  ⟨he ▸ h.ledger, he ▸ h.frame, hf ▸ h.calm⟩

end Gateway.Moved

/-! ## §2. Giving back. -/

@[simp] theorem Gateway.emit?_engine (n : Option Event) (g : Gateway) :
    (Gateway.emit? n g).2.engine = g.engine := by
  cases n <;> rfl

@[simp] theorem Gateway.emit?_faults (n : Option Event) (g : Gateway) :
    (Gateway.emit? n g).2.faults = g.faults := by
  cases n <;> rfl

namespace OwnedHandle

/-- The engine call that gives a handle back. -/
def returnCall (x : OwnedHandle) : Call :=
  match x.kind with
  | .container | .package => .releaseHandle x.handle
  | .stream => .closeStream x.handle

@[simp] theorem returnCall_isRelease (x : OwnedHandle) : x.returnCall.isRelease = true := by
  unfold returnCall
  split <;> rfl

@[simp] theorem returnCall_handle? (x : OwnedHandle) : x.returnCall.handle? = some x.handle := by
  unfold returnCall
  split <;> rfl

/-- The engine after a handle was given back. -/
theorem giveBack_engine (x : OwnedHandle) (g : Gateway) :
    (x.giveBack g).2.engine = ((g.engine.record x.returnCall).takeBack x.handle).2 := by
  unfold giveBack returnCall
  cases x.kind <;> exact Gateway.emit?_engine _ _

@[simp] theorem giveBack_faults (x : OwnedHandle) (g : Gateway) :
    (x.giveBack g).2.faults = g.faults := by
  unfold giveBack
  cases x.kind <;> exact Gateway.emit?_faults _ _

end OwnedHandle

/-! ## §3. A stream in hand. -/

section InHand

variable {ι : Type} {held : ι → Option OwnedHandle} {loose : List OwnedHandle} {g : Gateway}

open Gateway

theorem serves_isSome {k : HandleKind} {h? : Option Handle} (hs : g.Serves k h?) (h : Handle)
    (hh : h? = some h) : (g.engine.live[h]?).isSome = true := by
  have hm := hs h hh
  cases ho : g.engine.live[h]? with
  | none => simp [ho] at hm
  | some o => rfl

theorem handle_of_get? {x : OwnedHandle} {h : Handle} (hx : x.get? = some h) : x.handle = h := by
  unfold OwnedHandle.get? at hx
  split at hx
  · exact absurd hx (by simp)
  · exact Option.some.inj hx

/-- Work about a handle that is in hand. -/
theorem Gateway.Only.moved_loose {k : HandleKind} {x : OwnedHandle} {α : Type} {post : α → Prop}
    {m : StateM Gateway α} (hm : Only k x.get? post m) (l : Ledger g.engine held loose)
    (hx : x ∈ loose) (hk : x.kind = k) : Moved held loose g (m g).2 ∧ post (m g).1 := by
  have hs := l.serves (.inr hx) hk
  obtain ⟨hu, hpost⟩ := hm g hs
  refine ⟨.of_uses l hu (serves_isSome hs) fun i y hy he => ?_, hpost⟩
  exact absurd (handle_of_get? he).symm (l.looseApart i y x hy hx)

/-- Work about a handle at a place, unless it is a stream's. -/
theorem Gateway.Only.moved_held {k : HandleKind} {x : OwnedHandle} {i : ι} {α : Type}
    {post : α → Prop} {m : StateM Gateway α} (hm : Only k x.get? post m)
    (l : Ledger g.engine held loose) (hx : held i = some x) (hk : x.kind = k) (hne : k ≠ .stream) :
    Moved held loose g (m g).2 ∧ post (m g).1 := by
  have hs := l.serves (.inl ⟨i, hx⟩) hk
  obtain ⟨hu, hpost⟩ := hm g hs
  refine ⟨.of_uses l hu (serves_isSome hs) fun j y hy he => ?_, hpost⟩
  rw [l.unique (.inl ⟨j, hy⟩) (.inl ⟨i, hx⟩) (handle_of_get? he).symm, hk]
  exact hne

/-- Work of a stream that is in hand. -/
theorem ContentStream.Local.moved {s : ContentStream} {α : Type}
    {m : StateM Gateway (α × ContentStream)} (hm : s.Local m)
    (l : Ledger g.engine held (s.handle :: loose)) (hk : s.handle.kind = .stream) :
    Moved held (s.handle :: loose) g (m g).2 ∧ s.SameStream (m g).1.2 :=
  Gateway.Only.moved_loose hm l (List.mem_cons_self ..) hk

/-- A handle in hand given back; if it is a package's, the engine may warn. -/
theorem OwnedHandle.giveBack_moved {x : OwnedHandle} (l : Ledger g.engine held (x :: loose))
    (hr : x.released = false) (hk : x.kind ≠ .package) :
    Moved held loose g (x.giveBack g).2 := by
  have hself : x ∈ x :: loose := List.mem_cons_self ..
  obtain ⟨o, ho, hok⟩ := l.object (.inr hself) hr
  obtain ⟨hlive, -, hcalls, harchives, -, -, hwarn⟩ :=
    Engine.takeBack_live (e := g.engine.record x.returnCall) (h := x.handle) ho
  suffices h : Moved held loose g
      { g with engine := ((g.engine.record x.returnCall).takeBack x.handle).2 } from
    h.congr (x.giveBack_engine g) (x.giveBack_faults g)
  refine ⟨l.giveBack hr (by simp) (by simp), ⟨harchives, ?_, ⟨[x.returnCall], ?_, ?_⟩, ?_⟩, id⟩
  · intro i y hy
    show ((g.engine.record _).takeBack x.handle).2.live[y.handle]? = _
    rw [hlive, Std.ExtTreeMap.getElem?_erase]
    simp [Ne.symm (l.looseApart i y x hy hself), Engine.record]
  · rw [← g.engine.log_record]
    show ((g.engine.record _).takeBack x.handle).2.log = _
    simp only [Engine.log, hcalls]
  · intro c hc _ i y hy he
    rw [List.mem_singleton.mp hc, OwnedHandle.returnCall_handle?] at he
    exact l.looseApart i y x hy hself (Option.some.inj he).symm
  · exact hwarn (by rw [hok]; exact hk)

/-- A stream in hand closed. -/
theorem ContentStream.close_moved {s : ContentStream}
    (l : Ledger g.engine held (s.handle :: loose)) (hk : s.handle.kind = .stream) :
    Moved held loose g (s.close g).2 := by
  unfold ContentStream.close OwnedHandle.release
  cases hr : s.handle.released with
  | true => exact (Moved.refl (l.forget hr)).congr rfl rfl
  | false => exact (OwnedHandle.giveBack_moved l hr (by simp [hk])).congr rfl rfl

/-- A stream in hand closed, and kept as such. -/
theorem ContentStream.close_kept {s : ContentStream}
    (l : Ledger g.engine held (s.handle :: loose)) (hk : s.handle.kind = .stream) :
    Moved held ((s.close g).1.2.handle :: loose) g (s.close g).2
      ∧ (s.close g).1.2.handle.kind = .stream := by
  have hself : s.handle ∈ s.handle :: loose := List.mem_cons_self ..
  have hmoved := ContentStream.close_moved l hk
  cases hr : s.handle.released with
  | true =>
    have hrun : s.close g = ((false, s), { g with
        events := g.events.push (.releasedTwice s.handle.kind s.handle.handle) }) := by
      unfold ContentStream.close OwnedHandle.release
      rw [hr]
      rfl
    rw [hrun]
    exact ⟨(Moved.refl l).congr rfl rfl, hk⟩
  | false =>
    have hrun : (s.close g).1.2.handle = { s.handle with released := true }
        ∧ (s.close g).2.engine = (s.handle.giveBack g).2.engine := by
      unfold ContentStream.close OwnedHandle.release
      rw [hr]
      exact ⟨rfl, rfl⟩
    rw [hrun.1]
    refine ⟨⟨hmoved.ledger.keep rfl ?_ ?_, hmoved.frame, hmoved.calm⟩, hk⟩
    · obtain ⟨o, ho, -⟩ := l.object (.inr hself) hr
      obtain ⟨-, hissued, -⟩ :=
        Engine.takeBack_live (e := g.engine.record s.handle.returnCall) (h := s.handle.handle) ho
      rw [hrun.2, s.handle.giveBack_engine]
      exact (l.issued _ (.inr hself)).mono (Nat.le_of_eq hissued.symm)
    · rintro y (⟨i, hy⟩ | hy) he
      · exact l.looseApart i y s.handle hy hself he
      · exact (List.nodup_cons.mp l.looseNodup).1 (List.mem_map.mpr ⟨y, hy, he⟩)

/-- Every operation of a stream in hand leaves one in hand. -/
theorem StreamOp.run_moved {s : ContentStream} (l : Ledger g.engine held (s.handle :: loose))
    (hk : s.handle.kind = .stream) (op : StreamOp) :
    Moved held ((op.run s g).1.2.handle :: loose) g (op.run s g).2
      ∧ (op.run s g).1.2.handle.kind = .stream := by
  cases hop : op.closes with
  | true =>
    cases op <;> simp only [StreamOp.closes, Bool.false_eq_true] at hop
    exact ContentStream.close_kept l hk
  | false =>
    obtain ⟨hmoved, hsame⟩ := (StreamOp.run_local s op hop).moved l hk
    rw [hsame.handle]
    exact ⟨hmoved, hk⟩

/-- The owner of a stream in hand goes away. -/
theorem OwnedHandle.drop_moved {x : OwnedHandle} (l : Ledger g.engine held (x :: loose))
    (hk : x.kind = .stream) : Moved held loose g (x.drop g).2 := by
  unfold OwnedHandle.drop
  cases hr : x.released with
  | true => exact .refl (l.forget hr)
  | false =>
    have hmoved := OwnedHandle.giveBack_moved
      (g := { g with events := g.events.push (.releasedOnDrop x.kind x.handle) }) l hr
      (by simp [hk])
    exact ⟨hmoved.ledger, hmoved.frame, hmoved.calm⟩

end InHand

end EpubAccess
