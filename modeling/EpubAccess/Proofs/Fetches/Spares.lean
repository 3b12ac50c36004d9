/-
  EpubAccess.Proofs.Fetches.Spares
  ────────────────────────────────
  What the use of one fetch or stream leaves alone.

  `Gateway.Spares h? g g'` says that work at the gateway was about the stream
  behind `h?`, if any, and about streams that it opened itself: everything else
  that is live is as it was, and what is new has a number that was not issued
  before.  Unlike `Gateway.Moved` it asks for no owner of anything, so it speaks
  of hosts that go around the library as well.

  It holds of every operation of a stream (`StreamOp.run_spares`) and of a
  fetch on an open package (`Fetch.run_confined`, `Fetch.handOver_confined`).
-/
import EpubAccess.Proofs.Fetches.Twins

namespace EpubAccess

open Stateful Gateway

/-- Every live handle was issued. -/
def Engine.AllIssued (e : Engine) : Prop := ∀ (x : Handle) o, e.live[x]? = some o → e.Issued x

/-- Work was about the stream behind `h?`, if any, and about streams that it
opened; whatever else is live is as it was. -/
structure Gateway.Spares (h? : Option Handle) (g g' : Gateway) : Prop where
  archives : g'.engine.archives = g.engine.archives
  issued : g.engine.issued ≤ g'.engine.issued
  live : ∀ x : Handle, g.engine.Issued x → h? ≠ some x → g'.engine.live[x]? = g.engine.live[x]?
  allIssued : g.engine.AllIssued → g'.engine.AllIssued

/-! ## §1. Single steps. -/

section Steps

variable {g g' g'' : Gateway} {h? k? : Option Handle} {x : Handle}

namespace Gateway.Spares

/-- Only the log of events may differ. -/
theorem same (h? : Option Handle) (he : g'.engine = g.engine) : Spares h? g g' := by
  refine ⟨congrArg Engine.archives he, Nat.le_of_eq (congrArg Engine.issued he.symm),
    fun x _ _ => ?_, fun hall => ?_⟩
  · rw [he]
  · rw [he]
    exact hall

theorem refl (h? : Option Handle) (g : Gateway) : Spares h? g g := same h? rfl

/-- More work, about the same stream or about one that was opened meanwhile. -/
theorem trans (h : Spares h? g g') (h' : Spares k? g' g'')
    (hk : ∀ x, k? = some x → h? = some x ∨ ¬ g.engine.Issued x) : Spares h? g g'' := by
  refine ⟨h'.archives.trans h.archives, Nat.le_trans h.issued h'.issued, fun x hx hne => ?_,
    h'.allIssued ∘ h.allIssued⟩
  refine (h'.live x (hx.mono h.issued) fun hkx => ?_).trans (h.live x hx hne)
  exact (hk x hkx).elim hne fun hnew => hnew hx

/-- More work about the same stream. -/
theorem also (h : Spares h? g g') (h' : Spares h? g' g'') : Spares h? g g'' :=
  h.trans h' fun _ hx => .inl hx

end Gateway.Spares

/-- Calls about a handle. -/
theorem Gateway.Uses.spares (h : Uses h? g g') : Spares h? g g' := by
  refine ⟨h.engine.archives, Nat.le_of_eq h.engine.issued.symm,
    fun x _ hne => h.engine.live x (Ne.symm hne), fun hall x o ho => ?_⟩
  -- what is live now was live before
  have hkind := h.engine.kind x
  rw [ho] at hkind
  obtain ⟨o', ho', -⟩ := Option.map_eq_some_iff.mp hkind.symm
  exact (hall x o' ho').mono (Nat.le_of_eq h.engine.issued.symm)

/-- Calls about a package move no cursor. -/
theorem Gateway.Uses.spares_package (h : Uses (some x) g g') (hs : g.Serves .package (some x)) :
    Spares none g g' := by
  obtain ⟨o, ho, hk⟩ := serves_object hs
  refine ⟨h.spares.archives, h.spares.issued, fun y hy _ => ?_, h.spares.allIssued⟩
  by_cases hyx : x = y
  · rw [← hyx, ho]
    exact h.engine.object ho (by simp [hk])
  · exact h.spares.live y hy fun he => hyx (Option.some.inj he)

/-- A new object. -/
theorem Gateway.allocate_spares (g : Gateway) (o : LiveObject) :
    Spares none g { g with engine := (g.engine.allocate o).2 } := by
  refine ⟨rfl, Nat.le_succ _, fun x hx _ => ?_, fun hall x o' ho' => ?_⟩
  · have hne : ¬ Handle.issuedAfter g.engine.issued = x :=
      fun he => g.engine.not_issued_next (he ▸ hx)
    simp [Engine.allocate, Std.ExtTreeMap.getElem?_insert, hne]
  · by_cases hx : Handle.issuedAfter g.engine.issued = x
    · exact hx ▸ ⟨g.engine.issued, Nat.lt_succ_self _, rfl⟩
    · have hold : g.engine.live[x]? = some o' := by
        simpa [Engine.allocate, Std.ExtTreeMap.getElem?_insert, hx] using ho'
      exact (hall x o' hold).mono (Nat.le_succ _)

/-- A handle given back. -/
theorem OwnedHandle.giveBack_spares (y : OwnedHandle) {o : LiveObject}
    (ho : g.engine.live[y.handle]? = some o) : Spares (some y.handle) g (y.giveBack g).2 := by
  obtain ⟨hlive, hissued, -, harchives, -⟩ :=
    Engine.takeBack_live (e := g.engine.record y.returnCall) (h := y.handle) ho
  rw [← y.giveBack_engine] at hlive hissued harchives
  have hissued' : g.engine.issued ≤ (y.giveBack g).2.engine.issued := Nat.le_of_eq hissued.symm
  refine ⟨harchives, hissued', fun x _ hne => ?_, fun hall x o' ho' => ?_⟩
  · have hne' : ¬ y.handle = x := fun he => hne (congrArg some he)
    rw [hlive, Std.ExtTreeMap.getElem?_erase]
    simp [hne', Engine.record]
  · rw [hlive, Std.ExtTreeMap.getElem?_erase] at ho'
    split at ho'
    · exact absurd ho' (by simp)
    · exact (hall x o' ho').mono hissued'

end Steps

/-! ## §2. Streams. -/

namespace ContentStream

variable {g g' : Gateway} {s s' : ContentStream}

/-- What is live behind an open stream is a stream. -/
theorem Twins.serves (h : Twins g s g' s') : g.Serves .stream s.handle.get? := by
  intro x hx
  cases hr : s.handle.released with
  | true =>
    rw [OwnedHandle.get?_eq_none hr] at hx
    exact absurd hx (by simp)
  | false =>
    rw [OwnedHandle.get?_eq_some hr, Option.some.injEq] at hx
    obtain ⟨c, hc, -⟩ := h.behind hr
    rw [← hx, hc]
    rfl

variable (hs : g.Serves .stream s.handle.get?)

include hs

theorem Local.spares {α : Type} {m : StateM Gateway (α × ContentStream)} (hm : s.Local m) :
    Spares s.handle.get? g (m g).2 :=
  (hm g hs).1.spares

/-- Giving the handle back, if it is held. -/
theorem giveBack_spares (hr : s.handle.released = false) :
    Spares s.handle.get? g (s.handle.giveBack g).2 := by
  rw [OwnedHandle.get?_eq_some hr] at hs ⊢
  obtain ⟨o, ho, -⟩ := serves_object hs
  exact s.handle.giveBack_spares ho

theorem close_spares : Spares s.handle.get? g (s.close g).2 := by
  cases hr : s.handle.released with
  | true =>
    rw [close_of_closed hr]
    exact .same _ rfl
  | false =>
    rw [close_of_open hr]
    exact (giveBack_spares hs hr).also (.same _ rfl)

theorem drop_spares : Spares s.handle.get? g (s.drop g).2 := by
  unfold ContentStream.drop OwnedHandle.drop
  cases hr : s.handle.released with
  | true => exact .refl _ g
  | false =>
    let e := Event.releasedOnDrop s.handle.kind s.handle.handle
    have hemit : Spares s.handle.get? g (Gateway.emit e g).2 := .same _ rfl
    exact hemit.also (giveBack_spares (g := (Gateway.emit e g).2) hs hr)

omit hs

/-- A stream that is closed has no handle any more. -/
theorem close_get? (s : ContentStream) (g : Gateway) : (s.close g).1.2.handle.get? = none := by
  cases hr : s.handle.released with
  | true =>
    rw [close_of_closed hr]
    exact OwnedHandle.get?_eq_none hr
  | false =>
    rw [close_of_open hr]
    rfl

end ContentStream

/-- **Every operation of a stream is about that stream**, which keeps its
handle or gives it back. -/
theorem StreamOp.run_spares {g : Gateway} {s : ContentStream}
    (hs : g.Serves .stream s.handle.get?) (op : StreamOp) :
    Spares s.handle.get? g (op.run s g).2
      ∧ ∀ x, (op.run s g).1.2.handle.get? = some x → s.handle.get? = some x := by
  cases hop : op.closes with
  | true =>
    cases op <;> simp only [StreamOp.closes, Bool.false_eq_true] at hop
    have hnone := s.close_get? g
    exact ⟨ContentStream.close_spares hs, fun x hx => absurd (hnone.symm.trans hx) (by simp)⟩
  | false =>
    have hlocal := StreamOp.run_local s op hop
    refine ⟨ContentStream.Local.spares hs hlocal, fun x hx => ?_⟩
    rw [← (hlocal g hs).2.handle]
    exact hx

/-! ## §3. Openings. -/

section Openings

variable {g : Gateway} {p : Package} {h : Handle} {found : Engine → Option Cursor}

/-- An opening left everything alone; a stream that it gave has a number that
was not issued before. -/
structure OpenedApart (g : Gateway) (r : Option ContentStream) (g' : Gateway) : Prop where
  spares : Spares none g g'
  handle : ∀ s, r = some s → ∃ x, s.handle.get? = some x ∧ ¬ g.engine.Issued x

theorem Gateway.Issues.apart {m : StateM Gateway (Option Handle)} (hm : Issues .package h found m)
    (hs : g.Serves .package (some h)) :
    Spares none g (m g).2 ∧ ∀ x, (m g).1 = some x → ¬ g.engine.Issued x
      ∧ (m g).2.Serves .stream (some x) := by
  rcases hm g hs with ⟨hnone, huses, -⟩ | ⟨c, g1, -, huses, hrun⟩
  · exact ⟨huses.spares_package hs, fun x hx => absurd (hnone.symm.trans hx) (by simp)⟩
  · rw [hrun]
    refine ⟨(huses.spares_package hs).also (g1.allocate_spares (.stream c)), ?_⟩
    rintro x ⟨⟩
    refine ⟨fun hx => ?_, fun y hy => ?_⟩
    · exact g1.engine.not_issued_next (hx.mono (Nat.le_of_eq huses.engine.issued.symm))
    · rw [← Option.some.inj hy]
      simp [Engine.allocate, LiveObject.kind]

/-- A new stream asks for its length. -/
theorem ContentStream.ofHandle_spares {x : Handle} (path : String) (cap : UInt64)
    (hs : g.Serves .stream (some x)) : Spares (some x) g (ofHandle x path cap g).2 :=
  (Gateway.available_only g hs).1.spares.also (.same _ rfl)

theorem Package.streamOver_apart (p : Package) (path : String) {m : StateM Gateway (Option Handle)}
    (hm : Issues .package h found m) (hs : g.Serves .package (some h)) :
    OpenedApart g ((m >>= p.streamOver path) g).1 ((m >>= p.streamOver path) g).2 := by
  obtain ⟨hspares, hgives⟩ := hm.apart hs
  rw [bind_apply]
  cases hx : (m g).1 with
  | none => exact ⟨hspares, fun s h => absurd h (by simp [Package.streamOver, pure_apply])⟩
  | some x =>
    obtain ⟨hnew, hserves⟩ := hgives x hx
    refine ⟨hspares.trans (ContentStream.ofHandle_spares path p.maxReadAll hserves) ?_, ?_⟩
    · rintro y ⟨⟩
      exact .inr hnew
    · rintro s ⟨⟩
      exact ⟨x, rfl, hnew⟩

/-- What an open package does once its container was looked for. -/
theorem Package.reach_apart (hopen : p.isClosed = false)
    (hs : g.Serves .package (some p.handle.handle)) (access : PackageAccess) (attached : Bool)
    (path : String) {m : StateM Gateway (Option Handle)}
    (hm : Issues .package p.handle.handle found m)
    {f : Option Handle → StateM Gateway (Option ContentStream)}
    (hf : f (some p.handle.handle) = do
      if ← reach attached path then m >>= p.streamOver path else pure none) :
    OpenedApart g ((p.live access >>= f) g).1 ((p.live access >>= f) g).2 := by
  rw [Package.live_bind_of_open hopen, hf]
  cases attached with
  | false =>
    refine ⟨.same _ rfl, fun s h => ?_⟩
    exact absurd (show none = some s from h) (by simp)
  | true => exact p.streamOver_apart path hm hs

end Openings

/-! ## §4. Fetches. -/

namespace Fetch

variable {g g' g'' : Gateway} {f f' f'' : Fetch} {p : Package}

/-- Work of the fetch was about the stream that it held or about one that it
opened itself, and it holds no other now. -/
structure Confined (g : Gateway) (f : Fetch) (g' : Gateway) (f' : Fetch) : Prop where
  spares : Spares f.openHandle? g g'
  handle : ∀ x, f'.openHandle? = some x → f.openHandle? = some x ∨ ¬ g.engine.Issued x

namespace Confined

/-- The gateway only said something. -/
theorem same (f : Fetch) (he : g'.engine = g.engine) : Confined g f g' f :=
  ⟨.same _ he, fun _ hx => .inl hx⟩

theorem trans (h : Confined g f g' f') (h' : Confined g' f' g'' f'') : Confined g f g'' f'' := by
  refine ⟨h.spares.trans h'.spares h.handle, fun x hx => ?_⟩
  rcases h'.handle x hx with hheld | hnew
  · exact h.handle x hheld
  · exact .inr fun hi => hnew (hi.mono h.spares.issued)

end Confined

theorem opening_apart (ha : p.KnownAlike g g') (f : Fetch) (attached ranged : Bool) :
    OpenedApart g (f.opening p attached ranged g).1 (f.opening p attached ranged g).2 := by
  unfold opening
  by_cases hraw : f.raw = true
  · rw [if_pos hraw]
    exact Package.reach_apart ha.isOpen ha.serves .openRawStream attached f.path
      (openRawStream_issues f.path p.bufferSizeHint false) rfl
  · rw [if_neg hraw]
    exact Package.reach_apart ha.isOpen ha.serves .openStream attached f.path
      (openStream_issues f.path p.bufferSizeHint ranged) rfl

theorem ensureStream_confined (ha : p.KnownAlike g g') (f : Fetch) (attached ranged : Bool) :
    Confined g f (f.ensureStream p attached ranged g).2
      (f.ensureStream p attached ranged g).1.2 := by
  cases hs : f.stream with
  | some s =>
    rw [ensureStream_of_some hs]
    exact .same f rfl
  | none =>
    obtain ⟨hspares, hnew⟩ := opening_apart ha f attached ranged
    rw [ensureStream_of_none hs ha.isOpen, map_apply]
    refine ⟨openHandle?_of_none hs ▸ hspares, fun x hx => ?_⟩
    cases hr : (f.opening p attached ranged g).1 with
    | none =>
      rw [hr] at hx
      exact .inl hx
    | some s =>
      obtain ⟨y, hy, hissued⟩ := hnew s hr
      rw [hr] at hx
      have hxy : y = x := Option.some.inj (hy.symm.trans hx)
      exact .inr (hxy ▸ hissued)

/-- Work on what was ensured. -/
theorem ensured_confined {α : Type} (h : Twins g f g' f') (ha : p.KnownAlike g g')
    (attached ranged : Bool)
    {k : Except AccessError ContentStream × Fetch → StateM Gateway (α × Fetch)}
    (herror : ∀ e g f, Confined g f (k (.error e, f) g).2 (k (.error e, f) g).1.2)
    (hok : ∀ s g f g' f', Twins g f g' f' → f.stream = some s →
      Confined g f (k (.ok s, f) g).2 (k (.ok s, f) g).1.2) :
    Confined g f ((f.ensureStream p attached ranged >>= k) g).2
      ((f.ensureStream p attached ranged >>= k) g).1.2 := by
  obtain ⟨hfetch, hensured⟩ := ensureStream_twins h ha attached ranged
  have hfirst := ensureStream_confined ha f attached ranged
  refine hfirst.trans ?_
  rw [bind_apply]
  generalize f.ensureStream p attached ranged g = r at hfetch hensured ⊢
  generalize f'.ensureStream p attached ranged g' = r' at hfetch hensured
  obtain ⟨⟨r, f1⟩, g1⟩ := r
  obtain ⟨⟨r', f1'⟩, g1'⟩ := r'
  cases hensured with
  | error e _ => exact herror e g1 f1
  | ok hs hs' htwins => exact hok _ g1 f1 g1' f1' hfetch hs

theorem Twins.serves (h : Twins g f g' f') : g.Serves .stream f.openHandle? := by
  rcases h.held with ⟨hs, -⟩ | ⟨s, s', hs, -, htwins⟩
  · rw [openHandle?_of_none hs]
    exact fun x hx => absurd hx (by simp)
  · rw [openHandle?_of_some hs]
    exact htwins.serves

/-- Closing what is held. -/
theorem close_confined (h : Twins g f g' f') : Confined g f (f.close g).2 (f.close g).1 := by
  have hnone := openHandle?_of_none (f.close_stream g)
  refine ⟨?_, fun x hx => absurd (hnone.symm.trans hx) (by simp)⟩
  unfold Fetch.close
  rcases h.held with ⟨hs, -⟩ | ⟨s, s', hs, -, htwins⟩
  · rw [hs]
    exact .refl _ g
  · rw [hs, openHandle?_of_some hs]
    exact ContentStream.close_spares htwins.serves

/-- Use of the stream that is held, which stays. -/
theorem use_confined {α : Type} {s s' : ContentStream} {m : StateM Gateway (α × ContentStream)}
    (hm : s.Local m) (h : ContentStream.Twins g s g' s') (hs : f.stream = some s) :
    Confined g f (m g).2 { f with stream := some (m g).1.2 } := by
  refine ⟨openHandle?_of_some hs ▸ hm.spares h.serves, fun x hx => .inl ?_⟩
  rw [openHandle?_of_some hs, ← (hm g h.serves).2.handle]
  exact hx

theorem readAll_confined (h : Twins g f g' f') (ha : p.KnownAlike g g') (attached : Bool) :
    Confined g f (f.readAll p attached g).2 (f.readAll p attached g).1.2 := by
  refine ensured_confined h ha attached false (fun _ _ f => .same f rfl) fun s g f g' f' h hs => ?_
  obtain ⟨s', -, htwins⟩ := h.of_held hs
  have huse := use_confined s.readAll_local htwins hs
  exact huse.trans (close_confined (h.holding htwins.readAll.rest))

theorem readRange_confined (h : Twins g f g' f') (ha : p.KnownAlike g g') (attached : Bool)
    (offset n : UInt64) :
    Confined g f (f.readRange p attached offset n g).2 (f.readRange p attached offset n g).1.2 := by
  refine ensured_confined h ha attached true (fun _ _ f => .same f rfl) fun s g f g' f' h hs => ?_
  by_cases hn : n = 0
  · dsimp only
    rw [if_pos hn]
    exact close_confined h
  obtain ⟨s', -, htwins⟩ := h.of_held hs
  have huse := use_confined (s.readRange_local offset n) htwins hs
  have hkept := h.holding (htwins.readRange offset n).rest
  dsimp only
  rw [if_neg hn, bind_apply]
  generalize s.readRange offset n g = r at huse hkept ⊢
  obtain ⟨⟨r, s1⟩, g1⟩ := r
  cases r with
  | ok bytes => exact huse.trans (close_confined hkept)
  | error e =>
    have hemit :=
      hkept.emit (.rangeReadFailed offset n f.path e) (.rangeReadFailed offset n f.path e)
    have hquiet : Confined g1 { f with stream := some s1 }
        (Gateway.emit (.rangeReadFailed offset n f.path e) g1).2 { f with stream := some s1 } :=
      .same _ rfl
    exact (huse.trans hquiet).trans (close_confined hemit)

/-- **Every operation of a fetch on an open package** is about its own stream. -/
theorem run_confined (h : Twins g f g' f') (ha : p.KnownAlike g g') (attached : Bool)
    (op : FetchOp) :
    Confined g f (op.run f p attached g).2 (op.run f p attached g).1.2 := by
  cases op with
  | ensureStream ranged =>
    exact ensured_confined h ha attached ranged (fun _ _ f => .same f rfl)
      fun _ _ f _ _ _ _ => .same f rfl
  | readAll => exact readAll_confined h ha attached
  | readRange offset n => exact readRange_confined h ha attached offset n
  | close => exact close_confined h

/-- **Handing over** leaves the fetch without a stream; the one that is handed
over, if any, was held or was opened now. -/
theorem handOver_confined (h : Twins g f g' f') (ha : p.KnownAlike g g') (attached ranged : Bool) :
    Spares f.openHandle? g (f.handOver p attached ranged g).2
      ∧ (f.handOver p attached ranged g).1.2.stream = none
      ∧ ∀ s, (f.handOver p attached ranged g).1.1 = some s → ∀ x, s.handle.get? = some x →
          f.openHandle? = some x ∨ ¬ g.engine.Issued x := by
  obtain ⟨hfetch, hensured⟩ := ensureStream_twins h ha attached ranged
  have hfirst := ensureStream_confined ha f attached ranged
  unfold Fetch.handOver
  rw [bind_apply]
  generalize f.ensureStream p attached ranged g = r at hfetch hensured hfirst ⊢
  generalize f'.ensureStream p attached ranged g' = r' at hfetch hensured
  obtain ⟨⟨r, f1⟩, g1⟩ := r
  obtain ⟨⟨r', f1'⟩, g1'⟩ := r'
  cases hensured with
  | error e hs =>
    have hemit : Spares none g1 (Gateway.emit (.fetchFailed .openStream f1.path e) g1).2 :=
      .same _ rfl
    refine ⟨hfirst.spares.trans hemit (by simp), hs, fun s h => ?_⟩
    exact absurd (show none = some s from h) (by simp)
  | ok hs hs' htwins =>
    refine ⟨hfirst.spares, rfl, ?_⟩
    rintro s ⟨⟩ x hx
    exact hfirst.handle x ((openHandle?_of_some hs).trans hx)

end Fetch

end EpubAccess
