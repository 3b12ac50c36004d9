/-
  EpubAccess.Proofs.Fetches.Apart
  ────────────────────────────────
  No two slots hold one stream.

  Whatever a host is asked for, also around the library, a stream that is open
  is held by one slot alone, itself or in a fetch, under a handle that the
  engine issued (`Host.orderly_after`).

  Of all commands only those about streams and fetches are not tidy: what they
  put into a slot was there before, or the engine issued it just now
  (`Gateway.Brings`).
-/
import EpubAccess.Proofs.Fetches.Lives
import EpubAccess.Proofs.Fetches.Spares
import EpubAccess.Proofs.Fetches.Tidying
import EpubAccess.Proofs.Reports.Remarks

namespace EpubAccess

open Stateful Gateway

/-! ## §1. Streams that come up. -/

/-- The handle was issued by the work that led from `g` to `g'`. -/
def Gateway.Brings (g g' : Gateway) (x : Handle) : Prop :=
  ¬ g.engine.Issued x ∧ g'.engine.Issued x

/-- The next handle, issued. -/
theorem Gateway.brings_next {g g' : Gateway} (h : g'.engine.issued = g.engine.issued + 1) :
    g.Brings g' (Handle.issuedAfter g.engine.issued) := by
  refine ⟨g.engine.not_issued_next, g.engine.issued, ?_, rfl⟩
  rw [h]
  exact Nat.lt_succ_self _

theorem Gateway.Brings.later {g g' g'' : Gateway} {x : Handle} (h : g.Brings g' x)
    (hle : g'.engine.issued ≤ g''.engine.issued) : g.Brings g'' x := ⟨h.1, h.2.mono hle⟩

/-- Handles that the engine hands out are new. -/
theorem Engine.perform_brings {g g' : Gateway} (he : g.engine.InOrder) (r : Request)
    (hg : g'.engine = (g.engine.perform r).2) :
    ∀ x ∈ (g.engine.perform r).1.handed, g.Brings g' x := by
  intro x hx
  obtain ⟨n, hissued, hhanded⟩ := (perform_outcome he r).handed_eq
  rw [hhanded, List.mem_map] at hx
  obtain ⟨i, hi, rfl⟩ := hx
  obtain ⟨hle, hlt⟩ := List.mem_range'_1.mp hi
  refine ⟨?_, i, ?_, rfl⟩
  · rintro ⟨j, hj, heq⟩
    have := Handle.issuedAfter_injective heq
    omega
  · rw [hg, hissued]
    exact hlt

theorem Package.Opens.brings {g g' : Gateway} {s? : Option ContentStream}
    (h : Package.Opens g s? g') {s : ContentStream} (hs : s? = some s) {x : Handle}
    (hx : s.handle.get? = some x) : g.Brings g' x := by
  have hhandle := h.next s hs
  have hshows := h.shows.issued
  rw [hhandle] at hx
  rw [hs] at hshows
  obtain rfl : Handle.issuedAfter g.engine.issued = x := Option.some.inj hx
  exact brings_next hshows

/-- A file of a container comes under a new handle. -/
theorem Container.rawStream_brings (c : Container) (path : String) {g : Gateway}
    (he : g.engine.InOrder) {s : ContentStream} (hs : (c.rawStream path g).1 = some s) {x : Handle}
    (hx : s.handle.get? = some x) : g.Brings (c.rawStream path g).2 x := by
  unfold Container.rawStream at hs ⊢
  cases hc : c.handle.get? with
  | none =>
    rw [hc] at hs
    exact absurd (show none = some s from hs) (by simp)
  | some h =>
    rw [hc] at hs
    have hnew : ∀ y, (Gateway.rawContainerStream h path g).1 = some y →
        g.Brings (Gateway.rawContainerStream h path g).2 y := by
      unfold Gateway.rawContainerStream refusable
      split
      · intro y hy
        refine Engine.perform_brings he (.rawContainerStream h path) rfl y ?_
        show y ∈ (g.engine.rawContainerStream h path).1.toList
        exact Option.mem_toList.mpr hy
      · exact fun y hy => absurd hy (by simp)
    simp only [bind_apply] at hs ⊢
    generalize Gateway.rawContainerStream h path g = r at hs hnew ⊢
    obtain ⟨h?, g1⟩ := r
    cases h? with
    | none => exact absurd (show none = some s from hs) (by simp)
    | some y =>
      have hlength := (ContentStream.ofHandle_onward y path c.config.maxReadAll g1).1.issued_le
      obtain rfl : _ = s := Option.some.inj hs
      obtain rfl : y = x := Option.some.inj hx
      exact (hnew y rfl).later hlength

namespace Fetch

variable (f : Fetch) (p : Package) (attached : Bool) (g : Gateway)

/-- A stream that is ensured was held, or is new. -/
theorem ensureStream_brings (ranged : Bool) {x : Handle}
    (hx : (f.ensureStream p attached ranged g).1.2.openHandle? = some x) :
    f.openHandle? = some x ∨ g.Brings (f.ensureStream p attached ranged g).2 x := by
  have hensures := f.ensureStream_ensures p attached ranged g
  generalize f.ensureStream p attached ranged g = r at hensures hx ⊢
  obtain ⟨⟨r, f'⟩, g'⟩ := r
  cases hensures with
  | kept _ => exact .inl hx
  | failed _ _ => exact .inl hx
  | opened hs hh hshows =>
    rw [openHandle?_of_some rfl, hh] at hx
    obtain rfl : Handle.issuedAfter g.engine.issued = x := Option.some.inj hx
    exact .inr (brings_next hshows.issued)

/-- An operation that reads what is ensured ends without a stream. -/
theorem ensured_brings {α : Type} (ranged : Bool)
    {k : Except AccessError ContentStream × Fetch → StateM Gateway (α × Fetch)}
    (herror : ∀ e f g, (k (.error e, f) g).1.2 = f)
    (hok : ∀ s f g, (k (.ok s, f) g).1.2.stream = none) {x : Handle}
    (hx : ((f.ensureStream p attached ranged >>= k) g).1.2.openHandle? = some x) :
    f.openHandle? = some x := by
  have hensures := f.ensureStream_ensures p attached ranged g
  rw [bind_apply] at hx
  generalize f.ensureStream p attached ranged g = r at hensures hx
  obtain ⟨⟨r, f'⟩, g'⟩ := r
  have hnone : ∀ s, (k (.ok s, f') g').1.2.openHandle? ≠ some x := by
    intro s
    rw [openHandle?_of_none (hok s f' g')]
    simp
  cases hensures with
  | kept _ => exact absurd hx (hnone _)
  | opened _ _ _ => exact absurd hx (hnone _)
  | failed _ _ =>
    rw [herror] at hx
    exact hx

theorem readAll_held {x : Handle}
    (hx : (f.readAll p attached g).1.2.openHandle? = some x) : f.openHandle? = some x := by
  unfold Fetch.readAll at hx
  refine ensured_brings f p attached g false (fun _ _ _ => rfl) (fun s f g => ?_) hx
  exact close_stream { f with stream := some (s.readAll g).1.2 } (s.readAll g).2

theorem readRange_held (offset n : UInt64) {x : Handle}
    (hx : (f.readRange p attached offset n g).1.2.openHandle? = some x) :
    f.openHandle? = some x := by
  unfold Fetch.readRange at hx
  refine ensured_brings f p attached g true (fun _ _ _ => rfl) (fun s f g => ?_) hx
  dsimp only
  split
  · exact close_stream f g
  · rw [bind_apply]
    generalize s.readRange offset n g = r
    obtain ⟨⟨r, s'⟩, g'⟩ := r
    cases r with
    | ok bytes => exact close_stream { f with stream := some s' } g'
    | error e =>
      exact close_stream { f with stream := some s' }
        (Gateway.emit (.rangeReadFailed offset n f.path e) g').2

/-- **A fetch holds the stream that it held, or a new one**, after any use. -/
theorem run_brings (op : FetchOp) {x : Handle}
    (hx : (op.run f p attached g).1.2.openHandle? = some x) :
    f.openHandle? = some x ∨ g.Brings (op.run f p attached g).2 x := by
  cases op with
  | ensureStream ranged =>
    have hensured := ensureStream_brings f p attached g ranged (x := x)
    unfold FetchOp.run at hx ⊢
    simp only [bind_apply] at hx ⊢
    generalize f.ensureStream p attached ranged g = r at hensured hx ⊢
    obtain ⟨⟨_ | s, f'⟩, g'⟩ := r
    · exact hensured hx
    · exact hensured hx
  | readAll => exact .inl (readAll_held f p attached g hx)
  | readRange offset n => exact .inl (readRange_held f p attached g offset n hx)
  | close =>
    have hnone := openHandle?_of_none (f.close_stream g)
    exact absurd (hnone.symm.trans hx) (by simp)

/-- A stream handed over was held, or is new, and the fetch is left without. -/
theorem handOver_brings (ranged : Bool) :
    (f.handOver p attached ranged g).1.2.stream = none
      ∧ ∀ s, (f.handOver p attached ranged g).1.1 = some s → ∀ x, s.handle.get? = some x →
          f.openHandle? = some x ∨ g.Brings (f.handOver p attached ranged g).2 x := by
  have hensures := f.ensureStream_ensures p attached ranged g
  have hensured := fun x => ensureStream_brings f p attached g ranged (x := x)
  unfold Fetch.handOver
  rw [bind_apply]
  generalize f.ensureStream p attached ranged g = r at hensures hensured ⊢
  obtain ⟨⟨r, f'⟩, g'⟩ := r
  cases hensures with
  | failed hs _ => exact ⟨hs, fun s h => absurd (show none = some s from h) (by simp)⟩
  | kept hs =>
    refine ⟨rfl, ?_⟩
    rintro s ⟨⟩ x hx
    exact .inl ((openHandle?_of_some hs).trans hx)
  | opened hs hh hshows =>
    refine ⟨rfl, ?_⟩
    rintro s ⟨⟩ x hx
    exact hensured x hx

end Fetch

/-! ## §2. Every open stream in one slot. -/

namespace Host

variable {w w' : Host} {m slot dest : String}

/-- Every open stream is held by one slot, under a handle that was issued. -/
structure Orderly (w : Host) : Prop where
  engine : w.gateway.engine.InOrder
  issued : ∀ m x, w.openAt m = some x → w.gateway.engine.Issued x
  apart : ∀ m m' x, w.openAt m = some x → w.openAt m' = some x → m = m'

theorem Orderly.fresh : Orderly fresh :=
  ⟨Engine.inOrder_empty, fun m x hx => by simp [openAt, Host.fresh] at hx,
    fun m m' x hx => by simp [openAt, Host.fresh] at hx⟩

theorem Orderly.tidy (hw : Orderly w) (h : Tidy w w') : Orderly w' := by
  have hold : ∀ l x, w'.openAt l = some x → w.openAt l = some x := by
    intro l x hx
    rcases h.slots l with hsame | hnone
    · exact hsame.symm.trans hx
    · exact absurd (hnone.symm.trans hx) (by simp)
  exact ⟨h.engine hw.engine, fun l x hx => (hw.issued l x (hold l x hx)).mono h.issued,
    fun l l' x hx hx' => hw.apart l l' x (hold l x hx) (hold l' x hx')⟩

/-- A stream that a slot held, or that is new, is held by no other slot. -/
theorem Orderly.alone (hw : Orderly w) {g : Gateway}
    (hle : w.gateway.engine.issued ≤ g.engine.issued) {x : Handle}
    (hx : w.openAt m = some x ∨ w.gateway.Brings g x) :
    g.engine.Issued x ∧ ∀ l, l ≠ m → w.openAt l ≠ some x := by
  rcases hx with hheld | hnew
  · exact ⟨(hw.issued m x hheld).mono hle, fun l hl hx => hl (hw.apart l m x hx hheld)⟩
  · exact ⟨hnew.2, fun l _ hx => hnew.1 (hw.issued l x hx)⟩

/-- Work at the gateway, and a stream put into a slot that no other slot holds. -/
theorem Orderly.put (hw : Orderly w) {g : Gateway} (hg : w.gateway.engine.Served g.engine)
    {o : Holding}
    (ho : ∀ x, o.openHandle? = some x → g.engine.Issued x ∧ ∀ l, l ≠ m → w.openAt l ≠ some x) :
    Orderly { w with gateway := g, slots := w.slots.insert m o } := by
  have hself : openAt { w with gateway := g, slots := w.slots.insert m o } m = o.openHandle? :=
    openAt_of_slot (insert_self _ _ _)
  have hother : ∀ l, l ≠ m →
      openAt { w with gateway := g, slots := w.slots.insert m o } l = w.openAt l := by
    intro l hl
    exact openAt_congr (by simp [Std.ExtTreeMap.getElem?_insert, Ne.symm hl])
  refine ⟨hg.inOrder hw.engine, fun l x hx => ?_, fun l l' x hx hx' => ?_⟩
  · by_cases hl : l = m
    · rw [hl, hself] at hx
      exact (ho x hx).1
    · rw [hother l hl] at hx
      exact (hw.issued l x hx).mono hg.issued_le
  · by_cases hl : l = m <;> by_cases hl' : l' = m
    · rw [hl, hl']
    · rw [hl, hself] at hx
      rw [hother l' hl'] at hx'
      exact absurd hx' ((ho x hx).2 l' hl')
    · rw [hl', hself] at hx'
      rw [hother l hl] at hx
      exact absurd hx ((ho x hx').2 l hl)
    · rw [hother l hl] at hx
      rw [hother l' hl'] at hx'
      exact hw.apart l l' x hx hx'

/-! ## §3. Commands about streams. -/

/-- What comes up at the gateway stored in a slot. -/
theorem Orderly.storeStream (hw : Orderly w) {α : Type} {post : α → Prop} {n : StateM Gateway α}
    (hn : Gateway.Forward post n) {s? : Option ContentStream}
    (hs : ∀ s, s? = some s → ∀ x, s.handle.get? = some x → w.gateway.Brings (n w.gateway).2 x) :
    Orderly (storeStream dest s? (through n w).2).2 := by
  cases s? with
  | none => exact hw.tidy (through_tidying hn w)
  | some s =>
    have hgate := (hn w.gateway).1.served
    have hput : Orderly { w with
        gateway := (n w.gateway).2, slots := w.slots.insert dest (.stream s) } := by
      apply hw.put hgate
      intro x hx
      exact hw.alone hgate.issued_le (.inr (hs s rfl x hx))
    exact hput.tidy (tidy_outward.dropReplaced dest (.stream s) (through n w).2)

theorem rawStream_orderly (hw : Orderly w) (path : String) :
    Orderly (run (.rawStream slot path dest) w).2 := by
  apply withContainer_keeps hw
  intro id c _ _
  exact hw.storeStream (c.rawStream_onward path) fun s hs x hx =>
    c.rawStream_brings path hw.engine hs hx

theorem packageStream_orderly (hw : Orderly w) (path : String) (mode : StreamMode) :
    Orderly (run (.packageStream slot path mode dest) w).2 := by
  apply withPackage_keeps hw
  intro k p _ _
  cases mode with
  | filtered ranged =>
    exact hw.storeStream (p.openStream_onward (w.isAttached p) path ranged) fun s hs x hx =>
      (p.openStream_opens (w.isAttached p) path ranged w.gateway).brings hs hx
  | raw =>
    exact hw.storeStream (p.openRawStream_onward (w.isAttached p) path) fun s hs x hx =>
      (p.openRawStream_opens (w.isAttached p) path w.gateway).brings hs hx

theorem runStream_orderly (hw : Orderly w) (op : StreamOp) : Orderly (runStream slot op w).2 := by
  apply withStream_keeps hw
  intro s hs
  have hgate := (StreamOp.run_onward s op w.gateway).1.served
  apply hw.put hgate
  intro x hx
  refine hw.alone hgate.issued_le (.inl ?_)
  -- a stream that is not closed stays under its handle
  rw [openAt_of_slot hs]
  show s.handle.get? = some x
  change (op.run s w.gateway).1.2.handle.get? = some x at hx
  cases hop : op.closes with
  | false =>
    rw [← (StreamOp.run_remarking s op w.gateway).2 hop]
    exact hx
  | true =>
    cases op <;> simp only [StreamOp.closes, Bool.false_eq_true] at hop
    exact absurd ((s.close_get? w.gateway).symm.trans hx) (by simp)

theorem runFetch_orderly (hw : Orderly w) (op : FetchOp) : Orderly (runFetch slot op w).2 := by
  apply withFetch_keeps hw
  intro f p hf _
  have hgate := (f.run_forward p (w.isAttached p) op w.gateway).1.served
  apply hw.put hgate
  intro x hx
  apply hw.alone hgate.issued_le
  rw [openAt_of_slot hf]
  exact f.run_brings p (w.isAttached p) w.gateway op hx

theorem runHandOver_orderly (hw : Orderly w) (ranged : Bool) :
    Orderly (runHandOver slot ranged dest w).2 := by
  apply withFetch_keeps hw
  intro f p hf _
  have hgate := (f.handOver_forward p (w.isAttached p) ranged w.gateway).1.served
  obtain ⟨hnone, hbrings⟩ := f.handOver_brings p (w.isAttached p) w.gateway ranged
  rw [get_bind_apply, bind_apply, through_apply]
  generalize f.handOver p (w.isAttached p) ranged w.gateway = r at hgate hnone hbrings ⊢
  obtain ⟨⟨s?, f'⟩, g⟩ := r
  -- first the fetch is left without its stream, then the stream is stored
  have hempty : (Holding.fetch f').openHandle? = none := Fetch.openHandle?_of_none hnone
  have hleft : Orderly { w with gateway := g, slots := w.slots.insert slot (.fetch f') } := by
    apply hw.put hgate
    intro x hx
    exact absurd (hempty.symm.trans hx) (by simp)
  cases s? with
  | none => exact hleft
  | some s =>
    refine (hleft.put (.refl _) ?_).tidy (tidy_outward.dropReplaced dest (.stream s) _)
    intro x hx
    have hx' := hbrings s rfl x hx
    rw [show f.openHandle? = w.openAt slot from (openAt_of_slot hf).symm] at hx'
    obtain ⟨hissued, halone⟩ := hw.alone hgate.issued_le hx'
    refine ⟨hissued, fun l _ hl => ?_⟩
    by_cases hls : l = slot
    · rw [hls, openAt_of_slot (insert_self _ _ _), hempty] at hl
      exact absurd hl (by simp)
    · rw [openAt_congr (w := w) (by simp [Std.ExtTreeMap.getElem?_insert, Ne.symm hls])] at hl
      exact halone l hls hl

/-! ## §4. Every command. -/

/-- **No two slots hold one stream** after a command either, whatever it is. -/
theorem Orderly.run (hw : Orderly w) (c : Command) : Orderly (run c w).2 := by
  have htidy : ∀ {α : Type} {m : StateM Host α}, Tidying m → Orderly (m w).2 := fun hm =>
    hw.tidy (hm w)
  -- the commands about streams first; all others are tidy
  cases c with
  | rawStream slot path dest => exact rawStream_orderly hw path
  | packageStream slot path mode dest => exact packageStream_orderly hw path mode
  | fetch slot op => exact runFetch_orderly hw op
  | handOver slot ranged dest => exact runHandOver_orderly hw ranged
  | stream slot op => exact runStream_orderly hw op
  | register path archive =>
    apply hw.tidy
    exact ⟨fun he => Engine.use_inOrder he (.register path archive), Nat.le_refl _,
      fun _ => .inl rfl⟩
  | inject fault => exact hw.tidy (.same rfl rfl)
  | engine r => exact htidy (runRequest_tidying r)
  | openContainer path config dest =>
    exact htidy (tidy_outward.runOpen (tidy_poolwise.openContainer path config))
  | addPackage container package =>
    exact htidy (Outward.runAddPackage tidy_poolwise.addPackage container package)
  | loadPackage h config dest =>
    exact htidy (.bind (tidy_poolwise.loadPackage h config) fun _ => tidy_outward.storePlain rfl)
  | package slot op => exact htidy (runPackage_tidying op)
  | _ => exact htidy (tidy_outward.run _ rfl)

/-- **Whatever a host is asked for**, no two slots hold one stream. -/
theorem orderly_after (cs : List Command) (hw : Orderly w) : Orderly (after cs w) := by
  induction cs generalizing w with
  | nil => exact hw
  | cons c cs ih =>
    rw [after_cons]
    exact ih (hw.run c)

end Host

end EpubAccess
