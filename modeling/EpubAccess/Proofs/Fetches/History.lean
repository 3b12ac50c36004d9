/-
  EpubAccess.Proofs.Fetches.History
  ────────────────────────────────
  Fetches and what they were used for before.

  Whatever a fetch was used for, it reads from what a new fetch of the same
  resource would read from (`Fetch.Gives`): a step keeps this
  (`FetchStep.run_gives`), hence a whole history does.  All that a history
  leaves behind is the access that a held stream was opened for
  (`FetchStep.heldMode`).  It matters in one place alone: over content that
  passes through filters, a stream that was not opened for ranges refuses
  them (`Host.fetch_answers_after_history`).
-/
import EpubAccess.Proofs.Fetches.Answers
import EpubAccess.Proofs.Ownership.Runs

namespace EpubAccess

open Stateful

/-! ## §1. Histories. -/

/-- One use of a fetch. -/
inductive FetchStep where
  | op (o : FetchOp)
  /-- Take the stream out of the fetch. -/
  | openStream (ranged : Bool)
  deriving DecidableEq

namespace FetchStep

/-- The fetch after one use; what the use answered goes elsewhere. -/
def run (p : Package) (attached : Bool) (f : Fetch) : FetchStep → StateM Gateway Fetch
  | op o => do
    let (_, f) ← o.run f p attached
    pure f
  | openStream ranged => do
    let (_, f) ← f.handOver p attached ranged
    pure f

/-- The fetch after several uses. -/
def runAll (p : Package) (attached : Bool) (f : Fetch) : List FetchStep → StateM Gateway Fetch
  | [] => pure f
  | st :: sts => do
    let f ← st.run p attached f
    runAll p attached f sts

/-- The access, for ranges or not, that the stream held after a use was opened
for, if one can be held. -/
def modeAfter (mode : Option Bool) : FetchStep → Option Bool
  | op (.ensureStream ranged) => some (mode.getD ranged)
  | _ => none

/-- The access that the stream held after a history was opened for. -/
def heldMode (sts : List FetchStep) : Option Bool := sts.foldl modeAfter none

end FetchStep

/-! ## §2. What a fetch reads from. -/

/-- What is left to those at their places includes what a package serves. -/
theorem Engine.Frame.source? {ι : Type} {held : ι → Option OwnedHandle} {e e' : Engine}
    {p : Package}
    {i : ι} (h : e.Frame held e') (hi : held i = some p.handle) (attached : Bool) (path : String)
    (raw ranged : Bool) : p.source? attached e' path raw ranged
      = p.source? attached e path raw ranged := by
  have hlive := h.live i p.handle hi
  have hresource : e'.resource? p.handle.handle path = e.resource? p.handle.handle path := by
    unfold Engine.resource? Engine.description?
    rw [hlive, h.archives]
  unfold Package.source?
  rw [hresource]

/-- If there is nothing to open for one access there is nothing for the other. -/
theorem Package.source?_none {p : Package} {attached : Bool} {e : Engine} {path : String}
    {raw ranged : Bool} (h : p.source? attached e path raw ranged = none) (ranged' : Bool) :
    p.source? attached e path raw ranged' = none := by
  unfold Package.source? at h ⊢
  split
  · next hopen =>
    rw [if_pos hopen, Option.map_eq_none_iff] at h
    rw [h]
    rfl
  · rfl

namespace Fetch

/-- The fetch reads from what a new fetch of the resource reads from, opened
for the access `mode` if that is given. -/
def Gives (f : Fetch) (p : Package) (attached : Bool) (e : Engine) (mode : Option Bool) : Prop :=
  ∀ ranged, f.source? p attached e ranged
    = (p.source? attached e f.path f.raw (mode.getD ranged)).map fun c => .ofCursor c p.maxReadAll

variable {f : Fetch} {p : Package} {attached : Bool}

/-- A fetch that holds no stream opens the resource anew. -/
theorem gives_of_none (h : f.stream = none) (e : Engine) : f.Gives p attached e none := by
  intro ranged
  unfold source?
  rw [h]
  rfl

theorem start_gives (k : PackageId) (path : String) (raw : Bool) (e : Engine) :
    (start k path raw).Gives p attached e none :=
  gives_of_none rfl e

end Fetch

/-! ## §3. One use. -/

section Steps

variable {ι : Type} {held : ι → Option OwnedHandle} {loose : List OwnedHandle} {g : Gateway}
  {f : Fetch} {p : Package} {i : ι} {attached : Bool} {mode : Option Bool}

open Gateway

/-- Uses of a fetch ended with the fetch `f'`, which reads from the same as
ever; streams that were taken out of it may be in hand. -/
structure Fetch.Used (held : ι → Option OwnedHandle) (p : Package) (attached : Bool) (f : Fetch)
    (g : Gateway) (mode : Option Bool) (f' : Fetch) (g' : Gateway) : Prop where
  moved : ∃ loose, Moved held (f'.handles ++ loose) g g'
  ready : f'.Ready True g'.engine
  target : f.SameTarget f'
  gives : f'.Gives p attached g'.engine mode

variable (l : Ledger g.engine held (f.handles ++ loose)) (hi : held i = some p.handle)
  (hk : p.handle.kind = .package) (hcalm : g.faults = .none) (hf : f.Ready True g.engine)

include l hi hk hcalm hf

/-- Ensuring a stream fixes the access, unless it is fixed already. -/
theorem Fetch.ensureStream_gives (hg : f.Gives p attached g.engine mode) (ranged : Bool) :
    (f.ensureStream p attached ranged g).1.2.Gives p attached
      (f.ensureStream p attached ranged g).2.engine (some (mode.getD ranged)) := by
  have he := Fetch.ensureStream_ensured l hi hk (fun _ => .of_none hcalm) hf attached ranged
  have hframe := fun path raw ranged => he.moved.frame.source? hi attached path raw ranged
  have hsource := hg ranged
  -- nothing to open for this access is nothing to open for any; a stream that was
  -- opened is held, and gives the same bytes whatever is asked for next
  cases hr : f.source? p attached g.engine ranged with
  | none =>
    obtain ⟨e, hfail⟩ := Fetch.ensureStream_fails l hi hk hcalm hf hr
    have hnothing : p.source? attached g.engine f.path f.raw (mode.getD ranged) = none :=
      Option.map_eq_none_iff.mp (hsource.symm.trans hr)
    intro ranged'
    rw [Fetch.gives_of_none (he.absent e hfail) _ ranged', hframe, hframe, he.target.path,
      he.target.raw, Package.source?_none hnothing, Package.source?_none hnothing]
  | some r =>
    obtain ⟨s, hs, hfollows⟩ := Fetch.ensureStream_follows l hi hk hcalm hf hr
    obtain ⟨c, hc, hover⟩ := Option.map_eq_some_iff.mp (hsource.symm.trans hr)
    intro ranged'
    rw [hframe, he.target.path, he.target.raw]
    show _ = (p.source? attached g.engine f.path f.raw (mode.getD ranged)).map _
    rw [hc, Option.map_some, hover]
    unfold Fetch.source?
    rw [he.held s hs]
    dsimp only
    rw [hfollows.cursor]
    dsimp only
    have hcap := hfollows.cap.trans (congrArg PlainCursor.cap hover.symm)
    rw [← hover, PlainCursor.ofCursor_behind hcap]

/-- **What a fetch answers**, by the resource that is served at its path and
the access that is fixed, if one is. -/
theorem Fetch.answers (hg : f.Gives p attached g.engine mode) {content : Option Resource}
    (hserves : ∀ ranged, p.source? attached g.engine f.path f.raw ranged
      = content.map fun r => r.cursor f.raw ranged) (offset n : UInt64) :
    (f.readAll p attached g).1.1
        = content.map (fun r => r.contents.bytes.extract 0 (min p.maxReadAll.toNat r.contents.size))
      ∧ (f.readRange p attached offset n g).1.1
        = content.bind fun r =>
            if offset.toNat < min (offset.toNat + n.toNat) r.contents.size
                ∧ mode = some false ∧ f.raw = false ∧ r.filtered = true then none
            else some (r.contents.bytes.extract offset.toNat
              (min (offset.toNat + n.toNat) r.contents.size)) := by
  have hsource : ∀ ranged, f.source? p attached g.engine ranged
      = content.map fun r => .ofCursor (r.cursor f.raw (mode.getD ranged)) p.maxReadAll := by
    intro ranged
    rw [hg ranged, hserves, Option.map_map]
    rfl
  have hmode : mode.getD true = false ↔ mode = some false := by
    cases mode <;> simp
  rw [Fetch.readAll_answer l hi hk hcalm hf, Fetch.readRange_answer l hi hk hcalm hf,
    hsource, hsource]
  cases content with
  | none => exact ⟨rfl, rfl⟩
  | some r =>
    refine ⟨congrArg some (r.slice_ofCursor f.raw _ p.maxReadAll), ?_⟩
    simp only [Option.map_some, Option.bind_some, Resource.readRange_ofCursor, hmode]

/-- Reading everything leaves no stream. -/
theorem Fetch.readAll_stream : (f.readAll p attached g).1.2.stream = none := by
  have he := Fetch.ensureStream_ensured l hi hk (fun _ => .of_none hcalm) hf attached false
  unfold Fetch.readAll
  rw [bind_apply]
  generalize f.ensureStream p attached false g = x at he ⊢
  obtain ⟨⟨a, f'⟩, g'⟩ := x
  cases a with
  | error e => exact he.absent e rfl
  | ok s => rfl

/-- Reading a range leaves no stream, refused or not. -/
theorem Fetch.readRange_stream (offset n : UInt64) :
    (f.readRange p attached offset n g).1.2.stream = none := by
  have he := Fetch.ensureStream_ensured l hi hk (fun _ => .of_none hcalm) hf attached true
  unfold Fetch.readRange
  rw [bind_apply]
  generalize f.ensureStream p attached true g = x at he ⊢
  obtain ⟨⟨a, f'⟩, g'⟩ := x
  cases a with
  | error e => exact he.absent e rfl
  | ok s =>
    dsimp only
    split
    · exact Fetch.close_stream _ _
    · rw [bind_apply]
      generalize s.readRange offset n g' = y
      obtain ⟨⟨b, s'⟩, g''⟩ := y
      cases b <;> rfl

/-- **One use of a fetch** changes what it reads from only in the access. -/
theorem FetchStep.run_gives (hg : f.Gives p attached g.engine mode) (st : FetchStep) :
    Fetch.Used held p attached f g (st.modeAfter mode) (st.run p attached f g).1
      (st.run p attached f g).2 := by
  have hrefusing : True → g.faults.Refusing := fun _ => .of_none hcalm
  cases st with
  | op o =>
    have hkept := Fetch.run_kept l hi hk hrefusing hf attached o
    refine ⟨⟨loose, hkept.moved⟩, hkept.ready, hkept.target, ?_⟩
    cases o with
    | ensureStream ranged =>
      have hgives := Fetch.ensureStream_gives l hi hk hcalm hf hg ranged
      show Fetch.Gives (FetchOp.run f p attached (.ensureStream ranged) g).1.2 p attached
        (FetchOp.run f p attached (.ensureStream ranged) g).2.engine (some (mode.getD ranged))
      simp only [FetchOp.run, bind_apply]
      generalize f.ensureStream p attached ranged g = x at hgives ⊢
      obtain ⟨⟨a, f'⟩, g'⟩ := x
      cases a <;> exact hgives
    | readAll => exact Fetch.gives_of_none (Fetch.readAll_stream l hi hk hcalm hf) _
    | readRange offset n =>
      exact Fetch.gives_of_none (Fetch.readRange_stream l hi hk hcalm hf offset n) _
    | close => exact Fetch.gives_of_none (Fetch.close_stream f g) _
  | openStream ranged =>
    obtain ⟨hmoved, hnone, htarget, -⟩ := Fetch.handOver_kept l hi hk hrefusing hf attached ranged
    change (FetchStep.run p attached f (.openStream ranged) g).1.stream = none at hnone
    refine ⟨⟨(f.handOver p attached ranged g).1.1.toList.map ContentStream.handle ++ loose, ?_⟩,
      fun s hs => ?_, htarget, Fetch.gives_of_none hnone _⟩
    · rw [Fetch.handles, hnone]
      exact hmoved
    · rw [hnone] at hs
      exact absurd hs (by simp)

/-- **A whole history** changes what a fetch reads from only in the access. -/
theorem FetchStep.runAll_gives (hg : f.Gives p attached g.engine mode) (sts : List FetchStep) :
    Fetch.Used held p attached f g (sts.foldl modeAfter mode)
      (FetchStep.runAll p attached f sts g).1
      (FetchStep.runAll p attached f sts g).2 := by
  -- the induction is on the uses; streams taken out stay in hand
  induction sts generalizing f g loose mode with
  | nil => exact ⟨⟨loose, .refl l⟩, hf, .refl f, hg⟩
  | cons st sts ih =>
    have hone := FetchStep.run_gives l hi hk hcalm hf hg st
    obtain ⟨loose', hmoved⟩ := hone.moved
    have hrest := ih hmoved.ledger (hmoved.calm hcalm) hone.ready hone.gives
    obtain ⟨loose'', hmoved'⟩ := hrest.moved
    exact ⟨⟨loose'', hmoved.trans hmoved'⟩, hrest.ready, hone.target.trans hrest.target,
      hrest.gives⟩

end Steps

/-! ## §4. Fetches of a host. -/

/-- The bytes that a fetch read, if reading is what it was asked for. -/
def Answer.fetched? : Answer → Option (Option ByteArray)
  | .fetchReply (.bytes b) _ => some b
  | _ => none

namespace Host

/-- **Fetches do not depend on what they were used for**, but for one access.
In whatever way a host came to a package that is open, as is its container,
and whatever a fetch of the package was used for: reading everything answers
as a new fetch does, and so does reading a range, unless the fetch holds a
stream over filtered content that was not opened for ranges, which refuses
every range that has a byte.  A new fetch answers with the bytes of the
resource, up to the cap, and with the range of them; there is no answer if
there is no resource. -/
theorem fetch_answers_after_history (cs : List Command) (k : PackageId) (p : Package)
    (path : String) (raw : Bool) (history : List FetchStep) (offset n : UInt64)
    (hc : ∀ c ∈ cs, c.isDirect = false) (hp : (after cs fresh).packages.get? k = some p)
    (hopen : p.isClosed = false) (hattached : (after cs fresh).isAttached p = true)
    (hcalm : (after cs fresh).gateway.faults = .none) :
    let w := after cs fresh
    let new := Fetch.start k path raw
    let used := FetchStep.runAll p (w.isAttached p) new history w.gateway
    let content := w.gateway.engine.resource? p.handle.handle path
    (used.1.readAll p (w.isAttached p) used.2).1.1 = (new.readAll p (w.isAttached p) used.2).1.1
      ∧ (used.1.readRange p (w.isAttached p) offset n used.2).1.1
          = content.bind (fun r =>
              if offset.toNat < min (offset.toNat + n.toNat) r.contents.size
                  ∧ FetchStep.heldMode history = some false ∧ raw = false
                  ∧ r.filtered = true then none
              else (new.readRange p (w.isAttached p) offset n used.2).1.1)
      ∧ (new.readAll p (w.isAttached p) used.2).1.1
          = content.map (fun r =>
              r.contents.bytes.extract 0 (min p.maxReadAll.toNat r.contents.size))
      ∧ (new.readRange p (w.isAttached p) offset n used.2).1.1
          = content.map (fun r =>
              r.contents.bytes.extract offset.toNat
                (min (offset.toNat + n.toNat) r.contents.size)) := by
  intro w
  rw [show w.isAttached p = true from hattached]
  intro new used content
  have hsound := sound_after cs hc
  obtain ⟨hheld, hkind⟩ := hsound.held_package hp
  have hledger : Ledger w.gateway.engine w.held (new.handles ++ []) := hsound.ledger
  have hnew : ∀ e, new.Ready True e := fun _ s hs => absurd hs (by simp [new, Fetch.start])
  have hgives : new.Gives p true w.gateway.engine none := Fetch.start_gives k path raw _
  have hused := FetchStep.runAll_gives hledger hheld hkind hcalm (hnew _) hgives history
  obtain ⟨loose, hmoved⟩ := hused.moved
  have hcalm' : used.2.faults = .none := hmoved.calm hcalm
  have hledger' : Ledger used.2.engine w.held (used.1.handles ++ loose) := hmoved.ledger
  have hledger'' : Ledger used.2.engine w.held (new.handles ++ (used.1.handles ++ loose)) :=
    hledger'
  -- the package serves the same as before the history
  have hserves : ∀ ranged, p.source? true used.2.engine path raw ranged
      = content.map fun r => r.cursor raw ranged := by
    intro ranged
    rw [hmoved.frame.source? hheld]
    unfold Package.source?
    rw [hopen]
    rfl
  have hserves' : ∀ ranged, p.source? true used.2.engine used.1.path used.1.raw ranged
      = content.map fun r => r.cursor used.1.raw ranged := by
    intro ranged
    rw [show used.1.path = path from hused.target.path, show used.1.raw = raw from hused.target.raw]
    exact hserves ranged
  obtain ⟨hall, hrange⟩ :=
    Fetch.answers hledger' hheld hkind hcalm' hused.ready hused.gives hserves' offset n
  obtain ⟨hall', hrange'⟩ := Fetch.answers hledger'' hheld hkind hcalm' (hnew _)
    (Fetch.start_gives k path raw _) hserves offset n
  have hfull : (new.readRange p true offset n used.2).1.1 = content.map fun r =>
      r.contents.bytes.extract offset.toNat (min (offset.toNat + n.toNat) r.contents.size) := by
    rw [hrange']
    cases content <;> simp
  refine ⟨hall.trans hall'.symm, ?_, hall', hfull⟩
  rw [hrange, hfull, show used.1.raw = raw from hused.target.raw]
  cases content with
  | none => rfl
  | some r => rfl

/-- A history of every kind of use, which ends with a stream held for ranges. -/
def sampleHistory : List FetchStep :=
  [.op (.ensureStream false), .openStream true, .op .readAll, .op (.readRange 0 2), .op .close,
    .op (.ensureStream true)]

theorem fetch_answers_after_history_sample :
    ∃ p, (after samplePreparation fresh).packages.get? 0 = some p ∧ p.isClosed = false
      ∧ (after samplePreparation fresh).isAttached p = true
      ∧ (let w := after samplePreparation fresh
         let used :=
           FetchStep.runAll p (w.isAttached p) (.start 0 "text" false) sampleHistory w.gateway
         (used.1.readAll p (w.isAttached p) used.2).1.1 = some ⟨#[97, 98, 99]⟩) := by
  have hsome : ((after samplePreparation fresh).packages.get? 0).isSome = true := by decide +kernel
  obtain ⟨p, hp⟩ := Option.isSome_iff_exists.mp hsome
  have hfacts : ((after samplePreparation fresh).packages.get? 0).map (fun p =>
      (p.isClosed, (after samplePreparation fresh).isAttached p,
        ((after samplePreparation fresh).gateway.engine.resource? p.handle.handle "text").map
          fun r => r.contents.bytes.extract 0 (min p.maxReadAll.toNat r.contents.size)))
      = some (false, true, some ⟨#[97, 98, 99]⟩) := by decide +kernel
  rw [hp, Option.map_some, Option.some.injEq, Prod.mk.injEq, Prod.mk.injEq] at hfacts
  obtain ⟨hopen, hattached, hcontent⟩ := hfacts
  have hcalm : (after samplePreparation fresh).gateway.faults = .none :=
    (sound_of_calm (by decide) (.fresh True)).calm trivial
  have h := fetch_answers_after_history samplePreparation 0 p "text" false sampleHistory 0 2
    (by decide) hp hopen hattached hcalm
  exact ⟨p, hp, hopen, hattached, h.1.trans (h.2.2.1.trans hcontent)⟩

/-- A fetch that holds a stream which was not opened for ranges. -/
def sampleHeld : List Command :=
  samplePreparation ++ [.fetchResource "package" "text" false "held",
    .fetch "held" (.ensureStream false), .fetchResource "package" "text" false "new"]

/-- What was held shows: the same range of the same resource is refused to the
fetch that holds a stream and read by a new one. -/
theorem held_stream_refuses_range :
    (run (.fetch "held" (.readRange 0 2)) (after sampleHeld fresh)).1.fetched? = some none
      ∧ (run (.fetch "new" (.readRange 0 2)) (after sampleHeld fresh)).1.fetched?
          = some (some ⟨#[97, 98]⟩) := by
  decide +kernel

end Host

end EpubAccess
