/-
  EpubAccess.Proofs.Ownership.Fetches
  ────────────────────────────────
  Fetches and the handles that they hold.

  A fetch holds at most one stream, which is open and stands at the start of
  its bytes (`Fetch.Ready`).  Every operation of a fetch keeps this, and the
  balance of handles with what the fetch holds in hand (`Fetch.run_kept`,
  `Fetch.handOver_kept`).
-/
import EpubAccess.Proofs.Ownership.Opening

namespace EpubAccess

open Stateful

/-! ## §1. Streams at the start. -/

/-- An open stream at the start of its bytes, as is the engine's cursor.  In a
`calm` run the declared length is the number of the bytes. -/
structure ContentStream.AtStart (calm : Prop) (e : Engine) (s : ContentStream) : Prop where
  handle : s.handle = .take s.handle.handle .stream
  position : s.position = 0
  mark : s.mark = 0
  cursor : ∃ c, e.live[s.handle.handle]? = some (.stream c) ∧ c.position = 0 ∧ c.mark = 0
    ∧ (calm → s.length = UInt64.ofNat c.remaining)

/-- A cursor that an opening starts from is at the start. -/
theorem Package.source?_start {p : Package} {attached : Bool} {e : Engine} {path : String}
    {raw ranged : Bool} {c : Cursor} (h : p.source? attached e path raw ranged = some c) :
    c.position = 0 ∧ c.mark = 0 := by
  unfold Package.source? at h
  split at h
  · obtain ⟨r, -, rfl⟩ := Option.map_eq_some_iff.mp h
    exact ⟨rfl, rfl⟩
  · exact absurd h (by simp)

/-- What was just opened is at the start. -/
theorem Opened.atStart {ι : Type} {held : ι → Option OwnedHandle} {loose : List OwnedHandle}
    {found : Option Cursor} {cap : UInt64} {g g' : Gateway} {s : ContentStream} {calm : Prop}
    (h : Opened held loose found cap g (some s) g') (hcalm : calm → g.faults.Refusing)
    (hfound : ∀ c, found = some c → c.position = 0 ∧ c.mark = 0) : s.AtStart calm g'.engine := by
  obtain ⟨c, hc, hl, hh, hp, hm, -, hlen⟩ := h.start s rfl
  exact ⟨hh, hp, hm, c, hl, (hfound c hc).1, (hfound c hc).2, fun hcl => hlen (hcalm hcl)⟩

namespace Fetch

/-- A fetch of the same resource of the same package, past the filters or not. -/
structure SameTarget (f f' : Fetch) : Prop where
  package : f'.package = f.package
  path : f'.path = f.path
  raw : f'.raw = f.raw

theorem SameTarget.refl (f : Fetch) : f.SameTarget f := ⟨rfl, rfl, rfl⟩

theorem SameTarget.trans {f f' f'' : Fetch} (h : f.SameTarget f') (h' : f'.SameTarget f'') :
    f.SameTarget f'' :=
  ⟨h'.package.trans h.package, h'.path.trans h.path, h'.raw.trans h.raw⟩

/-- The handle of the stream that is held, if any. -/
def handles (f : Fetch) : List OwnedHandle := f.stream.toList.map ContentStream.handle

/-- The stream that is held, if any, is open and at its start. -/
def Ready (calm : Prop) (e : Engine) (f : Fetch) : Prop :=
  ∀ s, f.stream = some s → s.AtStart calm e

section Operations

variable {ι : Type} {held : ι → Option OwnedHandle} {loose : List OwnedHandle} {g : Gateway}
  {calm : Prop} {f : Fetch} {p : Package} {i : ι}

open Gateway

/-- Work ended with the fetch `f'`, which is ready and for the same resource. -/
structure Kept (held : ι → Option OwnedHandle) (loose : List OwnedHandle) (calm : Prop)
    (f : Fetch) (g : Gateway) (f' : Fetch) (g' : Gateway) : Prop where
  moved : Moved held (f'.handles ++ loose) g g'
  ready : f'.Ready calm g'.engine
  target : f.SameTarget f'

theorem Kept.trans {f' f'' : Fetch} {g' g'' : Gateway} (h : Kept held loose calm f g f' g')
    (h' : Kept held loose calm f' g' f'' g'') : Kept held loose calm f g f'' g'' :=
  ⟨h.moved.trans h'.moved, h'.ready, h.target.trans h'.target⟩

/-- Only the log of events may differ. -/
theorem Kept.congr {f' : Fetch} {g' g'' : Gateway} (h : Kept held loose calm f g f' g')
    (he : g''.engine = g'.engine) (hf : g''.faults = g'.faults) :
    Kept held loose calm f g f' g'' :=
  ⟨h.moved.congr he hf, he ▸ h.ready, h.target⟩

theorem close_stream (f : Fetch) (g : Gateway) : (f.close g).1.stream = none := by
  unfold Fetch.close
  cases hs : f.stream with
  | none => exact hs
  | some s => rfl

/-- Closing the stream that is held, wherever it stands. -/
theorem close_kept (calm : Prop) (l : Ledger g.engine held (f.handles ++ loose))
    (hk : ∀ s, f.stream = some s → s.handle.kind = .stream) :
    Kept held loose calm f g (f.close g).1 (f.close g).2 := by
  have hstream := f.close_stream g
  have hmoved : Moved held loose g (f.close g).2 ∧ f.SameTarget (f.close g).1 := by
    unfold handles at l
    unfold Fetch.close
    cases hs : f.stream with
    | none =>
      rw [hs] at l
      exact ⟨.refl l, .refl f⟩
    | some s =>
      rw [hs] at l
      exact ⟨ContentStream.close_moved l (hk s hs), rfl, rfl, rfl⟩
  refine ⟨by simpa [handles, hstream] using hmoved.1, fun s h => ?_, hmoved.2⟩
  rw [hstream] at h
  exact absurd h (by simp)

/-- What ensuring a stream leads to. -/
structure Ensured (held : ι → Option OwnedHandle) (loose : List OwnedHandle) (calm : Prop)
    (f : Fetch) (g : Gateway) (r : Except AccessError ContentStream) (f' : Fetch) (g' : Gateway) :
    Prop extends Kept held loose calm f g f' g' where
  held : ∀ s, r = .ok s → f'.stream = some s
  absent : ∀ e, r = .error e → f'.stream = none

/-- Nothing was opened: the fetch is as it was. -/
theorem Ensured.unavailable {found : Option Cursor} {cap : UInt64} {g' : Gateway}
    (hs : f.stream = none) (ho : Opened held loose found cap g none g') (e : AccessError) :
    Ensured held loose calm f g (.error e) f g' := by
  refine ⟨⟨by simpa [handles, hs] using ho.moved, fun s h => ?_, .refl f⟩,
    fun s h => absurd h (by simp), fun _ _ => hs⟩
  rw [hs] at h
  exact absurd h (by simp)

/-- A stream was opened: the fetch holds it. -/
theorem Ensured.available {found : Option Cursor} {cap : UInt64} {g' : Gateway} {s : ContentStream}
    (hcalm : calm → g.faults.Refusing) (ho : Opened held loose found cap g (some s) g')
    (hstart : ∀ c, found = some c → c.position = 0 ∧ c.mark = 0) :
    Ensured held loose calm f g (.ok s)
      { f with stream := some s, contentLength := some s.length } g' := by
  refine ⟨⟨by simpa [handles] using ho.moved, ?_, ⟨rfl, rfl, rfl⟩⟩, ?_,
    fun e h => absurd h (by simp)⟩
  · rintro s' ⟨⟩
    exact ho.atStart hcalm hstart
  · rintro s' ⟨⟩
    rfl

/-- The opening that a fetch asks for, past the filters or not. -/
theorem opening_opened (f : Fetch) (l : Ledger g.engine held loose) (hi : held i = some p.handle)
    (hk : p.handle.kind = .package) (attached ranged : Bool) :
    Opened held loose (p.source? attached g.engine f.path f.raw ranged) p.maxReadAll g
      (f.opening p attached ranged g).1 (f.opening p attached ranged g).2 := by
  unfold opening
  cases f.raw with
  | true => exact Package.openRawStream_opened l hi hk attached f.path ranged
  | false => exact Package.openStream_opened l hi hk attached f.path ranged

theorem ensureStream_ensured (l : Ledger g.engine held (f.handles ++ loose))
    (hi : held i = some p.handle) (hk : p.handle.kind = .package)
    (hcalm : calm → g.faults.Refusing) (hf : f.Ready calm g.engine) (attached ranged : Bool) :
    Ensured held loose calm f g (f.ensureStream p attached ranged g).1.1
      (f.ensureStream p attached ranged g).1.2 (f.ensureStream p attached ranged g).2 := by
  cases hs : f.stream with
  | some s =>
    rw [ensureStream_of_some hs]
    refine ⟨⟨.refl l, hf, .refl f⟩, ?_, fun e h => absurd h (by simp)⟩
    rintro s' ⟨⟩
    exact hs
  | none =>
    have hl : Ledger g.engine held loose := by
      simpa [handles, hs] using l
    cases hp : p.isClosed with
    | true =>
      rw [ensureStream_of_closed hs hp]
      exact ⟨⟨.refl l, hf, .refl f⟩, fun s h => absurd h (by simp), fun _ _ => hs⟩
    | false =>
      have ho := f.opening_opened hl hi hk attached ranged
      rw [ensureStream_of_none hs hp, map_apply]
      generalize f.opening p attached ranged g = r at ho ⊢
      obtain ⟨_ | s, g'⟩ := r
      · exact .unavailable hs ho _
      · exact .available hcalm ho fun c hc => Package.source?_start hc

/-- A stream that is held is used, and then closed. -/
theorem use_close_kept (calm : Prop) {s : ContentStream} {α : Type}
    {m : StateM Gateway (α × ContentStream)}
    (hm : s.Local m) (l : Ledger g.engine held (f.handles ++ loose)) (hs : f.stream = some s)
    (hk : s.handle.kind = .stream) {g' : Gateway} (he : g'.engine = (m g).2.engine)
    (hf : g'.faults = (m g).2.faults) :
    Kept held loose calm f g (({ f with stream := some (m g).1.2 } : Fetch).close g').1
      (({ f with stream := some (m g).1.2 } : Fetch).close g').2 := by
  have hl : Ledger g.engine held (s.handle :: loose) := by
    simpa [handles, hs] using l
  obtain ⟨hmoved, hsame⟩ := hm.moved hl hk
  have hl' : Ledger g'.engine held
      (({ f with stream := some (m g).1.2 } : Fetch).handles ++ loose) := by
    rw [he]
    simpa [handles, hsame.handle] using hmoved.ledger
  have hclose := close_kept calm hl' (by rintro s' ⟨⟩; rw [hsame.handle, hk])
  have hquiet : Moved held (s.handle :: loose) g g' := hmoved.congr he hf
  have htarget : f.SameTarget { f with stream := some (m g).1.2 } := ⟨rfl, rfl, rfl⟩
  exact ⟨hquiet.trans hclose.moved, hclose.ready, htarget.trans hclose.target⟩

variable (l : Ledger g.engine held (f.handles ++ loose)) (hi : held i = some p.handle)
  (hk : p.handle.kind = .package) (hcalm : calm → g.faults.Refusing) (hf : f.Ready calm g.engine)
  (attached : Bool)

include l hi hk hcalm hf

theorem readAll_kept :
    Kept held loose calm f g (f.readAll p attached g).1.2 (f.readAll p attached g).2 := by
  have he := ensureStream_ensured l hi hk hcalm hf attached false
  unfold Fetch.readAll
  simp only [bind_apply]
  rcases hr : f.ensureStream p attached false g with ⟨⟨r, f1⟩, g1⟩
  rw [hr] at he
  cases r with
  | error e => exact he.toKept.congr rfl rfl
  | ok s =>
    have hs := he.held s rfl
    have hkind : s.handle.kind = .stream := by rw [(he.ready s hs).handle]; rfl
    exact he.toKept.trans (use_close_kept calm s.readAll_local he.moved.ledger hs hkind rfl rfl)

theorem readRange_kept (offset n : UInt64) :
    Kept held loose calm f g (f.readRange p attached offset n g).1.2
      (f.readRange p attached offset n g).2 := by
  have he := ensureStream_ensured l hi hk hcalm hf attached true
  unfold Fetch.readRange
  simp only [bind_apply]
  rcases hr : f.ensureStream p attached true g with ⟨⟨r, f1⟩, g1⟩
  rw [hr] at he
  cases r with
  | error e => exact he.toKept.congr rfl rfl
  | ok s =>
    have hs := he.held s rfl
    have hkind : s.handle.kind = .stream := by rw [(he.ready s hs).handle]; rfl
    dsimp only
    split
    · have hclose := close_kept calm he.moved.ledger fun s' hs' => by
        rw [hs, Option.some.injEq] at hs'
        rw [← hs', hkind]
      exact he.toKept.trans hclose
    · have huse := fun g' => @use_close_kept _ _ _ _ f1 calm _ _ _ (s.readRange_local offset n)
        he.moved.ledger hs hkind g'
      simp only [bind_apply]
      rcases hread : s.readRange offset n g1 with ⟨⟨r, s'⟩, g2⟩
      rw [hread] at huse
      cases r with
      | error e => exact he.toKept.trans (huse _ rfl rfl)
      | ok b => exact he.toKept.trans (huse _ rfl rfl)

/-- **Every operation of a fetch keeps it ready and the balance.** -/
theorem run_kept (op : FetchOp) :
    Kept held loose calm f g (op.run f p attached g).1.2 (op.run f p attached g).2 := by
  cases op with
  | ensureStream ranged =>
    have he := (ensureStream_ensured l hi hk hcalm hf attached ranged).toKept
    simp only [FetchOp.run, bind_apply]
    rcases hr : f.ensureStream p attached ranged g with ⟨⟨r, f1⟩, g1⟩
    rw [hr] at he
    cases r <;> exact he
  | readAll => exact readAll_kept l hi hk hcalm hf attached
  | readRange offset n => exact readRange_kept l hi hk hcalm hf attached offset n
  | close =>
    refine close_kept calm l fun s hs => ?_
    rw [(hf s hs).handle]
    rfl

/-- **Handing over** leaves no stream with the fetch and one in hand, if any. -/
theorem handOver_kept (ranged : Bool) :
    Moved held ((f.handOver p attached ranged g).1.1.toList.map ContentStream.handle ++ loose) g
        (f.handOver p attached ranged g).2
      ∧ (f.handOver p attached ranged g).1.2.stream = none
      ∧ f.SameTarget (f.handOver p attached ranged g).1.2
      ∧ ∀ s, (f.handOver p attached ranged g).1.1 = some s →
          s.AtStart calm (f.handOver p attached ranged g).2.engine := by
  have he := ensureStream_ensured l hi hk hcalm hf attached ranged
  unfold Fetch.handOver
  simp only [bind_apply]
  rcases hr : f.ensureStream p attached ranged g with ⟨⟨r, f1⟩, g1⟩
  rw [hr] at he
  cases r with
  | error e =>
    have hnone : f1.stream = none := he.absent e rfl
    have hmoved : Moved held loose g g1 := by simpa [handles, hnone] using he.moved
    exact ⟨hmoved.congr rfl rfl, hnone, he.target,
      fun s h => absurd (show none = some s from h) (by simp)⟩
  | ok s =>
    have hs : f1.stream = some s := he.held s rfl
    have hmoved : Moved held (s.handle :: loose) g g1 := by simpa [handles, hs] using he.moved
    refine ⟨hmoved, rfl, he.target.trans ⟨rfl, rfl, rfl⟩, ?_⟩
    rintro s' ⟨⟩
    exact he.ready s hs

end Operations

end Fetch

end EpubAccess
