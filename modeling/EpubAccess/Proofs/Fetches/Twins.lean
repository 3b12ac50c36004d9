/-
  EpubAccess.Proofs.Fetches.Twins
  ────────────────────────────────
  Two fetches that differ in nothing but the numbers of handles.

  `Package.KnownAlike` says of two gateways that both engines know an open package
  as the same package of the same archive.  What it opens in one is then the
  twin of what it opens in the other, under whatever handle
  (`Package.openStream_twins`, `Package.openRawStream_twins`).

  `Fetch.Twins` relates two fetches of one resource that hold no stream, or
  twins.  They give equal answers and stay twins (`Fetch.run_twins`), and
  hand over twins (`Fetch.handOver_twins`).
-/
import EpubAccess.Proofs.Ownership.Fetches
import EpubAccess.Proofs.Slots
import EpubAccess.Proofs.Streams.Twins

namespace EpubAccess

open Stateful Gateway

/-! ## §1. Openings. -/

/-- The package is open, and both engines know it as the same package of the
same archive.  No fault waits. -/
structure Package.KnownAlike (p : Package) (g g' : Gateway) : Prop where
  calm : g.faults = .none
  calm' : g'.faults = .none
  isOpen : p.isClosed = false
  serves : g.Serves .package (some p.handle.handle)
  serves' : g'.Serves .package (some p.handle.handle)
  resource : ∀ path, g'.engine.resource? p.handle.handle path
    = g.engine.resource? p.handle.handle path

theorem Package.KnownAlike.symm {p : Package} {g g' : Gateway} (h : p.KnownAlike g g') :
    p.KnownAlike g' g :=
  ⟨h.calm', h.calm, h.isOpen, h.serves', h.serves, fun path => (h.resource path).symm⟩

/-- Two openings ended with twins, or with nothing. -/
structure OpenedTwins (g : Gateway) (r : Option ContentStream) (g' : Gateway)
    (r' : Option ContentStream) : Prop where
  calm : g.faults = .none
  calm' : g'.faults = .none
  streams : Option.Rel (fun s s' => ContentStream.Twins g s g' s') r r'

section Openings

variable {g g' : Gateway} {h : Handle} {kind : HandleKind} {found : Engine → Option Cursor}

/-- Without faults an opening gives a handle with the cursor that is found, if any. -/
theorem Gateway.Issues.gives {m : StateM Gateway (Option Handle)} (hm : Issues kind h found m)
    (hs : g.Serves kind (some h)) (hcalm : g.faults = .none) :
    (m g).2.faults = .none
      ∧ (match found g.engine with
        | none => (m g).1 = none
        | some c => ∃ x, (m g).1 = some x ∧ (m g).2.engine.live[x]? = some (.stream c)) := by
  rcases hm g hs with ⟨hnone, huses, hfound⟩ | ⟨c, g1, hc, huses, hrun⟩
  · rw [hfound hcalm]
    exact ⟨huses.calm hcalm, hnone⟩
  · rw [hc, hrun]
    refine ⟨huses.calm hcalm, (g1.engine.allocate (.stream c)).1, rfl, ?_⟩
    simp [Engine.allocate]

/-- Streams over equal cursors are twins from the start. -/
theorem ContentStream.ofHandle_twins {x x' : Handle} {c : Cursor} (path : String) (cap : UInt64)
    (hcalm : g.faults = .none) (hcalm' : g'.faults = .none)
    (hl : g.engine.live[x]? = some (.stream c)) (hl' : g'.engine.live[x']? = some (.stream c)) :
    ContentStream.Twins (ofHandle x path cap g).2 (ofHandle x path cap g).1
      (ofHandle x' path cap g').2 (ofHandle x' path cap g').1 := by
  obtain ⟨ha, hcur, hf⟩ := available_works (h := x) g c hcalm hl
  obtain ⟨ha', hcur', hf'⟩ := available_works (h := x') g' c hcalm' hl'
  refine ⟨hf, hf', ?_, fun _ => ⟨c, hcur, hcur'⟩⟩
  have hlength : (Gateway.available x' g').1 = (Gateway.available x g).1 := ha'.trans ha.symm
  let make (x : Handle) (n : UInt64) : ContentStream :=
    { handle := .take x .stream, path, length := n, position := 0, mark := 0, maxReadAll := cap }
  show (make x' (Gateway.available x' g').1).nameless = (make x (Gateway.available x g).1).nameless
  rw [hlength]
  rfl

/-- What was opened over equal cursors is a pair of twins. -/
theorem Package.streamOver_twins (p : Package) (path : String)
    {m m' : StateM Gateway (Option Handle)}
    (hm : Issues kind h found m) (hm' : Issues kind h found m')
    (hs : g.Serves kind (some h)) (hs' : g'.Serves kind (some h)) (hcalm : g.faults = .none)
    (hcalm' : g'.faults = .none) (hfound : found g'.engine = found g.engine) :
    OpenedTwins ((m >>= p.streamOver path) g).2 ((m >>= p.streamOver path) g).1
      ((m' >>= p.streamOver path) g').2 ((m' >>= p.streamOver path) g').1 := by
  obtain ⟨hf, hgives⟩ := hm.gives hs hcalm
  obtain ⟨hf', hgives'⟩ := hm'.gives hs' hcalm'
  rw [hfound] at hgives'
  rw [bind_apply, bind_apply]
  cases hc : found g.engine with
  | none =>
    rw [hc] at hgives hgives'
    rw [hgives, hgives']
    exact ⟨hf, hf', .none⟩
  | some c =>
    rw [hc] at hgives hgives'
    obtain ⟨x, hx, hl⟩ := hgives
    obtain ⟨x', hx', hl'⟩ := hgives'
    rw [hx, hx']
    have htwins := ContentStream.ofHandle_twins path p.maxReadAll hf hf' hl hl'
    exact ⟨htwins.calm, htwins.calm', .some htwins⟩

variable {p : Package}

/-- What an open package does once its container was looked for. -/
theorem Package.reach_twins (ha : p.KnownAlike g g') (access : PackageAccess) (attached : Bool)
    (path : String) {m m' : StateM Gateway (Option Handle)}
    (hm : Issues .package p.handle.handle found m) (hm' : Issues .package p.handle.handle found m')
    (hfound : found g'.engine = found g.engine)
    {f f' : Option Handle → StateM Gateway (Option ContentStream)}
    (hf : f (some p.handle.handle) = do
      if ← reach attached path then m >>= p.streamOver path else pure none)
    (hf' : f' (some p.handle.handle) = do
      if ← reach attached path then m' >>= p.streamOver path else pure none) :
    OpenedTwins ((p.live access >>= f) g).2 ((p.live access >>= f) g).1
      ((p.live access >>= f') g').2 ((p.live access >>= f') g').1 := by
  rw [Package.live_bind_of_open ha.isOpen, Package.live_bind_of_open ha.isOpen, hf, hf']
  cases attached with
  | false => exact ⟨ha.calm, ha.calm', .none⟩
  | true => exact p.streamOver_twins path hm hm' ha.serves ha.serves' ha.calm ha.calm' hfound

theorem Package.openStream_twins (ha : p.KnownAlike g g') (attached : Bool) (path : String)
    (ranged : Bool) :
    OpenedTwins (p.openStream attached path ranged g).2 (p.openStream attached path ranged g).1
      (p.openStream attached path ranged g').2 (p.openStream attached path ranged g').1 := by
  have hissues := openStream_issues (h := p.handle.handle) path p.bufferSizeHint ranged
  refine Package.reach_twins ha .openStream attached path hissues hissues ?_ rfl rfl
  rw [ha.resource]

theorem Package.openRawStream_twins (ha : p.KnownAlike g g') (attached : Bool) (path : String) :
    OpenedTwins (p.openRawStream attached path g).2 (p.openRawStream attached path g).1
      (p.openRawStream attached path g').2 (p.openRawStream attached path g').1 := by
  have hissues := openRawStream_issues (h := p.handle.handle) path p.bufferSizeHint false
  refine Package.reach_twins ha .openRawStream attached path hissues hissues ?_ rfl rfl
  rw [ha.resource]

end Openings

/-! ## §2. Fetches. -/

namespace Fetch

/-- The fetch with the number of the handle that it holds left out. -/
def nameless (f : Fetch) : Fetch := { f with stream := f.stream.map ContentStream.nameless }

/-- Two fetches of one resource that hold no stream, or twins. -/
structure Twins (g : Gateway) (f : Fetch) (g' : Gateway) (f' : Fetch) : Prop where
  calm : g.faults = .none
  calm' : g'.faults = .none
  target : f.SameTarget f'
  length : f'.contentLength = f.contentLength
  streams : Option.Rel (fun s s' => ContentStream.Twins g s g' s') f.stream f'.stream

variable {g g' : Gateway} {f f' : Fetch} {p : Package}

namespace Twins

theorem nameless (h : Twins g f g' f') : f'.nameless = f.nameless := by
  obtain ⟨-, -, ⟨hpackage, hpath, hraw⟩, hlength, hstreams⟩ := h
  cases f
  cases f'
  simp only at hpackage hpath hraw hlength hstreams
  subst hpackage hpath hraw hlength
  cases hstreams with
  | none => rfl
  | some hs =>
    unfold Fetch.nameless
    rw [Option.map_some, Option.map_some, hs.same]

/-- Both hold a stream, or neither does. -/
theorem held (h : Twins g f g' f') : f.stream = none ∧ f'.stream = none
    ∨ ∃ s s', f.stream = some s ∧ f'.stream = some s' ∧ ContentStream.Twins g s g' s' := by
  have hstreams := h.streams
  generalize f.stream = r at hstreams ⊢
  generalize f'.stream = r' at hstreams ⊢
  cases hstreams with
  | none => exact .inl ⟨rfl, rfl⟩
  | some htwins => exact .inr ⟨_, _, rfl, rfl, htwins⟩

theorem symm (h : Twins g f g' f') : Twins g' f' g f := by
  refine ⟨h.calm', h.calm, ⟨h.target.package.symm, h.target.path.symm, h.target.raw.symm⟩,
    h.length.symm, ?_⟩
  rcases h.held with ⟨hs, hs'⟩ | ⟨s, s', hs, hs', htwins⟩
  · rw [hs, hs']
    exact .none
  · rw [hs, hs']
    exact .some htwins.symm

/-- The twin of a stream that is held. -/
theorem of_held (h : Twins g f g' f') {s : ContentStream} (hs : f.stream = some s) :
    ∃ s', f'.stream = some s' ∧ ContentStream.Twins g s g' s' := by
  rcases h.held with ⟨hnone, -⟩ | ⟨s₀, s', hs₀, hs', htwins⟩
  · exact absurd (hnone.symm.trans hs) (by simp)
  · obtain rfl : s₀ = s := Option.some.inj (hs₀.symm.trans hs)
    exact ⟨s', hs', htwins⟩

/-- Both hold nothing. -/
theorem without (h : Twins g f g' f') {g₁ g₁' : Gateway} (hf : g₁.faults = .none)
    (hf' : g₁'.faults = .none) :
    Twins g₁ { f with stream := none } g₁' { f' with stream := none } :=
  ⟨hf, hf', ⟨h.target.package, h.target.path, h.target.raw⟩, h.length, .none⟩

/-- Both hold the streams that are given. -/
theorem holding (h : Twins g f g' f') {g₁ g₁' : Gateway} {s s' : ContentStream}
    (hs : ContentStream.Twins g₁ s g₁' s') :
    Twins g₁ { f with stream := some s } g₁' { f' with stream := some s' } :=
  ⟨hs.calm, hs.calm', ⟨h.target.package, h.target.path, h.target.raw⟩, h.length, .some hs⟩

/-- Twins stay twins where their gateways leave their streams alone. -/
theorem congr (h : Twins g f g' f') {g₁ g₁' : Gateway} (hf : g₁.faults = .none)
    (hf' : g₁'.faults = .none)
    (hl : ∀ x, f.openHandle? = some x → g₁.engine.live[x]? = g.engine.live[x]?)
    (hl' : ∀ x, f'.openHandle? = some x → g₁'.engine.live[x]? = g'.engine.live[x]?) :
    Twins g₁ f g₁' f' := by
  refine ⟨hf, hf', h.target, h.length, ?_⟩
  rcases h.held with ⟨hs, hs'⟩ | ⟨s, s', hs, hs', htwins⟩
  · rw [hs, hs']
    exact .none
  · rw [openHandle?_of_some hs] at hl
    rw [openHandle?_of_some hs'] at hl'
    rw [hs, hs']
    exact .some (htwins.congr hf hf' hl hl')

theorem emit (h : Twins g f g' f') (e e' : Event) :
    Twins (Gateway.emit e g).2 f (Gateway.emit e' g').2 f' :=
  h.congr h.calm h.calm' (fun _ _ => rfl) fun _ _ => rfl

end Twins

/-! ## §3. Uses of a fetch. -/

/-- Closing the streams that are held, if any. -/
theorem close_twins (h : Twins g f g' f') :
    Twins (f.close g).2 (f.close g).1 (f'.close g').2 (f'.close g').1 := by
  unfold Fetch.close
  rcases h.held with ⟨hs, hs'⟩ | ⟨s, s', hs, hs', htwins⟩
  · rw [hs, hs']
    exact h
  · rw [hs, hs']
    have hclosed := htwins.close.rest
    exact h.without hclosed.calm hclosed.calm'

/-- Ensuring a stream ended with equal errors and none held, or with twins that
are held. -/
inductive EnsuredTwins (g : Gateway) (f : Fetch) (g' : Gateway) (f' : Fetch) :
    Except AccessError ContentStream → Except AccessError ContentStream → Prop
  | error (e : AccessError) (hs : f.stream = none) : EnsuredTwins g f g' f' (.error e) (.error e)
  | ok {s s' : ContentStream} (hs : f.stream = some s) (hs' : f'.stream = some s')
      (h : ContentStream.Twins g s g' s') : EnsuredTwins g f g' f' (.ok s) (.ok s')

theorem Twins.opening_twins (h : Twins g f g' f') (ha : p.KnownAlike g g')
    (attached ranged : Bool) :
    OpenedTwins (f.opening p attached ranged g).2 (f.opening p attached ranged g).1
      (f'.opening p attached ranged g').2 (f'.opening p attached ranged g').1 := by
  unfold opening
  rw [h.target.raw, h.target.path]
  cases f.raw with
  | true => exact Package.openRawStream_twins ha attached f.path
  | false => exact Package.openStream_twins ha attached f.path ranged

/-- **An open package serves twins**: what both hold, or what both open now. -/
theorem ensureStream_twins (h : Twins g f g' f') (ha : p.KnownAlike g g') (attached ranged : Bool) :
    Twins (f.ensureStream p attached ranged g).2 (f.ensureStream p attached ranged g).1.2
        (f'.ensureStream p attached ranged g').2 (f'.ensureStream p attached ranged g').1.2
      ∧ EnsuredTwins (f.ensureStream p attached ranged g).2 (f.ensureStream p attached ranged g).1.2
        (f'.ensureStream p attached ranged g').2 (f'.ensureStream p attached ranged g').1.2
        (f.ensureStream p attached ranged g).1.1 (f'.ensureStream p attached ranged g').1.1 := by
  rcases h.held with ⟨hs, hs'⟩ | ⟨s, s', hs, hs', htwins⟩
  · have hopened := h.opening_twins ha attached ranged
    rw [ensureStream_of_none hs ha.isOpen, ensureStream_of_none hs' ha.isOpen, map_apply, map_apply]
    generalize f.opening p attached ranged g = r at hopened ⊢
    generalize f'.opening p attached ranged g' = r' at hopened ⊢
    obtain ⟨r, g1⟩ := r
    obtain ⟨r', g1'⟩ := r'
    obtain ⟨hcalm, hcalm', hrel⟩ := hopened
    dsimp only at hcalm hcalm' hrel ⊢
    cases hrel with
    | none =>
      refine ⟨⟨hcalm, hcalm', h.target, h.length, ?_⟩, ?_⟩
      · show Option.Rel _ f.stream f'.stream
        rw [hs, hs']
        exact .none
      · show EnsuredTwins _ _ _ _ (.error (.streamUnavailable f.path))
          (.error (.streamUnavailable f'.path))
        rw [h.target.path]
        exact .error _ hs
    | some htwins =>
      refine ⟨⟨hcalm, hcalm', ⟨h.target.package, h.target.path, h.target.raw⟩, ?_, .some htwins⟩,
        .ok rfl rfl htwins⟩
      obtain ⟨x, rfl⟩ := htwins.renamed
      rfl
  · rw [ensureStream_of_some hs, ensureStream_of_some hs']
    exact ⟨h, .ok hs hs' htwins⟩

/-- Work on what was ensured: both go on with twins, or both give up. -/
theorem ensured_bind {α β : Type} (h : Twins g f g' f') (ha : p.KnownAlike g g')
    (attached ranged : Bool) {R : Gateway → β → Gateway → β → Prop}
    {k k' : Except AccessError ContentStream × Fetch → StateM Gateway (α × β)}
    (herror : ∀ e g f g' f', Twins g f g' f' → Pairs R g (k (.error e, f)) g' (k' (.error e, f')))
    (hok : ∀ s s' g f g' f', Twins g f g' f' → ContentStream.Twins g s g' s' →
      Pairs R g (k (.ok s, f)) g' (k' (.ok s', f'))) :
    Pairs R g (f.ensureStream p attached ranged >>= k) g'
      (f'.ensureStream p attached ranged >>= k') := by
  obtain ⟨hfetch, hensured⟩ := ensureStream_twins h ha attached ranged
  suffices hpairs : Pairs R (f.ensureStream p attached ranged g).2
      (k (f.ensureStream p attached ranged g).1) (f'.ensureStream p attached ranged g').2
      (k' (f'.ensureStream p attached ranged g').1) from ⟨hpairs.answer, hpairs.rest⟩
  generalize f.ensureStream p attached ranged g = r at hfetch hensured ⊢
  generalize f'.ensureStream p attached ranged g' = r' at hfetch hensured ⊢
  obtain ⟨⟨r, f1⟩, g1⟩ := r
  obtain ⟨⟨r', f1'⟩, g1'⟩ := r'
  dsimp only at hfetch hensured ⊢
  cases hensured with
  | error e _ => exact herror e _ _ _ _ hfetch
  | ok hs hs' htwins => exact hok _ _ _ _ _ _ hfetch htwins

/-- An answer that is given after closing. -/
theorem close_bind {α : Type} (h : Twins g f g' f') (a : α) :
    Pairs Twins g (f.close >>= fun f => pure (a, f)) g' (f'.close >>= fun f => pure (a, f)) :=
  ⟨rfl, close_twins h⟩

/-- A report of a failure, the handle left out of it. -/
theorem emit_bind {α β : Type} {R : Gateway → β → Gateway → β → Prop} {e e' : Event}
    {m m' : StateM Gateway (α × β)} (h : Twins g f g' f')
    (hm : ∀ g g', Twins g f g' f' → Pairs R g m g' m') :
    Pairs R g (Gateway.emit e >>= fun _ => m) g' (Gateway.emit e' >>= fun _ => m') :=
  have hnext := hm _ _ (h.emit e e')
  ⟨hnext.answer, hnext.rest⟩

theorem readAll_twins (h : Twins g f g' f') (ha : p.KnownAlike g g') (attached : Bool) :
    Pairs Twins g (f.readAll p attached) g' (f'.readAll p attached) := by
  unfold Fetch.readAll
  refine ensured_bind h ha attached false (fun _ _ _ _ _ h => ?_) fun _ _ _ _ _ _ h hs => ?_
  · exact emit_bind h fun _ _ h => .pure h
  · exact hs.readAll.bind fun bytes _ _ _ _ hs => close_bind (h.holding hs) (some bytes)

theorem readRange_twins (h : Twins g f g' f') (ha : p.KnownAlike g g') (attached : Bool)
    (offset n : UInt64) :
    Pairs Twins g (f.readRange p attached offset n) g' (f'.readRange p attached offset n) := by
  unfold Fetch.readRange
  refine ensured_bind h ha attached true (fun _ _ _ _ _ h => ?_) fun _ _ _ _ _ _ h hs => ?_
  · exact emit_bind h fun _ _ h => .pure h
  · refine .ite (fun _ => close_bind h (some ByteArray.empty)) fun _ => ?_
    refine (hs.readRange offset n).bind fun r _ _ _ _ hs => ?_
    cases r with
    | ok bytes => exact close_bind (h.holding hs) (some bytes)
    | error e => exact emit_bind (h.holding hs) fun _ _ h => close_bind h none

/-- **Twins give equal answers to every operation** on an open package, and
stay twins. -/
theorem run_twins (h : Twins g f g' f') (ha : p.KnownAlike g g') (attached : Bool) (op : FetchOp) :
    Pairs Twins g (op.run f p attached) g' (op.run f' p attached) := by
  cases op with
  | ensureStream ranged =>
    exact ensured_bind h ha attached ranged (fun _ _ _ _ _ h => .pure h)
      fun _ _ _ _ _ _ h _ => .pure h
  | readAll => exact (readAll_twins h ha attached).bind fun _ _ _ _ _ h => .pure h
  | readRange offset n =>
    exact (readRange_twins h ha attached offset n).bind fun _ _ _ _ _ h => .pure h
  | close => exact close_bind h FetchReply.done

/-- What was handed over, if anything. -/
structure HandedTwins (g : Gateway) (r : Option ContentStream × Fetch) (g' : Gateway)
    (r' : Option ContentStream × Fetch) : Prop where
  fetch : Twins g r.2 g' r'.2
  streams : Option.Rel (fun s s' => ContentStream.Twins g s g' s') r.1 r'.1

theorem HandedTwins.of_handed {r r' : Option ContentStream × Fetch} (h : HandedTwins g r g' r') :
    r.1 = none ∧ r'.1 = none
      ∨ ∃ s s', r.1 = some s ∧ r'.1 = some s' ∧ ContentStream.Twins g s g' s' := by
  obtain ⟨-, hstreams⟩ := h
  generalize r.1 = o at hstreams ⊢
  generalize r'.1 = o' at hstreams ⊢
  cases hstreams with
  | none => exact .inl ⟨rfl, rfl⟩
  | some htwins => exact .inr ⟨_, _, rfl, rfl, htwins⟩

/-- **Handing over** gives twins. -/
theorem handOver_twins (h : Twins g f g' f') (ha : p.KnownAlike g g') (attached ranged : Bool) :
    HandedTwins (f.handOver p attached ranged g).2 (f.handOver p attached ranged g).1
      (f'.handOver p attached ranged g').2 (f'.handOver p attached ranged g').1 := by
  obtain ⟨hfetch, hensured⟩ := ensureStream_twins h ha attached ranged
  unfold Fetch.handOver
  rw [bind_apply, bind_apply]
  generalize f.ensureStream p attached ranged g = r at hfetch hensured ⊢
  generalize f'.ensureStream p attached ranged g' = r' at hfetch hensured ⊢
  obtain ⟨⟨r, f1⟩, g1⟩ := r
  obtain ⟨⟨r', f1'⟩, g1'⟩ := r'
  dsimp only at hfetch hensured ⊢
  cases hensured with
  | error e _ => exact ⟨hfetch.emit _ _, .none⟩
  | ok hs hs' htwins => exact ⟨hfetch.without hfetch.calm hfetch.calm', .some htwins⟩

end Fetch

end EpubAccess
