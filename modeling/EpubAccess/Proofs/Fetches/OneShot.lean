/-
  EpubAccess.Proofs.Fetches.OneShot
  ────────────────────────────────
  Reading in one request.

  A fetch that holds no stream opens one for a request, reads, and closes it
  before it answers; so does a container that is asked for the bytes of a
  file.  `Gateway.OneStream` says what such a request leaves behind: the calls
  in their order, one handle that was issued if there was something to open,
  and the same objects live as before.

  `Host.one_shot_fetch` says what is answered on the way, for every open
  package of an open container and every open container of a run, while no
  fault waits.
-/
import EpubAccess.Proofs.Engine.Calls
import EpubAccess.Proofs.Fetches.History
import EpubAccess.Proofs.Fetches.Moves

namespace EpubAccess

open Stateful Gateway

/-! ## §1. One stream. -/

/-- The number of some bytes is a word. -/
theorem Contents.toNat_size (d : Contents) : (UInt64.ofNat d.size).toNat = d.size :=
  UInt64.toNat_ofNat_of_lt' (Nat.lt_trans d.size_lt (by decide))

/-- The calls that read a range of some contents over the stream `h`: one for
what there is of the range, and none if there is nothing. -/
def Contents.rangeCalls (d : Contents) (offset n : UInt64) (h : Handle) : List Call :=
  if n = 0 ∨ d.size ≤ offset.toNat then []
  else [.readRange h offset (UInt64.ofNat (min n.toNat (d.size - offset.toNat)))]

/-- The calls of a use of one stream: `opening`, and if there were contents to
open, all that is asked of the stream `h` over them, up to its close. -/
def oneStreamCalls (opening : Call) (h : Handle) (reads : Contents → Handle → List Call) :
    Option Contents → List Call
  | none => [opening]
  | some d => [opening, .available h] ++ reads d h ++ [.closeStream h]

namespace Gateway

/-- The way from `g` to `g'` took these calls, and `n` handles were issued on it. -/
structure Takes (g g' : Gateway) (n : Nat) (new : List Call) : Prop where
  issued : g'.engine.issued = g.engine.issued + n
  log : g'.engine.log = g.engine.log ++ new

theorem Takes.trans {g g' g'' : Gateway} {n n' : Nat} {new new' : List Call} (h : Takes g g' n new)
    (h' : Takes g' g'' n' new') : Takes g g'' (n + n') (new ++ new') :=
  ⟨by rw [h'.issued, h.issued, Nat.add_assoc], by rw [h'.log, h.log, List.append_assoc]⟩

/-- What the use of one stream over the contents behind `opening` leaves: the
stream was opened under the next handle if there are any, and it is closed. -/
structure OneStream (g g' : Gateway) (opening : Call) (content : Option Contents)
    (reads : Contents → Handle → List Call) : Prop where
  takes : Takes g g' content.toList.length
    (oneStreamCalls opening (Handle.issuedAfter g.engine.issued) reads content)
  live : g'.engine.live = g.engine.live

/-- With nothing in hand before and after, what is live is what it was. -/
theorem Moved.live_eq {ι : Type} {held : ι → Option OwnedHandle} {g g' : Gateway}
    (h : Moved held [] g g') (l : Ledger g.engine held []) : g'.engine.live = g.engine.live := by
  refine Std.ExtTreeMap.ext_getElem? fun x => ?_
  -- what is live at either end is held at a place, and nothing changed there
  by_cases hx : ∃ i y, held i = some y ∧ y.handle = x
  · obtain ⟨i, y, hi, rfl⟩ := hx
    exact h.frame.live i y hi
  · have hnone : ∀ e : Engine, Ledger e held [] → e.live[x]? = none := by
      intro e l
      cases ho : e.live[x]? with
      | none => rfl
      | some o =>
        obtain ⟨y, ⟨i, hi⟩ | hy, -, hyx⟩ := l.owned x o ho
        · exact absurd ⟨i, y, hi, hyx⟩ hx
        · exact absurd hy List.not_mem_nil
    rw [hnone _ h.ledger, hnone _ l]

/-! ## §2. Openings. -/

/-- How an opening by the call `c` ends while no fault waits: over the cursor
that is found with a stream under the next handle, which was asked for its
length; if none is found, without a stream. -/
inductive OpensOnce (g : Gateway) (c : Call) : Option Cursor → Option ContentStream → Gateway → Prop
  | stream {x : Cursor} {s : ContentStream} {g' : Gateway}
      (handle : s.handle = .take (Handle.issuedAfter g.engine.issued) .stream)
      (length : s.length = UInt64.ofNat x.remaining) (calm : g'.faults = .none)
      (takes : Takes g g' 1 [c, .available s.handle.handle]) : OpensOnce g c (some x) (some s) g'
  | nothing {g' : Gateway} (takes : Takes g g' 0 [c]) : OpensOnce g c none none g'

variable {g : Gateway} {h : Handle} {kind : HandleKind}

/-- A stream made over what a call opens. -/
theorem Issues.opensOnce {found : Engine → Option Cursor} {m : StateM Gateway (Option Handle)}
    {f : Option Handle → StateM Gateway (Option ContentStream)} {c : Call} {path : String}
    {cap : UInt64} (hm : Issues kind h found m) (hserves : g.Serves kind (some h))
    (hcalm : g.faults = .none) (hcalls : Calls m g [c]) (hnone : f none = pure none)
    (hsome : ∀ h, f (some h) = some <$> ContentStream.ofHandle h path cap) :
    OpensOnce g c (found g.engine) ((m >>= f) g).1 ((m >>= f) g).2 := by
  rcases hm g hserves with ⟨hn, hu, hf⟩ | ⟨x, g1, hx, hu, he⟩
  · rw [hf hcalm]
    simp only [bind_apply, hn, hnone]
    exact .nothing ⟨hu.engine.issued, hcalls⟩
  · -- the new object is live, and nothing answers for it
    have hnext : (g1.engine.allocate (.stream x)).1 = Handle.issuedAfter g.engine.issued :=
      congrArg Handle.issuedAfter hu.engine.issued
    have hlog : (g1.engine.allocate (.stream x)).2.log = g.engine.log ++ [c] := by
      unfold Calls at hcalls
      rw [he] at hcalls
      exact hcalls
    have hlive : (g1.engine.allocate (.stream x)).2.live[(g1.engine.allocate (.stream x)).1]?
        = some (.stream x) := by
      simp [Engine.allocate]
    have hopened : Takes g { g1 with engine := (g1.engine.allocate (.stream x)).2 } 1 [c] :=
      ⟨congrArg (· + 1) hu.engine.issued, hlog⟩
    obtain ⟨hlength, -, hstill⟩ := available_works
      { g1 with engine := (g1.engine.allocate (.stream x)).2 } x (hu.calm hcalm) hlive
    have hasked : Takes { g1 with engine := (g1.engine.allocate (.stream x)).2 }
        (available (g1.engine.allocate (.stream x)).1
          { g1 with engine := (g1.engine.allocate (.stream x)).2 }).2 0
        [.available (g1.engine.allocate (.stream x)).1] :=
      ⟨(available_quiet _ _).1.issued, available_calls (hu.calm hcalm)⟩
    rw [hx]
    simp only [bind_apply, he, hsome, map_apply]
    have hboth := hopened.trans hasked
    exact .stream (congrArg (OwnedHandle.take · .stream) hnext) hlength hstill
      ⟨hboth.issued, hboth.log⟩

end Gateway

/-- An open handle at a place serves the calls about it. -/
theorem Ledger.serves_open {ι : Type} {held : ι → Option OwnedHandle} {loose : List OwnedHandle}
    {g : Gateway} {x : OwnedHandle} {i : ι} (l : Ledger g.engine held loose) (hi : held i = some x)
    (hr : x.released = false) : g.Serves x.kind (some x.handle) := by
  have hserves := l.serves (.inl ⟨i, hi⟩) rfl
  rwa [OwnedHandle.get?_eq_some hr] at hserves

section Openings

variable {ι : Type} {held : ι → Option OwnedHandle} {loose : List OwnedHandle} {g : Gateway} {i : ι}
  (l : Ledger g.engine held loose) (hcalm : g.faults = .none)

include l hcalm

theorem Package.openStream_opensOnce {p : Package} (hi : held i = some p.handle)
    (hk : p.handle.kind = .package) (hopen : p.isClosed = false) (path : String) (ranged : Bool) :
    OpensOnce g (.openStream p.handle.handle path ranged)
      ((g.engine.resource? p.handle.handle path).map fun r => r.cursor false ranged)
      (p.openStream true path ranged g).1 (p.openStream true path ranged g).2 := by
  unfold Package.openStream
  rw [Package.live_bind_of_open hopen]
  exact Issues.opensOnce (f := p.streamOver path) (openStream_issues path p.bufferSizeHint ranged)
    (hk ▸ l.serves_open hi hopen) hcalm (openStream_calls hcalm path _ ranged) rfl fun _ => rfl

theorem Package.openRawStream_opensOnce {p : Package} (hi : held i = some p.handle)
    (hk : p.handle.kind = .package) (hopen : p.isClosed = false) (path : String) (ranged : Bool) :
    OpensOnce g (.openRawStream p.handle.handle path)
      ((g.engine.resource? p.handle.handle path).map fun r => r.cursor true ranged)
      (p.openRawStream true path g).1 (p.openRawStream true path g).2 := by
  unfold Package.openRawStream
  rw [Package.live_bind_of_open hopen]
  exact Issues.opensOnce (f := p.streamOver path)
    (openRawStream_issues path p.bufferSizeHint ranged)
    (hk ▸ l.serves_open hi hopen) hcalm (openRawStream_calls hcalm path _) rfl fun _ => rfl

theorem Container.rawStream_opensOnce {c : Container} (hi : held i = some c.handle)
    (hk : c.handle.kind = .container) (hopen : c.isClosed = false) (path : String) :
    OpensOnce g (.rawContainerStream c.handle.handle path)
      ((g.engine.file? c.handle.handle path).map fun d => .start d true false)
      (c.rawStream path g).1 (c.rawStream path g).2 := by
  unfold Container.rawStream
  rw [OwnedHandle.get?_eq_some hopen]
  exact Issues.opensOnce (rawContainerStream_issues path) (hk ▸ l.serves_open hi hopen) hcalm
    (rawContainerStream_calls hcalm path) rfl fun _ => rfl

end Openings

/-! ## §3. What is done with a stream. -/

namespace ContentStream

variable {s : ContentStream} {g : Gateway} (hs : s.IsOpen)

include hs

theorem IsOpen.released : s.handle.released = false := by
  rw [hs]
  rfl

theorem readAll_takes (hcalm : g.faults = .none) :
    Takes g (s.readAll g).2 0 [.readAll s.handle.handle] := by
  refine ⟨(s.readAll_quiet g).1.issued, ?_⟩
  show Calls s.readAll g _
  unfold ContentStream.readAll
  rw [live_of_open hs.released, pure_bind]
  exact (Gateway.readAll_calls hcalm _).answer fun _ _ => rfl

/-- The engine is asked for what the stream has of a range, if it has any. -/
theorem readRange_takes (hcalm : g.faults = .none) {d : Contents} (hd : s.length.toNat = d.size)
    (offset n : UInt64) :
    Takes g (s.readRange offset n g).2 0 (d.rangeCalls offset n s.handle.handle) := by
  have hwant : (min n (s.leftFrom offset)).toNat = min n.toNat (d.size - offset.toNat) := by
    rw [toNat_min, toNat_leftFrom, hd]
  have hempty : min n (s.leftFrom offset) = 0 ↔ n = 0 ∨ d.size ≤ offset.toNat := by
    rw [eq_zero_iff, eq_zero_iff n, hwant]
    omega
  refine ⟨(s.readRange_quiet offset n g).1.issued, ?_⟩
  show Calls (s.readRange offset n) g _
  unfold ContentStream.readRange Contents.rangeCalls
  rw [live_of_open hs.released, pure_bind]
  dsimp only
  by_cases hz : min n (s.leftFrom offset) = 0
  · rw [if_pos hz, if_pos (hempty.mp hz)]
    exact .pure _
  · rw [if_neg hz, if_neg (hz ∘ hempty.mpr), ofNat_of_toNat hwant]
    exact (Gateway.readRange_calls hcalm offset _).answer fun r _ => by cases r <;> rfl

theorem close_takes : Takes g (s.close g : (Bool × ContentStream) × Gateway).2 0
    [.closeStream s.handle.handle] := by
  refine ⟨(s.close_shows hs g).issued, ?_⟩
  show Calls s.close g _
  unfold ContentStream.close OwnedHandle.release OwnedHandle.giveBack
  rw [hs.released, show s.handle.kind = .stream by rw [hs]; rfl]
  exact closeStream_calls

end ContentStream

/-! ## §4. Fetches. -/

namespace Fetch

/-- The call that opens what a fetch is for. -/
def openingCall (f : Fetch) (p : Package) (ranged : Bool) : Call :=
  if f.raw then .openRawStream p.handle.handle f.path else .openStream p.handle.handle f.path ranged

/-- How a fetch that holds no stream gets one by the call `c`, or does not. -/
inductive Begins (f : Fetch) (g : Gateway) (c : Call) :
    Option Contents → Except AccessError ContentStream × Fetch → Gateway → Prop
  | stream {d : Contents} {s : ContentStream} {g' : Gateway}
      (handle : s.handle = .take (Handle.issuedAfter g.engine.issued) .stream)
      (length : s.length.toNat = d.size) (calm : g'.faults = .none)
      (takes : Takes g g' 1 [c, .available s.handle.handle]) :
      Begins f g c (some d) (.ok s, { f with stream := some s, contentLength := some s.length }) g'
  | nothing {e : AccessError} {g' : Gateway} (takes : Takes g g' 0 [c]) :
      Begins f g c none (.error e, f) g'

/-- What a use in one stream makes of the fetch: it holds no stream, and knows
the length of what it read. -/
structure Noted (f : Fetch) (content : Option Contents) (f' : Fetch) : Prop where
  stream : f'.stream = none
  target : f.SameTarget f'
  length : f'.contentLength.map UInt64.toNat
    = (content.map Contents.size).or (f.contentLength.map UInt64.toNat)

/-- What a use in one stream comes to. -/
structure OneShot (f : Fetch) (g : Gateway) (c : Call) (content : Option Contents)
    (reads : Contents → Handle → List Call) (f' : Fetch) (g' : Gateway) : Prop extends
    g.OneStream g' c content reads, f.Noted content f'

/-- What was not there was not opened either. -/
theorem nothing_takes {f : Fetch} {c : Call} {g g' : Gateway}
    {reads : Contents → Handle → List Call} (hs : f.stream = none) (hbegun : Takes g g' 0 [c])
    (e : Event) :
    Takes g (emit e g').2 0 (oneStreamCalls c (Handle.issuedAfter g.engine.issued) reads none)
      ∧ f.Noted none f :=
  ⟨⟨hbegun.issued, hbegun.log⟩, hs, .refl f, rfl⟩

/-- A stream that was read from is closed. -/
theorem close_takes {f f' : Fetch} {d : Contents} {s s' : ContentStream} {c : Call}
    {g g' g'' : Gateway} {reads : Contents → Handle → List Call}
    (hhandle : s.handle = .take (Handle.issuedAfter g.engine.issued) .stream)
    (hlength : s.length.toNat = d.size) (hbegun : Takes g g' 1 [c, .available s.handle.handle])
    (hread : Takes g' g'' 0 (reads d s.handle.handle)) (hs' : s'.handle = s.handle)
    (hf' : f' = { f with stream := some s', contentLength := some s.length }) :
    Takes g (f'.close g'').2 1
        (oneStreamCalls c (Handle.issuedAfter g.engine.issued) reads (some d))
      ∧ f.Noted (some d) (f'.close g'').1 := by
  have hnumber : s.handle.handle = Handle.issuedAfter g.engine.issued := by
    rw [hhandle]
    rfl
  have hopen : s'.IsOpen := by
    rw [ContentStream.IsOpen, hs', hnumber]
    exact hhandle
  have hclosed := ContentStream.close_takes (g := g'') hopen
  have hall := (hbegun.trans hread).trans hclosed
  subst hf'
  rw [hs', hnumber] at hall
  exact ⟨⟨hall.issued, hall.log⟩, rfl, ⟨rfl, rfl, rfl⟩, congrArg some hlength⟩

theorem ready_of_none {f : Fetch} (hs : f.stream = none) (calm : Prop) (e : Engine) :
    f.Ready calm e := fun _ h => absurd (hs.symm.trans h) (by simp)

theorem ledger_of_none {ι : Type} {held : ι → Option OwnedHandle} {loose : List OwnedHandle}
    {e : Engine} {f : Fetch} (hs : f.stream = none) (l : Ledger e held loose) :
    Ledger e held (f.handles ++ loose) := by
  rwa [handles, hs]

/-- A fetch that was given no stream and is left with none left all as it was. -/
theorem Kept.live_eq {ι : Type} {held : ι → Option OwnedHandle} {calm : Prop} {f f' : Fetch}
    {g g' : Gateway} (h : Kept held [] calm f g f' g') (l : Ledger g.engine held [])
    (hs : f'.stream = none) : g'.engine.live = g.engine.live := by
  have hmoved := h.moved
  rw [handles, hs] at hmoved
  exact hmoved.live_eq l

section OneShot

variable {ι : Type} {held : ι → Option OwnedHandle} {g : Gateway} {f : Fetch} {p : Package} {i : ι}
  {content : Option Contents} (l : Ledger g.engine held []) (hi : held i = some p.handle)
  (hk : p.handle.kind = .package) (hopen : p.isClosed = false) (hcalm : g.faults = .none)
  (hs : f.stream = none)
  (hserves : (g.engine.resource? p.handle.handle f.path).map Resource.contents = content)

include l hi hk hopen hcalm hs hserves

/-- **A fetch that holds no stream** opens one, raw or not, if the package
serves anything. -/
theorem ensureStream_begins (ranged : Bool) :
    f.Begins g (f.openingCall p ranged) content (f.ensureStream p true ranged g).1
      (f.ensureStream p true ranged g).2 := by
  have hopens : OpensOnce g (f.openingCall p ranged)
      ((g.engine.resource? p.handle.handle f.path).map fun r => r.cursor f.raw ranged)
      (f.opening p true ranged g).1 (f.opening p true ranged g).2 := by
    unfold opening openingCall
    cases f.raw with
    | true => exact Package.openRawStream_opensOnce l hcalm hi hk hopen f.path ranged
    | false => exact Package.openStream_opensOnce l hcalm hi hk hopen f.path ranged
  rw [ensureStream_of_none hs hopen, map_apply, ← hserves]
  generalize f.opening p true ranged g = x at hopens ⊢
  obtain ⟨s?, g'⟩ := x
  cases hr : g.engine.resource? p.handle.handle f.path with
  | none =>
    rw [hr] at hopens
    cases hopens with
    | nothing htakes => exact .nothing htakes
  | some r =>
    rw [hr] at hopens
    cases hopens with
    | stream hhandle hlength hstill htakes =>
      exact .stream hhandle (hlength ▸ r.contents.toNat_size) hstill htakes

theorem readAll_takes :
    Takes g (f.readAll p true g).2 content.toList.length
        (oneStreamCalls (f.openingCall p false) (Handle.issuedAfter g.engine.issued)
          (fun _ h => [.readAll h]) content)
      ∧ f.Noted content (f.readAll p true g).1.2 := by
  have hbegins := ensureStream_begins l hi hk hopen hcalm hs hserves false
  unfold readAll
  rw [bind_apply]
  generalize f.ensureStream p true false g = x at hbegins ⊢
  obtain ⟨r, g'⟩ := x
  cases hbegins with
  | nothing htakes => exact nothing_takes hs htakes _
  | @stream d s _ hhandle hlength hstill htakes =>
    have hisOpen : s.IsOpen := by
      rw [ContentStream.IsOpen, hhandle]
      rfl
    exact close_takes hhandle hlength htakes (ContentStream.readAll_takes hisOpen hstill)
      (s.readAll_quiet g').2 rfl

theorem readRange_takes (offset n : UInt64) :
    Takes g (f.readRange p true offset n g).2 content.toList.length
        (oneStreamCalls (f.openingCall p true) (Handle.issuedAfter g.engine.issued)
          (fun d => d.rangeCalls offset n) content)
      ∧ f.Noted content (f.readRange p true offset n g).1.2 := by
  have hbegins := ensureStream_begins l hi hk hopen hcalm hs hserves true
  unfold readRange
  rw [bind_apply]
  generalize f.ensureStream p true true g = x at hbegins ⊢
  obtain ⟨r, g'⟩ := x
  cases hbegins with
  | nothing htakes => exact nothing_takes hs htakes _
  | @stream d s _ hhandle hlength hstill htakes =>
    have hisOpen : s.IsOpen := by
      rw [ContentStream.IsOpen, hhandle]
      rfl
    dsimp only
    split
    · next hn =>
      -- nothing is read of an empty range
      have hnone : Takes g' g' 0 (d.rangeCalls offset n s.handle.handle) := by
        unfold Contents.rangeCalls
        rw [if_pos (.inl hn)]
        exact ⟨rfl, (List.append_nil _).symm⟩
      exact close_takes hhandle hlength htakes hnone rfl rfl
    · have hread := ContentStream.readRange_takes hisOpen hstill hlength offset n
      have hsame := (s.readRange_quiet offset n g').2
      rw [bind_apply]
      generalize s.readRange offset n g' = y at hread hsame ⊢
      obtain ⟨⟨b, s'⟩, g''⟩ := y
      cases b with
      | ok b => exact close_takes hhandle hlength htakes hread hsame rfl
      | error e =>
        -- a refusal is reported, and the stream is closed all the same
        have hnoted : Takes g' (emit (.rangeReadFailed offset n f.path e) g'').2 0
            (d.rangeCalls offset n s.handle.handle) := ⟨hread.issued, hread.log⟩
        exact close_takes hhandle hlength htakes hnoted hsame rfl

/-- **Reading everything** takes one stream, and leaves none. -/
theorem readAll_oneShot :
    f.OneShot g (f.openingCall p false) content (fun _ h => [.readAll h]) (f.readAll p true g).1.2
      (f.readAll p true g).2 := by
  obtain ⟨htakes, hnoted⟩ := readAll_takes l hi hk hopen hcalm hs hserves
  have hkept := readAll_kept (ledger_of_none hs l) hi hk (fun _ => .of_none hcalm)
    (ready_of_none hs True g.engine) true
  exact ⟨⟨htakes, hkept.live_eq l hnoted.stream⟩, hnoted⟩

/-- **Reading a range** takes one stream, and leaves none. -/
theorem readRange_oneShot (offset n : UInt64) :
    f.OneShot g (f.openingCall p true) content (fun d => d.rangeCalls offset n)
      (f.readRange p true offset n g).1.2 (f.readRange p true offset n g).2 := by
  obtain ⟨htakes, hnoted⟩ := readRange_takes l hi hk hopen hcalm hs hserves offset n
  have hkept := readRange_kept (ledger_of_none hs l) hi hk (fun _ => .of_none hcalm)
    (ready_of_none hs True g.engine) true offset n
  exact ⟨⟨htakes, hkept.live_eq l hnoted.stream⟩, hnoted⟩

/-- **What is read**: everything up to the cap, and the range. -/
theorem oneShot_answers (offset n : UInt64) :
    (f.readAll p true g).1.1
        = content.map (fun d => d.bytes.extract 0 (min p.maxReadAll.toNat d.size))
      ∧ (f.readRange p true offset n g).1.1
        = content.map fun d =>
            d.bytes.extract offset.toNat (min (offset.toNat + n.toNat) d.size) := by
  have hsource : ∀ ranged, p.source? true g.engine f.path f.raw ranged
      = (g.engine.resource? p.handle.handle f.path).map fun r => r.cursor f.raw ranged := by
    intro ranged
    unfold Package.source?
    rw [hopen]
    rfl
  obtain ⟨hall, hrange⟩ :=
    answers (ledger_of_none hs l) hi hk hcalm (ready_of_none hs True g.engine)
    (gives_of_none hs g.engine) hsource offset n
  rw [hall, hrange, ← hserves]
  cases g.engine.resource? p.handle.handle f.path with
  | none => exact ⟨rfl, rfl⟩
  | some r => exact ⟨rfl, by simp⟩

end OneShot

end Fetch

/-! ## §5. Sizes and files. -/

/-- The engine tells the size of what it serves. -/
theorem Engine.probeSize_answer {g : Gateway} {h : Handle} (hserves : g.Serves .package (some h))
    (path : String) :
    (g.engine.probeSize h path).1
      = ((g.engine.resource? h path).map fun r => (r.contents.size : Int)).getD (-1) := by
  obtain ⟨o, ho, hkind⟩ := serves_object hserves
  cases o with
  | container a => simp [LiveObject.kind] at hkind
  | stream cur => simp [LiveObject.kind] at hkind
  | package x a n =>
    have hdescription : (g.engine.record (.probeSize h path)).description? a n
        = g.engine.description? a n := rfl
    rw [Engine.resource?_of_live ho]
    unfold Engine.probeSize Engine.onPackage
    rw [show (g.engine.record (.probeSize h path)).live[h]? = some (.package x a n) from ho]
    dsimp only
    rw [hdescription]
    cases g.engine.description? a n with
    | none => rfl
    | some d =>
      dsimp only
      rw [Option.bind_some]
      cases d.resources[path]? <;> rfl

section Answers

variable {ι : Type} {held : ι → Option OwnedHandle} {g : Gateway} {i : ι}
  (l : Ledger g.engine held []) (hcalm : g.faults = .none)

include l hcalm

/-- The size of a resource is that of its contents. -/
theorem Package.probeSize_answer {p : Package} (hi : held i = some p.handle)
    (hk : p.handle.kind = .package) (hopen : p.isClosed = false) (path : String) :
    (p.probeSize true path g).1
      = (g.engine.resource? p.handle.handle path).map fun r => r.contents.size := by
  have hengine := Engine.probeSize_answer (hk ▸ l.serves_open hi hopen) path
  have hcall : Gateway.probeSize p.handle.handle path g
      = call (·.probeSize p.handle.handle path) g := by
    unfold Gateway.probeSize answerable
    rw [hcalm]
    rfl
  unfold Package.probeSize
  rw [Package.live_bind_of_open hopen]
  show (if 0 ≤ (Gateway.probeSize p.handle.handle path g).1
    then some (Gateway.probeSize p.handle.handle path g).1.toNat else none) = _
  rw [hcall, show (call (·.probeSize p.handle.handle path) g).1 = _ from hengine]
  cases g.engine.resource? p.handle.handle path with
  | none => rfl
  | some r => simp

/-- **Reading a file of a container** takes one stream. -/
theorem Container.rawBytes_oneStream {c : Container} (hi : held i = some c.handle)
    (hk : c.handle.kind = .container) (hopen : c.isClosed = false) (path : String) :
    g.OneStream (c.rawBytes path g).2 (.rawContainerStream c.handle.handle path)
      (g.engine.file? c.handle.handle path) (fun _ h => [.readAll h]) := by
  refine ⟨?_, (c.rawBytes_moved l hi hk path).live_eq l⟩
  have hopens := c.rawStream_opensOnce l hcalm hi hk hopen path
  unfold Container.rawBytes
  rw [bind_apply]
  generalize c.rawStream path g = x at hopens ⊢
  obtain ⟨s?, g'⟩ := x
  cases hd : g.engine.file? c.handle.handle path with
  | none =>
    rw [hd] at hopens
    cases hopens with
    | nothing htakes => exact htakes
  | some d =>
    rw [hd] at hopens
    cases hopens with
    | @stream _ s _ hhandle hlength hstill htakes =>
      have hisOpen : s.IsOpen := by
        rw [ContentStream.IsOpen, hhandle]
        rfl
      have hread := ContentStream.readAll_takes hisOpen hstill
      have hsame := (s.readAll_quiet g').2
      dsimp only
      rw [bind_apply]
      generalize s.readAll g' = y at hread hsame ⊢
      have hclosed := ContentStream.close_takes (g := y.2) (hisOpen.of_handle hsame)
      have hall := (htakes.trans hread).trans hclosed
      rw [hsame,
        show s.handle.handle = Handle.issuedAfter g.engine.issued by rw [hhandle]; rfl] at hall
      exact ⟨hall.issued, hall.log⟩

/-- What is read of a file: everything, up to the cap. -/
theorem Container.rawBytes_answer {c : Container} (hi : held i = some c.handle)
    (hk : c.handle.kind = .container) (hopen : c.isClosed = false) (path : String) :
    (c.rawBytes path g).1
      = (g.engine.file? c.handle.handle path).map fun d =>
          d.bytes.extract 0 (min c.config.maxReadAll.toNat d.size) := by
  have hopened := c.rawStream_opened l hi hk path
  have hsource : c.source? g.engine path
      = (g.engine.file? c.handle.handle path).map fun d => .start d true false := by
    unfold Container.source?
    rw [hopen]
    rfl
  rw [hsource] at hopened
  unfold Container.rawBytes
  rw [bind_apply]
  generalize c.rawStream path g = x at hopened ⊢
  obtain ⟨s?, g'⟩ := x
  cases hd : g.engine.file? c.handle.handle path with
  | none =>
    rw [hd] at hopened
    cases s? with
    | none => rfl
    | some s =>
      obtain ⟨y, hy, -⟩ := hopened.start s rfl
      exact absurd hy (by simp)
  | some d =>
    rw [hd] at hopened
    obtain ⟨s, rfl, hfollows⟩ := hopened.follows hcalm rfl ⟨rfl, rfl⟩
    have hread := hfollows.readAll.answer
    dsimp only at hread ⊢
    rw [bind_apply]
    show some (s.readAll g').1.1 = some _
    rw [hread]
    show some (d.bytes.extract 0 (min (0 + c.config.maxReadAll.toNat) d.size)) = _
    rw [Nat.zero_add]

end Answers

/-! ## §6. Fetches of a host. -/

namespace Host

/-- **One-shot fetches**.  In whatever way a host came to a package that is
open, as is its container: a fetch of the package that holds no stream reads
everything up to the cap, and any range, of the contents that the registered
archive has at its path, and the size of these is found; nothing is answered if
there are none.  One stream is opened for it, and closed; the engine is not
asked for a range that has no byte.  So a range is that part of everything,
unless the cap cuts this off.  A container that is open reads its files
likewise. -/
theorem one_shot_fetch (cs : List Command) (hc : ∀ c ∈ cs, c.isDirect = false)
    (hcalm : (after cs fresh).gateway.faults = .none) :
    let w := after cs fresh
    let g := w.gateway
    (∀ (k : PackageId) (p : Package), w.packages.get? k = some p → p.isClosed = false →
      w.isAttached p = true → ∀ f : Fetch, f.stream = none → ∀ offset n : UInt64,
        let content := (g.engine.resource? p.handle.handle f.path).map Resource.contents
        let all := f.readAll p (w.isAttached p) g
        let range := f.readRange p (w.isAttached p) offset n g
        all.1.1 = content.map (fun d => d.bytes.extract 0 (min p.maxReadAll.toNat d.size))
          ∧ range.1.1 = content.map (fun d =>
              d.bytes.extract offset.toNat (min (offset.toNat + n.toNat) d.size))
          ∧ (p.probeSize (w.isAttached p) f.path g).1 = content.map Contents.size
          ∧ f.OneShot g (f.openingCall p false) content (fun _ h => [.readAll h]) all.1.2 all.2
          ∧ f.OneShot g (f.openingCall p true) content (fun d => d.rangeCalls offset n)
            range.1.2 range.2
          ∧ ∀ d, content = some d → d.size ≤ p.maxReadAll.toNat →
              range.1.1 = all.1.1.map fun b =>
                b.extract offset.toNat (min (offset.toNat + n.toNat) b.size))
    ∧ ∀ (id : ContainerId) (c : Container), w.containers.get? id = some c → c.isClosed = false →
      ∀ path : String,
        let file := g.engine.file? c.handle.handle path
        (c.rawBytes path g).1
            = file.map (fun d => d.bytes.extract 0 (min c.config.maxReadAll.toNat d.size))
          ∧ g.OneStream (c.rawBytes path g).2 (.rawContainerStream c.handle.handle path) file
              fun _ h => [.readAll h] := by
  intro w g
  have hsound := sound_after cs hc
  refine ⟨fun k p hp hopen hattached f hs offset n => ?_, fun id c hc hopen path => ?_⟩
  · rw [hattached]
    intro content all range
    obtain ⟨hi, hk⟩ := hsound.held_package hp
    obtain ⟨hall, hrange⟩ := Fetch.oneShot_answers hsound.ledger hi hk hopen hcalm hs rfl offset n
    refine ⟨hall, hrange, ?_, Fetch.readAll_oneShot hsound.ledger hi hk hopen hcalm hs rfl,
      Fetch.readRange_oneShot hsound.ledger hi hk hopen hcalm hs rfl offset n, fun d hd hcap => ?_⟩
    · rw [Package.probeSize_answer hsound.ledger hcalm hi hk hopen]
      exact (Option.map_map Contents.size Resource.contents _).symm
    · -- the cap cuts nothing off
      have hfull : all.1.1 = some d.bytes := by
        rw [hall,
          show (g.engine.resource? p.handle.handle f.path).map Resource.contents = some d from hd,
          Option.map_some, Nat.min_eq_right hcap]
        exact congrArg some ByteArray.extract_zero_size
      rw [hfull, hrange,
        show (g.engine.resource? p.handle.handle f.path).map Resource.contents = some d from hd]
      rfl
  · obtain ⟨hi, hk⟩ := hsound.held_container hc
    exact ⟨c.rawBytes_answer hsound.ledger hcalm hi hk hopen path,
      c.rawBytes_oneStream hsound.ledger hcalm hi hk hopen path⟩

/-- The archive registered again with a file, while its package is open. -/
def sampleFiled : List Command :=
  samplePreparation ++ [.register "book" (sampleArchive.withFile "file" sampleContents)]

theorem one_shot_fetch_sample :
    ∃ p c, (after sampleFiled fresh).packages.get? 0 = some p ∧ p.isClosed = false
      ∧ (after sampleFiled fresh).isAttached p = true
      ∧ (after sampleFiled fresh).containers.get? 0 = some c ∧ c.isClosed = false
      ∧ (let w := after sampleFiled fresh
         let fetch := Fetch.start 0 "text" false
         let range := fetch.readRange p (w.isAttached p) 1 7 w.gateway
         range.1.1 = some ⟨#[98, 99]⟩ ∧ range.1.2.stream = none
          ∧ range.2.engine.live = w.gateway.engine.live
          ∧ range.2.engine.issued = w.gateway.engine.issued + 1
          ∧ (c.rawBytes "file" w.gateway).1 = some ⟨#[97, 98, 99]⟩) := by
  have hpackage : ((after sampleFiled fresh).packages.get? 0).isSome = true := by decide +kernel
  have hcontainer : ((after sampleFiled fresh).containers.get? 0).isSome = true := by decide +kernel
  obtain ⟨p, hp⟩ := Option.isSome_iff_exists.mp hpackage
  obtain ⟨c, hc⟩ := Option.isSome_iff_exists.mp hcontainer
  have hserved : ((after sampleFiled fresh).packages.get? 0).map (fun p =>
      (p.isClosed, (after sampleFiled fresh).isAttached p,
        ((after sampleFiled fresh).gateway.engine.resource? p.handle.handle "text").map fun r =>
          r.contents.bytes))
      = some (false, true, some ⟨#[97, 98, 99]⟩) := by decide +kernel
  have hfiled : ((after sampleFiled fresh).containers.get? 0).map (fun c =>
      (c.isClosed,
        ((after sampleFiled fresh).gateway.engine.file? c.handle.handle "file").map fun d =>
          d.bytes.extract 0 (min c.config.maxReadAll.toNat d.size)))
      = some (false, some ⟨#[97, 98, 99]⟩) := by decide +kernel
  rw [hp, Option.map_some, Option.some.injEq, Prod.mk.injEq, Prod.mk.injEq] at hserved
  rw [hc, Option.map_some, Option.some.injEq, Prod.mk.injEq] at hfiled
  obtain ⟨hopen, hattached, hcontent⟩ := hserved
  obtain ⟨r, hr, hbytes⟩ := Option.map_eq_some_iff.mp hcontent
  have hcalm : (after sampleFiled fresh).gateway.faults = .none :=
    (sound_of_calm (by decide) (.fresh True)).calm trivial
  have h := one_shot_fetch sampleFiled (by decide) hcalm
  obtain ⟨-, hrange, -, -, hshot, -⟩ := h.1 0 p hp hopen hattached (.start 0 "text" false) rfl 1 7
  obtain ⟨hfile, -⟩ := h.2 0 c hc hfiled.1 "file"
  simp only [Fetch.start, hr, Option.map_some, Contents.size, hbytes] at hrange
  refine ⟨p, c, hp, hopen, hattached, hc, hfiled.1, hrange, hshot.stream, hshot.live, ?_,
    hfile.trans hfiled.2⟩
  rw [hshot.takes.issued, show (Fetch.start 0 "text" false).path = "text" from rfl, hr]
  rfl

end Host

end EpubAccess
