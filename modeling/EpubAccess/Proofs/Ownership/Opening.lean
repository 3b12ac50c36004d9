/-
  EpubAccess.Proofs.Ownership.Opening
  ────────────────────────────────
  Streams that are opened.

  `Engine.resource?` and `Engine.file?` say what is behind a handle and a
  path; `Package.source?` and `Container.source?` give the cursor that an
  opening starts from.  `Opened` says how an opening ends: with a stream over
  that cursor in hand, or with none (`Package.openStream_opened`,
  `Package.openRawStream_opened`, `Container.rawStream_opened`).
-/
import EpubAccess.Proofs.Lifetimes.Forward
import EpubAccess.Proofs.Ownership.Streams

namespace EpubAccess

open Stateful

/-! ## §1. What is behind a path. -/

/-- The cursor that an opening of the resource starts from. -/
def Resource.cursor (r : Resource) (raw ranged : Bool) : Cursor :=
  .start r.contents (raw || !r.filtered) (!raw && ranged)

namespace Engine

/-- The resource that a live package serves under a path. -/
def resource? (e : Engine) (h : Handle) (path : String) : Option Resource :=
  match e.live[h]? with
  | some (.package _ archive index) =>
    (e.description? archive index).bind fun d => d.resources[path]?
  | _ => none

/-- The file of the archive of a live container. -/
def file? (e : Engine) (h : Handle) (path : String) : Option Contents :=
  match e.live[h]? with
  | some (.container archive) => (e.archives[archive]?).bind fun a => a.files[path]?
  | _ => none

variable {e : Engine} {h : Handle}

theorem resource?_of_live {x : Handle} {a : String} {i : Nat}
    (hl : e.live[h]? = some (.package x a i)) (path : String) :
    e.resource? h path = (e.description? a i).bind fun d => d.resources[path]? := by
  unfold resource?
  rw [hl]

/-- A resource is opened as it is described, and nothing else happens. -/
theorem resourceStream_eq {x : Handle} {a : String} {i : Nat}
    (hl : e.live[h]? = some (.package x a i)) (path : String) (raw ranged : Bool) :
    e.resourceStream h path raw ranged
      = match e.resource? h path with
        | some r =>
          let s := e.allocate (.stream (.start r.contents (raw || !r.filtered) ranged))
          (some s.1, s.2)
        | none => (none, e) := by
  have hfound : e.onPackage h none (fun d => d.resources[path]?) = (e.resource? h path, e) := by
    rw [resource?_of_live hl]
    unfold onPackage
    rw [hl]
    dsimp only
    cases e.description? a i <;> rfl
  cases hr : e.resource? h path <;> simp [resourceStream, hfound, hr]

/-- A file is opened as it is, and nothing else happens. -/
theorem rawContainerStream_eq {a : String} (hl : e.live[h]? = some (.container a)) (path : String) :
    e.rawContainerStream h path
      = match e.file? h path with
        | some contents =>
          let s := (e.record (.rawContainerStream h path)).allocate
            (.stream (.start contents true false))
          (some s.1, s.2)
        | none => (none, e.record (.rawContainerStream h path)) := by
  have hl' : (e.record (.rawContainerStream h path)).live[h]? = some (.container a) := hl
  unfold rawContainerStream onContainer file?
  rw [hl', hl]
  rfl

end Engine

/-- The cursor that an opening through a package starts from. -/
def Package.source? (p : Package) (attached : Bool) (e : Engine) (path : String)
    (raw ranged : Bool) : Option Cursor :=
  if !p.isClosed && attached then
    (e.resource? p.handle.handle path).map fun r => r.cursor raw ranged
  else none

/-- The cursor that an opening of a file of a container starts from. -/
def Container.source? (c : Container) (e : Engine) (path : String) : Option Cursor :=
  if c.isClosed then none else (e.file? c.handle.handle path).map fun b => .start b true false

/-! ## §2. How an opening ends. -/

namespace Gateway

/-- Work that uses the engine for `h` and may open a stream from the cursor
that `found` names; without faults it does so if there is one. -/
def Issues (kind : HandleKind) (h : Handle) (found : Engine → Option Cursor)
    (m : StateM Gateway (Option Handle)) : Prop :=
  ∀ g : Gateway, g.Serves kind (some h) →
    ((m g).1 = none ∧ Uses (some h) g (m g).2 ∧ (g.faults = .none → found g.engine = none))
    ∨ ∃ c g1, found g.engine = some c ∧ Uses (some h) g g1
        ∧ m g = (some (g1.engine.allocate (.stream c)).1,
            { g1 with engine := (g1.engine.allocate (.stream c)).2 })

variable {h : Handle} {kind : HandleKind} {found : Engine → Option Cursor}

theorem serves_object {g : Gateway} (hg : g.Serves kind (some h)) :
    ∃ o, g.engine.live[h]? = some o ∧ o.kind = kind := by
  simpa using hg h rfl

/-- A call that may be refused. -/
theorem Issues.refusable {refusals : Faults → Nat} {set : Nat → Faults → Faults}
    {f : Engine → Option Handle × Engine} (hr : refusals .none = 0)
    (hf : Issues kind h found (call f)) : Issues kind h found (refusable refusals set f) := by
  intro g hg
  unfold Gateway.refusable
  split
  · exact hf g hg
  · next n hn =>
    -- a call is refused only if a fault waits
    have hne : g.faults ≠ .none := fun hc => by rw [hc, hr] at hn; exact absurd hn (by simp)
    exact .inl ⟨rfl, ⟨.refl _ _, fun hc => absurd hc hne⟩, fun hc => absurd hc hne⟩

/-- Noting a hint first changes nothing. -/
theorem Issues.noteHint {hint : UInt64} {m : StateM Gateway (Option Handle)}
    (hm : Issues kind h found m) :
    Issues kind h found (do
      noteHint hint
      m) := by
  intro g hg
  rcases hm { g with lastHint := some hint } hg with ⟨hn, hu, hf⟩ | ⟨c, g1, hc, hu, he⟩
  · exact .inl ⟨hn, ⟨hu.engine, hu.calm⟩, hf⟩
  · exact .inr ⟨c, g1, hc, ⟨hu.engine, hu.calm⟩, he⟩

/-- The engine's part of opening a resource. -/
theorem resourceStream_issues (c : Call) (hc : c.isRelease = false) (hh : c.handle? = some h)
    (path : String) (raw ranged : Bool) (hraw : raw = true → ranged = false) :
    Issues .package h (fun e => (e.resource? h path).map fun r => r.cursor raw ranged)
      (call fun e => (e.record c).resourceStream h path raw ranged) := by
  intro g hg
  obtain ⟨o, ho, hk⟩ := serves_object hg
  cases o with
  | container a => simp [LiveObject.kind] at hk
  | stream cur => simp [LiveObject.kind] at hk
  | package x a i =>
    have hrec := g.engine.uses_record c hc
    rw [hh] at hrec
    have hl : (g.engine.record c).live[h]? = some (.package x a i) := ho
    have heq := Engine.resourceStream_eq hl path raw ranged
    have hres : (g.engine.record c).resource? h path = g.engine.resource? h path := rfl
    have hranged : (!raw && ranged) = ranged := by
      cases raw <;> simp_all
    rw [hres] at heq
    cases hr : g.engine.resource? h path with
    | none =>
      rw [hr] at heq
      refine .inl ⟨congrArg Prod.fst heq, ⟨?_, id⟩, fun _ => by simp [hr]⟩
      show g.engine.Uses (some h) ((g.engine.record c).resourceStream h path raw ranged).2
      rw [heq]
      exact hrec
    | some r =>
      rw [hr] at heq
      refine .inr ⟨r.cursor raw ranged, { g with engine := g.engine.record c }, by simp [hr],
        ⟨hrec, id⟩, ?_⟩
      show (((g.engine.record c).resourceStream h path raw ranged).1,
        { g with engine := ((g.engine.record c).resourceStream h path raw ranged).2 }) = _
      rw [heq, Resource.cursor, hranged]

theorem openStream_issues (path : String) (hint : UInt64) (ranged : Bool) :
    Issues .package h (fun e => (e.resource? h path).map fun r => r.cursor false ranged)
      (openStream h path hint ranged) :=
  .noteHint (.refusable rfl (resourceStream_issues _ rfl rfl path false ranged (by simp)))

theorem openRawStream_issues (path : String) (hint : UInt64) (ranged : Bool) :
    Issues .package h (fun e => (e.resource? h path).map fun r => r.cursor true ranged)
      (openRawStream h path hint) := by
  have hcursor : ∀ r : Resource, r.cursor true ranged = r.cursor true false := fun _ => rfl
  simp only [hcursor]
  exact .noteHint (.refusable rfl (resourceStream_issues _ rfl rfl path true false (by simp)))

theorem rawContainerStream_issues (path : String) :
    Issues .container h (fun e => (e.file? h path).map fun b => .start b true false)
      (rawContainerStream h path) := by
  refine .refusable rfl fun g hg => ?_
  obtain ⟨o, ho, hk⟩ := serves_object hg
  cases o with
  | package x a i => simp [LiveObject.kind] at hk
  | stream cur => simp [LiveObject.kind] at hk
  | container a =>
    have hrec := g.engine.uses_record (.rawContainerStream h path) rfl
    have heq := Engine.rawContainerStream_eq ho path
    cases hr : g.engine.file? h path with
    | none =>
      rw [hr] at heq
      refine .inl ⟨congrArg Prod.fst heq, ⟨?_, id⟩, fun _ => rfl⟩
      show g.engine.Uses (some h) (g.engine.rawContainerStream h path).2
      rw [heq]
      exact hrec
    | some b =>
      rw [hr] at heq
      refine .inr ⟨.start b true false, { g with engine := g.engine.record _ }, rfl,
        ⟨hrec, id⟩, ?_⟩
      show ((g.engine.rawContainerStream h path).1,
        { g with engine := (g.engine.rawContainerStream h path).2 }) = _
      rw [heq]

end Gateway

/-- An opening ended with `r`: a stream at the start of the cursor `found`, in
hand, or none. -/
structure Opened {ι : Type} (held : ι → Option OwnedHandle) (loose : List OwnedHandle)
    (found : Option Cursor) (cap : UInt64) (g : Gateway) (r : Option ContentStream)
    (g' : Gateway) : Prop where
  moved : g.Moved held (r.toList.map ContentStream.handle ++ loose) g'
  start : ∀ s, r = some s →
    ∃ c, found = some c ∧ g'.engine.live[s.handle.handle]? = some (.stream c)
    ∧ s.handle = .take s.handle.handle .stream ∧ s.position = 0 ∧ s.mark = 0 ∧ s.maxReadAll = cap
    ∧ (g.faults.Refusing → s.length = UInt64.ofNat c.remaining)
  found : g.faults = .none → r = none → found = none

/-- What an opening gives is a stream. -/
theorem Opened.kind {ι : Type} {held : ι → Option OwnedHandle} {loose : List OwnedHandle}
    {found : Option Cursor} {cap : UInt64} {g g' : Gateway} {r : Option ContentStream}
    (h : Opened held loose found cap g r g') (s : ContentStream) (hs : r = some s) :
    s.handle.kind = .stream := by
  obtain ⟨c, -, -, hh, -⟩ := h.start s hs
  rw [hh]
  rfl

section Opening

variable {ι : Type} {held : ι → Option OwnedHandle} {loose : List OwnedHandle} {g : Gateway}

open Gateway

theorem Opened.none {found : Option Cursor} {cap : UInt64} {g' : Gateway}
    (hm : Moved held loose g g') (hf : g.faults = .none → found = .none) :
    Opened held loose found cap g none g' :=
  ⟨hm, by simp, fun hc _ => hf hc⟩

/-- Asking for the length of a new stream moves nothing. -/
theorem ContentStream.ofHandle_moved {h : Handle} {c : Cursor} (path : String) (cap : UInt64)
    (l : Ledger g.engine held (.take h .stream :: loose))
    (hl : g.engine.live[h]? = some (.stream c)) :
    Moved held (.take h .stream :: loose) g (ContentStream.ofHandle h path cap g).2
      ∧ (ContentStream.ofHandle h path cap g).2.engine.live[h]? = some (.stream c)
      ∧ (g.faults.Refusing →
          (ContentStream.ofHandle h path cap g).1.length = UInt64.ofNat c.remaining) := by
  have hs := l.serves (.inr (List.mem_cons_self ..)) rfl
  have honly : Only .stream (some h) (fun _ => True) (do
      let n ← Gateway.available h
      Gateway.emit (.streamOpened h path n)) :=
    .bind Gateway.available_only fun _ _ => .emit _
  have hu := honly g hs
  refine ⟨?_, ?_, ?_⟩
  · refine .of_uses l hu.1 (serves_isSome hs) fun i x hx he => ?_
    exact absurd (Option.some.inj he).symm (l.looseApart i x _ hx (List.mem_cons_self ..))
  · show ((Gateway.available h g).2).engine.live[h]? = _
    unfold Gateway.available answerable
    split
    · show (g.engine.available h).2.live[h]? = _
      unfold Engine.available Engine.onCursor
      rw [show (g.engine.record (.available h)).live[h]? = some (.stream c) from hl]
      simp
    · exact hl
  · intro hc
    show (Gateway.available h g).1 = _
    unfold Gateway.available answerable
    rw [hc.available]
    show (g.engine.available h).1 = _
    unfold Engine.available Engine.onCursor
    rw [show (g.engine.record (.available h)).live[h]? = some (.stream c) from hl]

/-- A stream made over what was opened. -/
theorem Gateway.Issues.opened {x : OwnedHandle} {i : ι} {found : Engine → Option Cursor}
    {m : StateM Gateway (Option Handle)} {f : Option Handle → StateM Gateway (Option ContentStream)}
    (path : String) (cap : UInt64) (l : Ledger g.engine held loose) (hi : held i = some x)
    (hr : x.released = false) (hk : x.kind ≠ .stream) (hm : Issues x.kind x.handle found m)
    (honward : Onward m) (hnone : f none = pure none)
    (hsome : ∀ h, f (some h) = some <$> ContentStream.ofHandle h path cap) :
    Opened held loose (found g.engine) cap g ((m >>= f) g).1 ((m >>= f) g).2 := by
  have hs : g.Serves x.kind (some x.handle) := by
    have hserves := l.serves (.inl ⟨i, hi⟩) rfl
    simpa [OwnedHandle.get?, hr] using hserves
  -- the calls are about a handle that is no stream, so no cursor moves
  have huse : ∀ g1, g.Uses (some x.handle) g1 → Moved held loose g g1 := by
    intro g1 hu
    refine .of_uses l hu (serves_isSome hs) fun j y hy he => ?_
    rw [l.unique (.inl ⟨j, hy⟩) (.inl ⟨i, hi⟩) (Option.some.inj he).symm]
    exact hk
  rcases hm g hs with ⟨hn, hu, hf⟩ | ⟨c, g1, hc, hu, he⟩
  · simp only [bind_apply, hn, hnone]
    exact .none (huse _ hu) hf
  · have hm1 := huse _ hu
    have hissue := hm1.ledger.issue (.stream c)
    have hlive : (g1.engine.allocate (.stream c)).2.live[(g1.engine.allocate (.stream c)).1]?
        = some (.stream c) := by
      simp [Engine.allocate]
    obtain ⟨hmoved, hcur, hlen⟩ := ContentStream.ofHandle_moved
      (g := { g1 with engine := (g1.engine.allocate (.stream c)).2 }) path cap hissue hlive
    have hnew : Moved held (.take (g1.engine.allocate (.stream c)).1 .stream :: loose) g1
        { g1 with engine := (g1.engine.allocate (.stream c)).2 } := .issue hm1.ledger (.stream c)
    simp only [bind_apply, he, hsome, map_apply]
    refine ⟨(hm1.trans hnew).trans hmoved, ?_, fun _ h => absurd h (by simp)⟩
    rintro s ⟨⟩
    have hrefusing := (honward g).1.refusing
    rw [he] at hrefusing
    exact ⟨c, hc, hcur, rfl, rfl, rfl, rfl, fun hq => hlen (hrefusing hq)⟩

/-- A handle that was given back is not got. -/
theorem OwnedHandle.get?_eq_none {x : OwnedHandle} (h : x.released = true) : x.get? = none := by
  simp [get?, h]

theorem OwnedHandle.get?_eq_some {x : OwnedHandle} (h : x.released = false) :
    x.get? = some x.handle := by
  simp [get?, h]

/-- **Opening the filtered content of a resource.** -/
theorem Package.openStream_opened {p : Package} {i : ι} (l : Ledger g.engine held loose)
    (hi : held i = some p.handle) (hk : p.handle.kind = .package) (attached : Bool)
    (path : String) (ranged : Bool) :
    Opened held loose (p.source? attached g.engine path false ranged) p.maxReadAll g
      (p.openStream attached path ranged g).1 (p.openStream attached path ranged g).2 := by
  unfold Package.openStream Package.live Package.source? Package.isClosed
  cases hr : p.handle.released with
  | true =>
    rw [OwnedHandle.get?_eq_none hr]
    exact .none ((Moved.refl l).congr rfl rfl) fun _ => by simp
  | false =>
    rw [OwnedHandle.get?_eq_some hr]
    cases attached with
    | false => exact .none ((Moved.refl l).congr rfl rfl) fun _ => by simp
    | true =>
      have hissues := hk ▸ openStream_issues (h := p.handle.handle) path p.bufferSizeHint ranged
      exact Issues.opened (f := p.streamOver path) path p.maxReadAll l hi hr (by simp [hk])
        hissues (Gateway.openStream_onward _ _ _ _) rfl fun _ => rfl

/-- **Opening a resource past the filters.** -/
theorem Package.openRawStream_opened {p : Package} {i : ι} (l : Ledger g.engine held loose)
    (hi : held i = some p.handle) (hk : p.handle.kind = .package) (attached : Bool)
    (path : String) (ranged : Bool) :
    Opened held loose (p.source? attached g.engine path true ranged) p.maxReadAll g
      (p.openRawStream attached path g).1 (p.openRawStream attached path g).2 := by
  unfold Package.openRawStream Package.live Package.source? Package.isClosed
  cases hr : p.handle.released with
  | true =>
    rw [OwnedHandle.get?_eq_none hr]
    exact .none ((Moved.refl l).congr rfl rfl) fun _ => by simp
  | false =>
    rw [OwnedHandle.get?_eq_some hr]
    cases attached with
    | false => exact .none ((Moved.refl l).congr rfl rfl) fun _ => by simp
    | true =>
      have hissues := hk ▸ openRawStream_issues (h := p.handle.handle) path p.bufferSizeHint ranged
      exact Issues.opened (f := p.streamOver path) path p.maxReadAll l hi hr (by simp [hk])
        hissues (Gateway.openRawStream_onward _ _ _) rfl fun _ => rfl

/-- **Opening a file of a container.** -/
theorem Container.rawStream_opened {c : Container} {i : ι} (l : Ledger g.engine held loose)
    (hi : held i = some c.handle) (hk : c.handle.kind = .container) (path : String) :
    Opened held loose (c.source? g.engine path) c.config.maxReadAll g
      (c.rawStream path g).1 (c.rawStream path g).2 := by
  unfold Container.rawStream Container.source? Container.isClosed
  cases hr : c.handle.released with
  | true =>
    rw [OwnedHandle.get?_eq_none hr]
    exact .none ((Moved.refl l).congr rfl rfl) fun _ => rfl
  | false =>
    rw [OwnedHandle.get?_eq_some hr]
    have hissues := hk ▸ rawContainerStream_issues (h := c.handle.handle) path
    exact Issues.opened path c.config.maxReadAll l hi hr (by simp [hk]) hissues
      (rawContainerStream_onward _ _) rfl fun _ => rfl

/-- **Reading a file of a container** leaves nothing in hand. -/
theorem Container.rawBytes_moved {c : Container} {i : ι} (l : Ledger g.engine held loose)
    (hi : held i = some c.handle) (hk : c.handle.kind = .container) (path : String) :
    Moved held loose g (c.rawBytes path g).2 := by
  have hopen := c.rawStream_opened l hi hk path
  unfold Container.rawBytes
  simp only [bind_apply]
  cases hr : (c.rawStream path g).1 with
  | none =>
    rw [hr] at hopen
    exact hopen.moved
  | some s =>
    have hkind := hopen.kind s hr
    rw [hr] at hopen
    have hread := (s.readAll_local).moved hopen.moved.ledger hkind
    simp only [bind_apply, pure_apply]
    generalize s.readAll (c.rawStream path g).2 = r at hread ⊢
    obtain ⟨hread, hsame⟩ := hread
    rw [← hsame.handle] at hread hkind
    exact (hopen.moved.trans hread).trans (ContentStream.close_moved hread.ledger hkind)

end Opening

end EpubAccess
