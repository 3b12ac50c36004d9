/-
  EpubAccess.Proofs.Ownership.Uses
  ────────────────────────────────
  What an engine call does to everything it is not about.

  `Engine.Uses h e e'` says that the engine went from `e` to `e'` by calls
  about `h` alone, none of which gives a handle back: no object comes or
  goes, no counter moves, and only the cursor behind `h` may stand elsewhere.
  `Gateway.Only h m` says the same of gateway work `m`, on the condition that
  `h` is live.  Both are closed under sequencing, so the work of a stream or
  of a package is settled by its engine calls (`StreamOp.run_local`).
-/
import EpubAccess.Package.Basic
import EpubAccess.Stream.Operation
import EpubAccess.Proofs.OrderedMap

namespace EpubAccess

/-! ## §1. Objects and cursors. -/

/-- The family of an object. -/
def LiveObject.kind : LiveObject → HandleKind
  | .container _ => .container
  | .package _ _ _ => .package
  | .stream _ => .stream

/-- An object apart from where its cursor stands. -/
def LiveObject.shape : LiveObject → LiveObject
  | .stream c => .stream (.start c.contents c.seekable c.ranged)
  | o => o

@[simp] theorem LiveObject.kind_shape (o : LiveObject) : o.shape.kind = o.kind := by
  cases o <;> rfl

/-- A cursor over the same bytes that can do the same. -/
def Cursor.SameBytes (c c' : Cursor) : Prop :=
  c'.contents = c.contents ∧ c'.seekable = c.seekable ∧ c'.ranged = c.ranged

namespace Cursor

variable (c : Cursor)

theorem take_sameBytes (n : Nat) : c.SameBytes (c.take n).2 := ⟨rfl, rfl, rfl⟩

theorem readRange_sameBytes (offset n : Nat) : c.SameBytes (c.readRange offset n).2 := by
  unfold readRange
  split <;> exact ⟨rfl, rfl, rfl⟩

theorem skip_sameBytes (n : Nat) : c.SameBytes (c.skip n).2 := by
  unfold skip
  split <;> exact ⟨rfl, rfl, rfl⟩

theorem setMark_sameBytes : c.SameBytes c.setMark.2 := by
  unfold setMark
  split <;> exact ⟨rfl, rfl, rfl⟩

theorem reset_sameBytes (toMark : Bool) : c.SameBytes (c.reset toMark).2 := by
  unfold reset
  split <;> exact ⟨rfl, rfl, rfl⟩

end Cursor

theorem LiveObject.shape_stream {c c' : Cursor} (h : c.SameBytes c') :
    (LiveObject.stream c').shape = (LiveObject.stream c).shape := by
  obtain ⟨hb, hs, hr⟩ := h
  simp only [LiveObject.shape, hb, hs, hr]

/-! ## §2. Calls about one handle. -/

namespace Engine

/-- Every call so far, oldest first. -/
def log (e : Engine) : List Call := e.calls.toList

@[simp] theorem log_record (e : Engine) (c : Call) : (e.record c).log = e.log ++ [c] := by
  simp [log, record]

/-- The engine went from `e` to `e'` by calls about `h?` alone, none of which
gives a handle back. -/
structure Uses (h? : Option Handle) (e e' : Engine) : Prop where
  archives : e'.archives = e.archives
  issued : e'.issued = e.issued
  doubleReleases : e'.doubleReleases = e.doubleReleases
  danglingUses : e'.danglingUses = e.danglingUses
  registryWarnings : e'.registryWarnings = e.registryWarnings
  log : ∃ new, e'.log = e.log ++ new ∧ ∀ c ∈ new, c.isRelease = false ∧ c.handle? = h?
  live : ∀ h : Handle, some h ≠ h? → e'.live[h]? = e.live[h]?
  shape : ∀ h : Handle, (e'.live[h]?).map LiveObject.shape = (e.live[h]?).map LiveObject.shape

namespace Uses

variable {h? : Option Handle} {e e' e'' : Engine}

theorem refl (h? : Option Handle) (e : Engine) : Uses h? e e :=
  ⟨rfl, rfl, rfl, rfl, rfl, ⟨[], by simp, by simp⟩, fun _ _ => rfl, fun _ => rfl⟩

theorem trans (h : Uses h? e e') (h' : Uses h? e' e'') : Uses h? e e'' := by
  obtain ⟨new, hlog, hnew⟩ := h.log
  obtain ⟨new', hlog', hnew'⟩ := h'.log
  refine ⟨h'.archives.trans h.archives, h'.issued.trans h.issued,
    h'.doubleReleases.trans h.doubleReleases, h'.danglingUses.trans h.danglingUses,
    h'.registryWarnings.trans h.registryWarnings, ⟨new ++ new', ?_, ?_⟩,
    fun x hx => (h'.live x hx).trans (h.live x hx), fun x => (h'.shape x).trans (h.shape x)⟩
  · rw [hlog', hlog, List.append_assoc]
  · intro c hc
    exact (List.mem_append.mp hc).elim (hnew c) (hnew' c)

/-- The kinds of all objects stay. -/
theorem kind (h : Uses h? e e') (x : Handle) :
    (e'.live[x]?).map LiveObject.kind = (e.live[x]?).map LiveObject.kind := by
  have hs := congrArg (Option.map LiveObject.kind) (h.shape x)
  simpa [Option.map_map, Function.comp_def] using hs

/-- What is not a stream stays as it is. -/
theorem object (h : Uses h? e e') {x : Handle} {o : LiveObject} (ho : e.live[x]? = some o)
    (hk : o.kind ≠ .stream) : e'.live[x]? = some o := by
  have hs := h.shape x
  rw [ho] at hs
  cases o with
  | stream c => exact absurd rfl hk
  | container a =>
    cases hx : e'.live[x]? with
    | none => simp [hx] at hs
    | some o' => cases o' <;> simp_all [LiveObject.shape]
  | package c a i =>
    cases hx : e'.live[x]? with
    | none => simp [hx] at hs
    | some o' => cases o' <;> simp_all [LiveObject.shape]

end Uses

variable (e : Engine)

theorem uses_record (c : Call) (hc : c.isRelease = false) : Uses c.handle? e (e.record c) :=
  ⟨rfl, rfl, rfl, rfl, rfl, ⟨[c], by simp, by simp [hc]⟩, fun _ _ => rfl, fun _ => rfl⟩

/-- A live package answers without a change. -/
theorem onPackage_snd {h : Handle} {x : Handle} {a : String} {i : Nat}
    (hl : e.live[h]? = some (.package x a i)) (absent : α) (f : PackageDescription → α) :
    (e.onPackage h absent f).2 = e := by
  unfold onPackage
  rw [hl]
  dsimp only
  split <;> rfl

/-- The cursor of a live stream moves, and nothing else. -/
theorem onCursor_uses {h : Handle} {c : Cursor} (hl : e.live[h]? = some (.stream c)) (absent : α)
    (f : Cursor → α × Cursor) (hf : c.SameBytes (f c).2) :
    Uses (some h) e (e.onCursor h absent f).2 := by
  have hsnd : (e.onCursor h absent f).2 = { e with live := e.live.insert h (.stream (f c).2) } := by
    unfold onCursor
    rw [hl]
  rw [hsnd]
  refine ⟨rfl, rfl, rfl, rfl, rfl, ⟨[], by simp [log], by simp⟩, ?_, ?_⟩
  · intro x hx
    have hne : ¬ h = x := fun he => hx (by rw [he])
    simp [Std.ExtTreeMap.getElem?_insert, hne]
  · intro x
    by_cases hx : h = x
    · subst hx
      rw [hl]
      simpa using LiveObject.shape_stream hf
    · simp [Std.ExtTreeMap.getElem?_insert, hx]

end Engine

/-! ## §3. Gateway work about one handle. -/

namespace Gateway

/-- The engine was used for `h?` alone, and no fault came up. -/
structure Uses (h? : Option Handle) (g g' : Gateway) : Prop where
  engine : g.engine.Uses h? g'.engine
  calm : g.faults = .none → g'.faults = .none

theorem Uses.refl (h? : Option Handle) (g : Gateway) : Uses h? g g := ⟨.refl h? _, id⟩

theorem Uses.trans {h? : Option Handle} {g g' g'' : Gateway} (h : Uses h? g g')
    (h' : Uses h? g' g'') : Uses h? g g'' :=
  ⟨h.engine.trans h'.engine, h'.calm ∘ h.calm⟩

/-- The handle is live and its object of a kind; no handle is always so. -/
def Serves (g : Gateway) (kind : HandleKind) (h? : Option Handle) : Prop :=
  ∀ h, h? = some h → (g.engine.live[h]?).map LiveObject.kind = some kind

theorem Serves.mono {g g' : Gateway} {kind : HandleKind} {x? h? : Option Handle}
    (h : g.Serves kind h?) (hu : Uses x? g g') : g'.Serves kind h? := by
  intro x hx
  rw [hu.engine.kind, h x hx]

/-- Work that uses the engine for `h?` alone, if it is live, and answers as
`post` says. -/
def Only (kind : HandleKind) (h? : Option Handle) (post : α → Prop) (m : StateM Gateway α) : Prop :=
  ∀ g : Gateway, g.Serves kind h? → Uses h? g (m g).2 ∧ post (m g).1

namespace Only

variable {kind : HandleKind} {h? : Option Handle} {α β : Type} {post : α → Prop}

theorem pure {a : α} (h : post a) : Only kind h? post (pure a) := fun g _ => ⟨.refl h? g, h⟩

theorem bind {m : StateM Gateway α} {f : α → StateM Gateway β} {post' : β → Prop}
    (hm : Only kind h? post m) (hf : ∀ a, post a → Only kind h? post' (f a)) :
    Only kind h? post' (m >>= f) := by
  intro g hg
  obtain ⟨hu, hp⟩ := hm g hg
  obtain ⟨hu', hp'⟩ := hf (m g).1 hp (m g).2 (hg.mono hu)
  exact ⟨hu.trans hu', hp'⟩

theorem weaken {m : StateM Gateway α} {post' : α → Prop} (hm : Only kind h? post m)
    (h : ∀ a, post a → post' a) : Only kind h? post' m := fun g hg =>
  ⟨(hm g hg).1, h _ (hm g hg).2⟩

theorem emit (e : Event) : Only kind h? (fun _ => True) (Gateway.emit e) :=
  fun _ _ => ⟨⟨.refl h? _, id⟩, trivial⟩

/-- A call that some waiting answer may serve. -/
theorem answerable (waiting : Faults → List α) (set : List α → Faults → Faults)
    (f : Engine → α × Engine) (hw : waiting .none = [])
    (hf : Only kind h? (fun _ => True) (call f)) :
    Only kind h? (fun _ => True) (Gateway.answerable waiting set f) := by
  intro g hg
  unfold Gateway.answerable
  split
  · exact hf g hg
  · next hne => exact ⟨⟨.refl h? _, fun hc => by simp [hc, hw] at hne⟩, trivial⟩

/-- A call that some waiting error may serve. -/
theorem fallible (waiting : Faults → List EngineError) (set : List EngineError → Faults → Faults)
    (f : Engine → Except EngineError α × Engine) (hw : waiting .none = [])
    (hf : Only kind h? (fun _ => True) (call f)) :
    Only kind h? (fun _ => True) (Gateway.fallible waiting set f) := by
  intro g hg
  unfold Gateway.fallible
  split
  · exact hf g hg
  · next hne => exact ⟨⟨.refl h? _, fun hc => by simp [hc, hw] at hne⟩, trivial⟩

end Only

/-! ## §4. Streams. -/

section Cursors

variable {h : Handle}

/-- A recorded cursor operation uses its stream alone. -/
theorem call_cursor_only (c : Call) (hc : c.isRelease = false) (hh : c.handle? = some h)
    (absent : α) (f : Cursor → α × Cursor) (hf : ∀ cur : Cursor, cur.SameBytes (f cur).2) :
    Only .stream (some h) (fun _ => True) (call fun e => (e.record c).onCursor h absent f) := by
  intro g hg
  have hlive := hg h rfl
  obtain ⟨o, ho, hk⟩ : ∃ o, g.engine.live[h]? = some o ∧ o.kind = .stream := by
    simpa using hlive
  cases o with
  | container a => simp [LiveObject.kind] at hk
  | package a b i => simp [LiveObject.kind] at hk
  | stream cur =>
    have hr := g.engine.uses_record c hc
    rw [hh] at hr
    exact ⟨⟨hr.trans ((g.engine.record c).onCursor_uses ho absent f (hf cur)), id⟩, trivial⟩

theorem readBytes_only (n : UInt64) : Only .stream (some h) (fun _ => True) (readBytes h n) :=
  .answerable _ _ _ rfl (call_cursor_only _ rfl rfl _ _ fun cur => cur.take_sameBytes _)

theorem readAll_only (n : UInt64) : Only .stream (some h) (fun _ => True) (readAll h n) :=
  .answerable _ _ _ rfl (call_cursor_only _ rfl rfl _ _ fun cur => cur.take_sameBytes _)

theorem readRange_only (offset n : UInt64) :
    Only .stream (some h) (fun _ => True) (readRange h offset n) :=
  .answerable _ _ _ rfl (call_cursor_only _ rfl rfl _ _ fun cur => cur.readRange_sameBytes _ _)

theorem skip_only (n : UInt64) : Only .stream (some h) (fun _ => True) (skip h n) :=
  .fallible _ _ _ rfl (call_cursor_only _ rfl rfl _ _ fun cur => cur.skip_sameBytes _)

theorem mark_only : Only .stream (some h) (fun _ => True) (mark h) :=
  .fallible _ _ _ rfl (call_cursor_only _ rfl rfl _ _ fun cur => cur.setMark_sameBytes)

theorem reset_only (toMark : Bool) : Only .stream (some h) (fun _ => True) (reset h toMark) :=
  .fallible _ _ _ rfl (call_cursor_only _ rfl rfl _ _ fun cur => cur.reset_sameBytes _)

theorem available_only : Only .stream (some h) (fun _ => True) (available h) :=
  .answerable _ _ _ rfl (call_cursor_only _ rfl rfl _ _ fun _ => ⟨rfl, rfl, rfl⟩)

end Cursors

end Gateway

namespace ContentStream

open Gateway

/-- The same stream, maybe elsewhere. -/
structure SameStream (s s' : ContentStream) : Prop where
  handle : s'.handle = s.handle
  path : s'.path = s.path
  length : s'.length = s.length
  maxReadAll : s'.maxReadAll = s.maxReadAll

theorem SameStream.refl (s : ContentStream) : s.SameStream s := ⟨rfl, rfl, rfl, rfl⟩

theorem SameStream.trans {s s' s'' : ContentStream} (h : s.SameStream s') (h' : s'.SameStream s'') :
    s.SameStream s'' :=
  ⟨h'.handle.trans h.handle, h'.path.trans h.path, h'.length.trans h.length,
    h'.maxReadAll.trans h.maxReadAll⟩

/-- Work of a stream that uses the engine for its own handle alone and leaves
the same stream. -/
abbrev Local (s : ContentStream) (m : StateM Gateway (α × ContentStream)) : Prop :=
  Only .stream s.handle.get? (fun r => s.SameStream r.2) m

variable (s : ContentStream)

/-- A closed stream answers `f none` after a report, an open one `f` of its handle. -/
theorem live_bind_only {post : β → Prop} {f : Option Handle → StateM Gateway β} {x : StreamAccess}
    (hn : Only .stream s.handle.get? post (f none))
    (hs : ∀ h, s.handle.get? = some h → Only .stream (some h) post (f (some h))) :
    Only .stream s.handle.get? post (s.live x >>= f) := by
  unfold live
  cases hh : s.handle.get? with
  | none =>
    rw [hh] at hn
    exact .bind (.bind (.emit _) fun _ _ => .pure rfl) fun _ (ha : none = _) => ha ▸ hn
  | some h => exact hs h hh

theorem available_only :
    Only .stream s.handle.get? (fun _ => True) (s.available : StateM Gateway UInt64) :=
  s.live_bind_only (.pure trivial) fun _ _ => Gateway.available_only

theorem read_local (n : UInt64) : s.Local (s.read n) := by
  refine s.live_bind_only (.pure (.refl s)) fun h _ => ?_
  dsimp only
  split
  · exact .pure (.refl s)
  · exact .bind (Gateway.readBytes_only _) fun _ _ => .pure ⟨rfl, rfl, rfl, rfl⟩

theorem readInto_local (buffer : ByteArray) : s.Local (s.readInto buffer) :=
  .bind (s.read_local _) fun _ ha => .pure ha

theorem readChunks_local (chunk : UInt64) (room : Nat) (front : ByteArray) :
    s.Local (readChunks chunk room front s) := by
  induction room generalizing front s with
  | zero => exact .pure (.refl s)
  | succ room ih =>
    refine .bind (s.read_local chunk) fun a ha => ?_
    dsimp only
    split
    · exact .pure ha
    · have hrest := ih a.2 (front ++ a.1)
      rw [Local, ha.handle] at hrest
      exact hrest.weaken fun _ hr => ha.trans hr

theorem readToEnd_local (chunk : UInt64) : s.Local (s.readToEnd chunk) :=
  s.readChunks_local chunk _ _

theorem readAll_local : s.Local s.readAll :=
  s.live_bind_only (.pure (.refl s)) fun _ _ =>
    .bind (Gateway.readAll_only _) fun _ _ => .pure ⟨rfl, rfl, rfl, rfl⟩

theorem readRange_local (offset n : UInt64) : s.Local (s.readRange offset n) := by
  refine s.live_bind_only (.pure (.refl s)) fun h _ => ?_
  dsimp only
  split
  · exact .pure (.refl s)
  · refine .bind (Gateway.readRange_only _ _) fun r _ => ?_
    cases r with
    | error e => exact .pure (.refl s)
    | ok b => exact .pure ⟨rfl, rfl, rfl, rfl⟩

theorem skip_local (n : UInt64) : s.Local (s.skip n) := by
  refine s.live_bind_only (.pure (.refl s)) fun h _ => ?_
  dsimp only
  split
  · exact .pure (.refl s)
  · refine .bind (Gateway.skip_only _) fun r _ => ?_
    cases r with
    | error e => exact .pure (.refl s)
    | ok _ => exact .pure ⟨rfl, rfl, rfl, rfl⟩

theorem setMark_local : s.Local s.setMark := by
  refine s.live_bind_only (.pure (.refl s)) fun h _ => .bind Gateway.mark_only fun r _ => ?_
  cases r with
  | error e => exact .pure (.refl s)
  | ok _ => exact .pure ⟨rfl, rfl, rfl, rfl⟩

theorem reset_local (toMark : Bool) : s.Local (s.reset toMark) := by
  refine s.live_bind_only (.pure (.refl s)) fun h _ => .bind (Gateway.reset_only _) fun r _ => ?_
  cases r with
  | error e => exact .pure (.refl s)
  | ok _ => exact .pure ⟨rfl, rfl, rfl, rfl⟩

theorem seek_local (position : UInt64) : s.Local (s.seek position) := by
  refine s.live_bind_only (.pure (.refl s)) fun h hh => ?_
  have hreset := s.reset_local false
  rw [Local, hh] at hreset
  refine .bind hreset fun a ha => ?_
  obtain ⟨r, s'⟩ := a
  cases r with
  | error e => exact .pure ha
  | ok _ =>
    have hrest := s'.skip_local position
    rw [Local, ha.handle, hh] at hrest
    exact hrest.weaken fun _ hr => ha.trans hr

theorem seekTo_local (t : SeekTarget) : s.Local (s.seekTo t) := by
  unfold seekTo
  split
  · exact .pure (.refl s)
  · dsimp only
    -- both ways of moving end in the same answer
    split
    · refine .bind (s.skip_local _) fun a ha => ?_
      obtain ⟨r, s'⟩ := a
      cases r <;> exact .pure ha
    · refine .bind (s.seek_local _) fun a ha => ?_
      obtain ⟨r, s'⟩ := a
      cases r <;> exact .pure ha

end ContentStream

/-- Does the operation close its stream? -/
def StreamOp.closes : StreamOp → Bool
  | .close => true
  | _ => false

/-- Every operation but closing is local to its stream. -/
theorem StreamOp.run_local (s : ContentStream) (op : StreamOp) (h : op.closes = false) :
    s.Local (op.run s) := by
  cases op with
  | read n => exact .bind (s.read_local n) fun _ ha => .pure ha
  | readInto b => exact .bind (s.readInto_local b) fun _ ha => .pure ha
  | readToEnd n => exact .bind (s.readToEnd_local n) fun _ ha => .pure ha
  | available => exact .bind s.available_only fun _ _ => .pure (.refl s)
  | readAll => exact .bind s.readAll_local fun _ ha => .pure ha
  | readRange o n => exact .bind (s.readRange_local o n) fun _ ha => .pure ha
  | skip n => exact .bind (s.skip_local n) fun _ ha => .pure ha
  | mark => exact .bind s.setMark_local fun _ ha => .pure ha
  | reset b => exact .bind (s.reset_local b) fun _ ha => .pure ha
  | seek n => exact .bind (s.seek_local n) fun _ ha => .pure ha
  | seekTo t => exact .bind (s.seekTo_local t) fun _ ha => .pure ha
  | position => exact .pure (.refl s)
  | close => simp [closes] at h

end EpubAccess
