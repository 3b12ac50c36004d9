/-
  EpubAccess.Proofs.Fetches.Moves
  ────────────────────────────────
  The streams that a fetch opens, closes and hands over.

  `StreamMove` is what happens to one stream, and `StreamMove.Walk` the moves
  of a fetch that never has two of them: a stream is opened when none is held,
  and goes when it is closed or handed over.  Moves that walk are accounted
  for (`Walk.accounted`).  `Gateway.movesTo` reads the moves of some work off
  the engine's log, and every use of a fetch walks, whatever is refused on
  the way (`Fetch.run_went`, `Fetch.handOver_went`).
-/
import EpubAccess.Proofs.Lifetimes.Forward
import EpubAccess.Proofs.Ownership.Uses

namespace EpubAccess

open Stateful

/-! ## §1. Moves. -/

/-- What happens to a stream. -/
inductive StreamMove where
  | opened (h : Handle)
  | closed (h : Handle)
  | handedOver (h : Handle)
  deriving DecidableEq

namespace StreamMove

/-- The streams that were opened and neither closed nor handed over. -/
def outstanding (out : List Handle) : List StreamMove → List Handle
  | [] => out
  | .opened h :: ms => outstanding (h :: out) ms
  | .closed h :: ms | .handedOver h :: ms => outstanding (out.erase h) ms

/-- Every stream that was opened came to one end, or is the one that is held,
and there never was a second one. -/
structure Accounted (ms : List StreamMove) (held : Option Handle) : Prop where
  one : ∀ pre, pre <+: ms → (outstanding [] pre).length ≤ 1
  out : outstanding [] ms = held.toList
  once : ∀ h, ms.count (.opened h) ≤ 1
  ended : ∀ h, .opened h ∈ ms →
    ms.count (.closed h) + ms.count (.handedOver h) + held.toList.count h = 1
  own : ∀ h, .closed h ∈ ms ∨ .handedOver h ∈ ms → .opened h ∈ ms

/-- Moves of one who holds at most one stream: from the one held before to the
one held afterwards. -/
inductive Walk : Option Handle → List StreamMove → Option Handle → Prop
  | nil (a : Option Handle) : Walk a [] a
  | opened {h : Handle} {ms : List StreamMove} {b : Option Handle} (rest : Walk (some h) ms b) :
      Walk none (.opened h :: ms) b
  | closed {h : Handle} {ms : List StreamMove} {b : Option Handle} (rest : Walk none ms b) :
      Walk (some h) (.closed h :: ms) b
  | handedOver {h : Handle} {ms : List StreamMove} {b : Option Handle} (rest : Walk none ms b) :
      Walk (some h) (.handedOver h :: ms) b

namespace Walk

variable {a b c : Option Handle} {ms ms' : List StreamMove}

theorem append (h : Walk a ms b) (h' : Walk b ms' c) : Walk a (ms ++ ms') c := by
  induction h with
  | nil => exact h'
  | opened _ ih => exact .opened (ih h')
  | closed _ ih => exact .closed (ih h')
  | handedOver _ ih => exact .handedOver (ih h')

theorem outstanding (h : Walk a ms b) : StreamMove.outstanding a.toList ms = b.toList := by
  induction h with
  | nil => rfl
  | opened _ ih => exact ih
  | closed _ ih | handedOver _ ih =>
    simp only [StreamMove.outstanding, Option.toList_some, List.erase_cons_head]
    exact ih

/-- What begins a walk is one. -/
theorem of_prefix (h : Walk a ms b) {pre : List StreamMove} (hp : pre <+: ms) :
    ∃ c, Walk a pre c := by
  induction h generalizing pre with
  | nil a =>
    rw [List.prefix_nil.mp hp]
    exact ⟨a, .nil a⟩
  | opened _ ih | closed _ ih | handedOver _ ih =>
    -- the shorter walk is empty or makes the same first move
    rcases List.prefix_cons_iff.mp hp with rfl | ⟨rest, rfl, hrest⟩
    · exact ⟨_, .nil _⟩
    · obtain ⟨c, hc⟩ := ih hrest
      exact ⟨c, by constructor; exact hc⟩

/-- What was held or opened was closed, handed over, or is held. -/
theorem count (h : Walk a ms b) (x : Handle) :
    a.toList.count x + ms.count (.opened x)
      = ms.count (.closed x) + ms.count (.handedOver x) + b.toList.count x := by
  induction h with
  | nil => simp
  | opened _ ih | closed _ ih | handedOver _ ih =>
    simp only [List.count_cons, beq_iff_eq, reduceCtorEq, if_false, opened.injEq, closed.injEq,
      handedOver.injEq, Option.toList_some, Option.toList_none, List.count_nil] at ih ⊢
    omega

/-- A walk from nothing in which no stream is opened twice is accounted for. -/
theorem accounted (h : Walk none ms b) (hn : ∀ x, ms.count (.opened x) ≤ 1) : Accounted ms b := by
  have hcount := h.count
  simp only [Option.toList_none, List.count_nil, Nat.zero_add] at hcount
  refine ⟨fun pre hp => ?_, h.outstanding, hn, fun x hx => ?_, fun x hx => ?_⟩
  · -- the moves up to any moment walk too, so they end with one stream or none
    obtain ⟨c, hc⟩ := h.of_prefix hp
    rw [show StreamMove.outstanding [] pre = c.toList from hc.outstanding]
    cases c <;> simp
  · have := List.count_pos_iff.mpr hx
    have := hn x
    have := hcount x
    omega
  · refine List.count_pos_iff.mp ?_
    have := hcount x
    rcases hx with hx | hx
    · have := List.count_pos_iff.mpr hx
      omega
    · have := List.count_pos_iff.mpr hx
      omega

end Walk

end StreamMove

/-! ## §2. What work at the gateway shows. -/

/-- The stream that a call closes. -/
def Call.closing? : Call → Option Handle
  | closeStream h => some h
  | _ => none

/-- The stream that an event says was opened, and its length. -/
def Event.opening? : Event → Option (Handle × UInt64)
  | streamOpened h _ length => some (h, length)
  | _ => none

namespace Gateway

/-- The streams closed so far, by the calls of the engine. -/
def closings (g : Gateway) : List Handle := g.engine.log.filterMap Call.closing?

/-- The streams opened so far with their lengths, by what was reported. -/
def openings (g : Gateway) : List (Handle × UInt64) := g.events.toList.filterMap Event.opening?

/-- The handles that the engine issued since. -/
def issuedTo (g g' : Gateway) : List Handle :=
  (List.range' g.engine.issued (g'.engine.issued - g.engine.issued)).map Handle.issuedAfter

/-- The moves of work that leads from `g` to `g'`: what the engine issued and
what it was told to close.  The openings are told first, so that no moment
with two streams goes unseen. -/
def movesTo (g g' : Gateway) : List StreamMove :=
  (g.issuedTo g').map .opened ++ (g'.closings.drop g.closings.length).map .closed

/-- The openings that were reported since. -/
def openingsTo (g g' : Gateway) : List (Handle × UInt64) := g'.openings.drop g.openings.length

/-- Work in which the engine issued `n` handles, closed some streams, and
openings were reported. -/
structure Shows (g g' : Gateway) (n : Nat) (closed : List Handle)
    (opened : List (Handle × UInt64)) :
    Prop where
  issued : g'.engine.issued = g.engine.issued + n
  closings : g'.closings = g.closings ++ closed
  openings : g'.openings = g.openings ++ opened

namespace Shows

variable {g g' g'' : Gateway} {n n' : Nat} {cl cl' : List Handle} {op op' : List (Handle × UInt64)}

theorem refl (g : Gateway) : Shows g g 0 [] [] := ⟨rfl, by simp, by simp⟩

theorem trans (h : Shows g g' n cl op) (h' : Shows g' g'' n' cl' op') :
    Shows g g'' (n + n') (cl ++ cl') (op ++ op') :=
  ⟨by rw [h'.issued, h.issued, Nat.add_assoc], by rw [h'.closings, h.closings, List.append_assoc],
    by rw [h'.openings, h.openings, List.append_assoc]⟩

theorem issuedTo (h : Shows g g' n cl op) :
    g.issuedTo g' = (List.range' g.engine.issued n).map Handle.issuedAfter := by
  unfold Gateway.issuedTo
  rw [h.issued, Nat.add_sub_cancel_left]

theorem movesTo (h : Shows g g' n cl op) :
    g.movesTo g' = ((List.range' g.engine.issued n).map Handle.issuedAfter).map .opened
      ++ cl.map .closed := by
  unfold Gateway.movesTo
  rw [h.issuedTo, h.closings, List.drop_left]

theorem openingsTo (h : Shows g g' n cl op) : g.openingsTo g' = op := by
  unfold Gateway.openingsTo
  rw [h.openings, List.drop_left]

end Shows

/-- Work that opens and closes nothing and answers as `P` says. -/
def Quiet {α : Type} (P : α → Prop) (m : StateM Gateway α) : Prop :=
  ∀ g : Gateway, Shows g (m g).2 0 [] [] ∧ P (m g).1

namespace Quiet

variable {α β : Type} {P : α → Prop}

theorem pure {a : α} (h : P a) : Quiet P (pure a) := fun g => ⟨.refl g, h⟩

theorem bind {m : StateM Gateway α} {f : α → StateM Gateway β} {Q : β → Prop}
    (hm : Quiet P m) (hf : ∀ a, P a → Quiet Q (f a)) : Quiet Q (m >>= f) := by
  intro g
  obtain ⟨hg, ha⟩ := hm g
  obtain ⟨hg', hb⟩ := hf (m g).1 ha (m g).2
  exact ⟨hg.trans hg', hb⟩

theorem emit {e : Event} (he : e.opening? = none) : Quiet (fun _ => True) (Gateway.emit e) := by
  refine fun g => ⟨⟨rfl, by simp [closings, Gateway.emit, modify_apply], ?_⟩, trivial⟩
  show (g.events.push e).toList.filterMap _ = _
  simp [openings, he]

/-- A recorded operation of a cursor. -/
theorem onCursor (c : Call) (hc : c.closing? = none) (h : Handle) (absent : α)
    (f : Cursor → α × Cursor) :
    Quiet (fun _ => True) (call fun e => (e.record c).onCursor h absent f) := by
  intro g
  refine ⟨⟨(g.engine.record c).issued_onCursor h absent f, ?_, by simp [openings, call]⟩, trivial⟩
  show ((g.engine.record c).onCursor h absent f).2.log.filterMap _ = _
  have hlog : ((g.engine.record c).onCursor h absent f).2.log = g.engine.log ++ [c] := by
    rw [← g.engine.log_record]
    unfold Engine.onCursor
    split <;> rfl
  rw [hlog]
  simp [closings, hc]

theorem answerable {waiting : Faults → List α} {set : List α → Faults → Faults}
    {f : Engine → α × Engine} (hf : Quiet (fun _ => True) (Gateway.call f)) :
    Quiet (fun _ => True) (answerable waiting set f) := by
  intro g
  unfold Gateway.answerable
  split
  · exact hf g
  · exact ⟨⟨rfl, (List.append_nil _).symm, (List.append_nil _).symm⟩, trivial⟩

end Quiet

theorem readAll_quiet (h : Handle) (n : UInt64) : Quiet (fun _ => True) (readAll h n) :=
  .answerable (.onCursor (.readAll h) rfl h ByteArray.empty fun c => c.take n.toNat)

theorem readRange_quiet (h : Handle) (offset n : UInt64) :
    Quiet (fun _ => True) (readRange h offset n) :=
  .answerable (.onCursor (.readRange h offset n) rfl h
    (Except.error (EngineError.invalidHandle h)) fun c =>
    c.readRange offset.toNat n.toNat)

theorem available_quiet (h : Handle) : Quiet (fun _ => True) (available h) :=
  .answerable (.onCursor (.available h) rfl h 0 fun c => (UInt64.ofNat c.remaining, c))

/-- Opening a stream issues one handle, the next one, or none. -/
structure OpensNext (g : Gateway) (h? : Option Handle) (g' : Gateway) : Prop where
  shows : Shows g g' h?.toList.length [] []
  next : ∀ h ∈ h?, h = Handle.issuedAfter g.engine.issued

theorem resourceStream_opens (e : Engine) (h : Handle) (path : String) (raw ranged : Bool) :
    (e.resourceStream h path raw ranged).2.issued
        = e.issued + (e.resourceStream h path raw ranged).1.toList.length
      ∧ (e.resourceStream h path raw ranged).2.log = e.log
      ∧ ∀ s ∈ (e.resourceStream h path raw ranged).1, s = Handle.issuedAfter e.issued := by
  have hfound := e.issued_onPackage h none fun d => d.resources[path]?
  have hlog : (e.onPackage h none fun d => d.resources[path]?).2.log = e.log := by
    unfold Engine.onPackage
    split
    · split <;> rfl
    · rfl
  unfold Engine.resourceStream
  generalize e.onPackage h none (fun d => d.resources[path]?) = found at hfound hlog ⊢
  obtain ⟨_ | r, e'⟩ := found
  · exact ⟨hfound, hlog, fun s hs => absurd hs (by simp)⟩
  · refine ⟨congrArg (· + 1) hfound, hlog, fun s hs => ?_⟩
    rw [← Option.mem_some.mp hs, ← show e'.issued = e.issued from hfound]
    rfl

/-- A recorded opening of a stream, unless it is refused. -/
theorem refusable_opens (c : Call) (hc : c.closing? = none) (refusals : Faults → Nat)
    (set : Nat → Faults → Faults) (h : Handle) (path : String) (raw ranged : Bool) (g : Gateway) :
    OpensNext g
      (refusable refusals set (fun e => (e.record c).resourceStream h path raw ranged) g).1
      (refusable refusals set (fun e => (e.record c).resourceStream h path raw ranged) g).2 := by
  unfold refusable
  split
  · obtain ⟨hissued, hlog, hnext⟩ := resourceStream_opens (g.engine.record c) h path raw ranged
    refine ⟨⟨hissued, ?_, (List.append_nil _).symm⟩, hnext⟩
    show ((g.engine.record c).resourceStream h path raw ranged).2.log.filterMap _ = _
    rw [hlog, Engine.log_record]
    simp [closings, hc]
  · exact ⟨⟨rfl, (List.append_nil _).symm, (List.append_nil _).symm⟩,
      fun s hs => absurd hs (by simp)⟩

theorem openStream_opens (h : Handle) (path : String) (hint : UInt64) (ranged : Bool)
    (g : Gateway) :
    OpensNext g (openStream h path hint ranged g).1 (openStream h path hint ranged g).2 := by
  have h := refusable_opens (.openStream h path ranged) rfl Faults.refusedOpenStreams
    (fun n q => { q with refusedOpenStreams := n }) h path false ranged (noteHint hint g).2
  exact ⟨⟨h.shows.issued, h.shows.closings, h.shows.openings⟩, h.next⟩

theorem openRawStream_opens (h : Handle) (path : String) (hint : UInt64) (g : Gateway) :
    OpensNext g (openRawStream h path hint g).1 (openRawStream h path hint g).2 := by
  have h := refusable_opens (.openRawStream h path) rfl Faults.refusedOpenRawStreams
    (fun n q => { q with refusedOpenRawStreams := n }) h path true false (noteHint hint g).2
  exact ⟨⟨h.shows.issued, h.shows.closings, h.shows.openings⟩, h.next⟩

/-- What the engine says about a handle that it takes back is no opening. -/
theorem takeBack_notice (e : Engine) (h : Handle) :
    ∀ notice ∈ (e.takeBack h).1, notice.opening? = none := by
  unfold Engine.takeBack
  split
  · intro notice hn
    rw [← Option.mem_some.mp hn]
    rfl
  · dsimp only
    split
    · split
      · intro notice hn
        rw [← Option.mem_some.mp hn]
        rfl
      · exact fun _ hn => absurd hn (by simp)
    · exact fun _ hn => absurd hn (by simp)

/-- A handle taken back, with what the engine says about it. -/
theorem takeBack_shows (c : Call) (h : Handle) (g : Gateway) :
    Shows g (((call fun e => (e.record c).takeBack h) >>= emit? : StateM Gateway Unit) g).2 0
      c.closing?.toList [] := by
  have hissued := (g.engine.record c).issued_takeBack h
  have hnotice := takeBack_notice (g.engine.record c) h
  have hlog : ((g.engine.record c).takeBack h).2.log = g.engine.log ++ [c] := by
    rw [← g.engine.log_record]
    unfold Engine.takeBack
    split
    · rfl
    · dsimp only
      split
      · split <;> rfl
      · rfl
  rw [bind_apply]
  -- the call comes first, and then what the engine says about the handle
  show Shows g (emit? ((g.engine.record c).takeBack h).1
    { g with engine := ((g.engine.record c).takeBack h).2 }).2 0 _ []
  generalize (g.engine.record c).takeBack h = r at hissued hnotice hlog ⊢
  obtain ⟨notice, e⟩ := r
  have hcall : Shows g { g with engine := e } 0 c.closing?.toList [] := by
    refine ⟨hissued, ?_, (List.append_nil _).symm⟩
    show e.log.filterMap _ = _
    rw [hlog, List.filterMap_append]
    cases hc : c.closing? <;> simp [closings, hc]
  cases notice with
  | none => exact hcall
  | some e' =>
    have hboth := hcall.trans ((Quiet.emit (hnotice e' rfl)) _).1
    rw [List.append_nil] at hboth
    exact hboth

theorem closeStream_shows (h : Handle) (g : Gateway) : Shows g (closeStream h g).2 0 [h] [] :=
  takeBack_shows (.closeStream h) h g

end Gateway

/-! ## §3. Streams and packages. -/

open Gateway

namespace ContentStream

variable (s : ContentStream)

/-- A stream in the hands of its owner: of its kind, and not given back. -/
def IsOpen : Prop := s.handle = .take s.handle.handle .stream

variable {s} in
theorem IsOpen.of_handle {s' : ContentStream} (h : s.IsOpen) (hs : s'.handle = s.handle) :
    s'.IsOpen := by
  unfold IsOpen
  rw [hs]
  exact h

theorem ofHandle_shows (h : Handle) (path : String) (cap : UInt64) (g : Gateway) :
    (ofHandle h path cap g).1.handle = .take h .stream
      ∧ Shows g (ofHandle h path cap g).2 0 [] [(h, (ofHandle h path cap g).1.length)] := by
  have havailable := (available_quiet h g).1
  refine ⟨rfl, ?_⟩
  unfold ofHandle
  simp only [bind_apply, pure_apply]
  change Shows g (StreamEngine.available h g).2 0 [] [] at havailable
  generalize StreamEngine.available h g = r at havailable ⊢
  refine ⟨havailable.issued, havailable.closings, ?_⟩
  show (r.2.events.push (.streamOpened h path r.1)).toList.filterMap _ = _
  rw [Array.toList_push, List.filterMap_append]
  show r.2.openings ++ _ = _
  rw [havailable.openings, List.append_nil]
  rfl

/-- Reading everything opens and closes nothing and leaves the stream in the
same hands. -/
theorem readAll_quiet : Quiet (fun r => r.2.handle = s.handle) (s.readAll : StateM Gateway _) := by
  unfold readAll live
  cases s.handle.get? with
  | none =>
    exact .bind (.bind (.emit rfl) fun _ _ => .pure rfl) fun _ (ha : none = _) => ha ▸ .pure rfl
  | some h =>
    refine .bind (P := (· = some h)) (.pure rfl) fun _ ha => ha ▸ ?_
    exact .bind (Gateway.readAll_quiet h _) fun _ _ => .pure rfl

theorem readRange_quiet (offset n : UInt64) :
    Quiet (fun r => r.2.handle = s.handle) (s.readRange offset n : StateM Gateway _) := by
  unfold readRange live
  cases s.handle.get? with
  | none =>
    exact .bind (.bind (.emit rfl) fun _ _ => .pure rfl) fun _ (ha : none = _) => ha ▸ .pure rfl
  | some h =>
    refine .bind (P := (· = some h)) (.pure rfl) fun _ ha => ha ▸ ?_
    dsimp only
    split
    · exact .pure rfl
    · refine .bind (Gateway.readRange_quiet h offset _) fun r _ => ?_
      cases r <;> exact .pure rfl

/-- Closing a stream that is held closes it, and nothing else. -/
theorem close_shows (hs : s.IsOpen) (g : Gateway) :
    Shows g (s.close g : (Bool × ContentStream) × Gateway).2 0 [s.handle.handle] [] := by
  have hclose := closeStream_shows s.handle.handle g
  unfold close OwnedHandle.release OwnedHandle.giveBack
  rw [show s.handle.released = false by rw [hs]; rfl, show s.handle.kind = .stream by rw [hs]; rfl]
  simp only [Bool.false_eq_true, if_false, bind_apply, pure_apply]
  change Shows g (HandleSink.closeStream s.handle.handle g).2 0 [s.handle.handle] [] at hclose
  generalize HandleSink.closeStream s.handle.handle g = r at hclose ⊢
  have hnoted := hclose.trans ((Quiet.emit (e := .streamClosed s.handle.handle s.path) rfl) r.2).1
  rw [List.append_nil, List.append_nil] at hnoted
  exact hnoted

end ContentStream

namespace Package

variable (p : Package)

/-- Opening a stream gives one over the next handle, which is reported with
its length, or none. -/
structure Opens (g : Gateway) (s? : Option ContentStream) (g' : Gateway) : Prop where
  shows : Shows g g' s?.toList.length [] (s?.toList.map fun s => (s.handle.handle, s.length))
  next : ∀ s ∈ s?, s.handle = .take (Handle.issuedAfter g.engine.issued) .stream

theorem Opens.none {g g' : Gateway} (h : Shows g g' 0 [] []) : Opens g none g' :=
  ⟨h, fun _ hs => absurd hs (by simp)⟩

theorem streamOver_opens {path : String} {h? : Option Handle} {g g' : Gateway}
    (h : OpensNext g h? g') : Opens g (p.streamOver path h? g').1 (p.streamOver path h? g').2 := by
  cases h? with
  | none => exact .none h.shows
  | some x =>
    obtain ⟨hhandle, hshows⟩ := ContentStream.ofHandle_shows x path p.maxReadAll g'
    unfold streamOver
    simp only [bind_apply, pure_apply]
    generalize ContentStream.ofHandle x path p.maxReadAll g' = r at hhandle hshows ⊢
    have hboth := h.shows.trans hshows
    refine ⟨?_, fun s hs => ?_⟩
    · rw [List.append_nil, List.nil_append] at hboth
      rw [Option.toList_some, List.map_singleton, hhandle]
      exact hboth
    · rw [← Option.mem_some.mp hs, hhandle, h.next x rfl]

theorem openStream_opens (attached : Bool) (path : String) (ranged : Bool) (g : Gateway) :
    Opens g (p.openStream attached path ranged g).1 (p.openStream attached path ranged g).2 := by
  unfold openStream live
  cases p.handle.get? with
  | none => exact .none ((Quiet.emit (e := .closedPackageUsed .openStream p.handle.handle) rfl) g).1
  | some h =>
    cases attached with
    | false => exact .none ((Quiet.emit (e := .resourceUnreachable path) rfl) g).1
    | true => exact p.streamOver_opens (Gateway.openStream_opens h path p.bufferSizeHint ranged g)

theorem openRawStream_opens (attached : Bool) (path : String) (g : Gateway) :
    Opens g (p.openRawStream attached path g).1 (p.openRawStream attached path g).2 := by
  unfold openRawStream live
  cases p.handle.get? with
  | none =>
    exact .none ((Quiet.emit (e := .closedPackageUsed .openRawStream p.handle.handle) rfl) g).1
  | some h =>
    cases attached with
    | false => exact .none ((Quiet.emit (e := .resourceUnreachable path) rfl) g).1
    | true => exact p.streamOver_opens (Gateway.openRawStream_opens h path p.bufferSizeHint g)

end Package

/-! ## §4. Uses of a fetch. -/

namespace Fetch

variable (f : Fetch) (p : Package) (attached : Bool)

/-- The handle of the stream that is held. -/
def heldHandle? : Option Handle := f.stream.map fun s => s.handle.handle

/-- A stream that is held is open, and its length is noted. -/
def Holds : Prop := ∀ s, f.stream = some s → s.IsOpen ∧ f.contentLength = some s.length

theorem opening_opens (ranged : Bool) (g : Gateway) :
    Package.Opens g (f.opening p attached ranged g).1 (f.opening p attached ranged g).2 := by
  unfold opening
  cases f.raw with
  | true => exact p.openRawStream_opens attached f.path g
  | false => exact p.openStream_opens attached f.path ranged g

/-- What ensuring a stream comes to: one was held, one was opened, or there
was none and is none. -/
inductive Ensures (f : Fetch) (g : Gateway) :
    Except AccessError ContentStream × Fetch → Gateway → Prop
  | kept {s : ContentStream} (hs : f.stream = some s) : Ensures f g (.ok s, f) g
  | opened {s : ContentStream} {g' : Gateway} (hs : f.stream = none)
      (hh : s.handle = .take (Handle.issuedAfter g.engine.issued) .stream)
      (h : Shows g g' 1 [] [(s.handle.handle, s.length)]) :
      Ensures f g (.ok s, { f with stream := some s, contentLength := some s.length }) g'
  | failed {e : AccessError} {g' : Gateway} (hs : f.stream = none) (h : Shows g g' 0 [] []) :
      Ensures f g (.error e, f) g'

theorem ensureStream_ensures (ranged : Bool) (g : Gateway) :
    Ensures f g (f.ensureStream p attached ranged g).1 (f.ensureStream p attached ranged g).2 := by
  cases hs : f.stream with
  | some s =>
    rw [ensureStream_of_some hs]
    exact .kept hs
  | none =>
    cases hp : p.isClosed with
    | true =>
      rw [ensureStream_of_closed hs hp]
      exact .failed hs (.refl g)
    | false =>
      have hopens := f.opening_opens p attached ranged g
      rw [ensureStream_of_none hs hp, map_apply]
      generalize f.opening p attached ranged g = r at hopens ⊢
      obtain ⟨_ | s, g'⟩ := r
      · exact .failed hs hopens.shows
      · exact .opened hs (hopens.next s rfl) hopens.shows

/-- A use led from the fetch `f` to `f'`: its moves walk from the stream held
before to the one held afterwards, and the length is that of the stream that
was opened last. -/
structure Went (f : Fetch) (g : Gateway) (handed : Option Handle) (f' : Fetch) (g' : Gateway) :
    Prop where
  holds : f'.Holds
  moves : StreamMove.Walk f.heldHandle? (g.movesTo g' ++ handed.toList.map .handedOver)
    f'.heldHandle?
  length : f'.contentLength = ((g.openingsTo g').getLast?.map Prod.snd).or f.contentLength
  reported : (g.openingsTo g').map Prod.fst = g.issuedTo g'

/-- Work that opens and closes nothing may follow. -/
theorem Went.followed {f f' : Fetch} {g g' g'' : Gateway} {handed : Option Handle}
    (h : Went f g handed f' g') (hquiet : Shows g' g'' 0 [] []) : Went f g handed f' g'' := by
  have hissued : g.issuedTo g'' = g.issuedTo g' := by
    unfold Gateway.issuedTo
    rw [hquiet.issued, Nat.add_zero]
  have hmoves : g.movesTo g'' = g.movesTo g' := by
    unfold Gateway.movesTo
    rw [hissued, hquiet.closings, List.append_nil]
  have hopenings : g.openingsTo g'' = g.openingsTo g' := by
    unfold Gateway.openingsTo
    rw [hquiet.openings, List.append_nil]
  refine ⟨h.holds, ?_, ?_, ?_⟩
  · rw [hmoves]
    exact h.moves
  · rw [hopenings]
    exact h.length
  · rw [hopenings, hissued]
    exact h.reported

/-- A stream was ensured: the moves and what was reported so far. -/
theorem Ensures.shows {f : Fetch} {g g' : Gateway} {s : ContentStream} {f' : Fetch} (hf : f.Holds)
    (h : Ensures f g (.ok s, f') g') :
    f'.stream = some s ∧ f'.Holds ∧ ∃ n op, Shows g g' n [] op
      ∧ f'.contentLength = (op.getLast?.map Prod.snd).or f.contentLength
      ∧ op.map Prod.fst = (List.range' g.engine.issued n).map Handle.issuedAfter
      ∧ StreamMove.Walk f.heldHandle?
        (((List.range' g.engine.issued n).map Handle.issuedAfter).map .opened)
          (some s.handle.handle) := by
  cases h with
  | kept hs =>
    refine ⟨hs, hf, 0, [], .refl g, rfl, rfl, ?_⟩
    rw [heldHandle?, hs]
    exact .nil _
  | opened hs hh hshows =>
    refine ⟨rfl, fun s' hs' => ?_, 1, _, hshows, rfl, ?_, ?_⟩
    · rw [← Option.some.inj hs']
      exact ⟨by rw [ContentStream.IsOpen, hh]; rfl, rfl⟩
    · simp [hh, OwnedHandle.take]
    · rw [heldHandle?, hs, hh]
      exact .opened (.nil _)

/-- Closing the stream that is held, whatever was read from it. -/
theorem close_shows {f : Fetch} {s : ContentStream} (hs : f.stream = some s) (hopen : s.IsOpen)
    (g : Gateway) : (f.close g).1 = { f with stream := none }
      ∧ Shows g (f.close g).2 0 [s.handle.handle] [] := by
  have hclose := s.close_shows hopen g
  unfold close
  rw [hs]
  simp only [bind_apply, pure_apply]
  generalize s.close g = r at hclose ⊢
  exact ⟨trivial, hclose⟩

/-- A stream ensured, read from, and closed. -/
theorem Ensures.closed {f f' : Fetch} {g g' g'' : Gateway} {s s' : ContentStream} (hf : f.Holds)
    (h : Ensures f g (.ok s, f') g') (hquiet : Shows g' g'' 0 [] []) (hs : s'.handle = s.handle) :
    let closed := { f' with stream := some s' : Fetch }.close g''
    Went f g none closed.1 closed.2 ∧ closed.1.stream = none := by
  obtain ⟨hstream, hholds, n, op, hshows, hlength, hreported, hwalk⟩ := h.shows hf
  have hopen : s'.IsOpen := (hholds s hstream).1.of_handle hs
  obtain ⟨hresult, hclose⟩ :=
    close_shows (f := { f' with stream := some s' }) (s := s') rfl hopen g''
  intro closed
  change closed.1 = _ at hresult
  -- what was opened, nothing in between, and the one stream closed
  have hall : Shows g closed.2 n [s.handle.handle] op := by
    have hall := (hshows.trans hquiet).trans hclose
    simpa only [Nat.add_zero, List.nil_append, List.append_nil, hs] using hall
  have hnone : closed.1.stream = none := by rw [hresult]
  refine ⟨⟨fun _ h => absurd (hnone.symm.trans h) (by simp), ?_, ?_, ?_⟩, hnone⟩
  · rw [hall.movesTo, heldHandle?, heldHandle?, hnone]
    simp only [Option.toList_none, List.map_nil, List.append_nil, List.map_cons, Option.map_none]
    exact hwalk.append (.closed (.nil none))
  · rw [hall.openingsTo, hresult, ← hlength]
  · rw [hall.openingsTo, hall.issuedTo, hreported]

/-- Nothing was opened and nothing closed. -/
theorem Went.quiet {f : Fetch} {g g' : Gateway} (hf : f.Holds) (h : Shows g g' 0 [] []) :
    Went f g none f g' := by
  refine ⟨hf, ?_, ?_, ?_⟩
  · rw [h.movesTo]
    exact .nil _
  · rw [h.openingsTo]
    rfl
  · rw [h.openingsTo, h.issuedTo]
    rfl

/-- A use that found no stream, and said so. -/
theorem Ensures.refused {f : Fetch} {g g' : Gateway} {e : AccessError} {f' : Fetch} (hf : f.Holds)
    (h : Ensures f g (.error e, f') g') {x : Event} (hx : x.opening? = none) :
    f.stream = none ∧ f' = f ∧ Went f g none f' (emit x g').2 := by
  cases h with
  | failed hs hshows =>
    have hnoted := hshows.trans ((Quiet.emit hx) g').1
    exact ⟨hs, rfl, .quiet hf hnoted⟩

section Uses

variable {f : Fetch} (hf : f.Holds) (p : Package) (attached : Bool) (g : Gateway)

include hf

/-- **Reading everything** leaves no stream, whatever was refused. -/
theorem readAll_went : Went f g none (f.readAll p attached g).1.2 (f.readAll p attached g).2
    ∧ (f.readAll p attached g).1.2.stream = none := by
  have hensures := f.ensureStream_ensures p attached false g
  unfold readAll
  rw [bind_apply]
  generalize f.ensureStream p attached false g = r at hensures ⊢
  obtain ⟨⟨e | s, f'⟩, g'⟩ := r
  · obtain ⟨hs, hsame, hwent⟩ := hensures.refused hf (x := .fetchFailed .readAll f'.path e) rfl
    exact ⟨hwent, hsame ▸ hs⟩
  · have hread := s.readAll_quiet g'
    dsimp only
    rw [bind_apply]
    generalize s.readAll g' = x at hread ⊢
    exact hensures.closed hf hread.1 hread.2

/-- **Reading a range** leaves no stream, refused or not, empty or not. -/
theorem readRange_went (offset n : UInt64) :
    Went f g none (f.readRange p attached offset n g).1.2 (f.readRange p attached offset n g).2
      ∧ (f.readRange p attached offset n g).1.2.stream = none := by
  have hensures := f.ensureStream_ensures p attached true g
  unfold readRange
  rw [bind_apply]
  generalize f.ensureStream p attached true g = r at hensures ⊢
  obtain ⟨⟨e | s, f'⟩, g'⟩ := r
  · obtain ⟨hs, hsame, hwent⟩ := hensures.refused hf (x := .fetchFailed .readRange f'.path e) rfl
    exact ⟨hwent, hsame ▸ hs⟩
  · dsimp only
    split
    · -- nothing is read of an empty range
      have hclosed := hensures.closed hf (.refl g') (rfl : s.handle = s.handle)
      rw [show { f' with stream := some s } = f' by rw [← (hensures.shows hf).1]] at hclosed
      exact hclosed
    · have hread := s.readRange_quiet offset n g'
      rw [bind_apply]
      generalize s.readRange offset n g' = x at hread ⊢
      obtain ⟨⟨b | b, s'⟩, g''⟩ := x
      · have hnoted :=
          hread.1.trans ((Quiet.emit (e := .rangeReadFailed offset n f'.path b) rfl) g'').1
        exact hensures.closed hf hnoted hread.2
      · exact hensures.closed hf hread.1 hread.2

/-- **Closing** leaves no stream. -/
theorem close_went : Went f g none (f.close g).1 (f.close g).2 ∧ (f.close g).1.stream = none := by
  cases hs : f.stream with
  | none =>
    have hrun : f.close g = (f, g) := by
      unfold close
      rw [hs]
      rfl
    rw [hrun]
    exact ⟨.quiet hf (.refl g), hs⟩
  | some s =>
    have hclosed := (Ensures.kept (g := g) hs).closed hf (.refl g) (rfl : s.handle = s.handle)
    rw [show { f with stream := some s } = f by rw [← hs]] at hclosed
    exact hclosed

/-- **Handing the stream over** leaves none in the fetch. -/
theorem handOver_went (ranged : Bool) :
    Went f g ((f.handOver p attached ranged g).1.1.map fun s => s.handle.handle)
        (f.handOver p attached ranged g).1.2 (f.handOver p attached ranged g).2
      ∧ (f.handOver p attached ranged g).1.2.stream = none
      ∧ ∀ s, (f.handOver p attached ranged g).1.1 = some s →
          (f.handOver p attached ranged g).1.2.contentLength = some s.length := by
  have hensures := f.ensureStream_ensures p attached ranged g
  unfold handOver
  rw [bind_apply]
  generalize f.ensureStream p attached ranged g = r at hensures ⊢
  obtain ⟨⟨e | s, f'⟩, g'⟩ := r
  · obtain ⟨hs, hsame, hwent⟩ := hensures.refused hf (x := .fetchFailed .openStream f'.path e) rfl
    exact ⟨hwent, hsame ▸ hs, fun _ h => by cases h⟩
  · obtain ⟨hstream, hholds, n, op, hshows, hlength, hreported, hwalk⟩ := hensures.shows hf
    refine ⟨⟨fun _ h => absurd (show none = some _ from h) (by simp), ?_, ?_, ?_⟩, rfl,
      fun s' hs' => ?_⟩
    · show StreamMove.Walk f.heldHandle? (g.movesTo g' ++ [.handedOver s.handle.handle]) none
      rw [hshows.movesTo, List.map_nil, List.append_nil]
      exact hwalk.append (.handedOver (.nil none))
    · show f'.contentLength = ((g.openingsTo g').getLast?.map Prod.snd).or f.contentLength
      rw [hshows.openingsTo, hlength]
    · show (g.openingsTo g').map Prod.fst = g.issuedTo g'
      rw [hshows.openingsTo, hshows.issuedTo, hreported]
    · rw [← Option.some.inj hs']
      exact (hholds s hstream).2

/-- **Ensuring a stream**: done, there is one; failed, the fetch is as it was;
and with a stream held nothing happens at all. -/
theorem ensureStream_went (ranged : Bool) :
    let done := FetchOp.run f p attached (.ensureStream ranged) g
    Went f g none done.1.2 done.2
      ∧ (done.1.1 = .done ∧ done.1.2.hasStream = true
        ∨ (∃ e, done.1.1 = .failed e) ∧ done.1.2 = f ∧ f.hasStream = false)
      ∧ (f.hasStream = true → done = ((.done, f), g)) := by
  have hensures := f.ensureStream_ensures p attached ranged g
  simp only [FetchOp.run, bind_apply]
  generalize f.ensureStream p attached ranged g = r at hensures ⊢
  obtain ⟨⟨e | s, f'⟩, g'⟩ := r
  · cases hensures with
    | failed hs hshows =>
      have hnone : f.hasStream = false := by rw [hasStream, hs]; rfl
      exact ⟨.quiet hf hshows, .inr ⟨⟨e, rfl⟩, rfl, hnone⟩,
        fun h => absurd (hnone.symm.trans h) (by simp)⟩
  · obtain ⟨hstream, hholds, n, op, hshows, hlength, hreported, hwalk⟩ := hensures.shows hf
    have hhas : f'.hasStream = true := by rw [hasStream, hstream]; rfl
    refine ⟨⟨hholds, ?_, ?_, ?_⟩, .inl ⟨rfl, hhas⟩, fun h => ?_⟩
    · show StreamMove.Walk f.heldHandle? (g.movesTo g' ++ []) f'.heldHandle?
      rw [hshows.movesTo, List.map_nil, List.append_nil, List.append_nil,
        show f'.heldHandle? = some s.handle.handle by rw [heldHandle?, hstream]; rfl]
      exact hwalk
    · show f'.contentLength = ((g.openingsTo g').getLast?.map Prod.snd).or f.contentLength
      rw [hshows.openingsTo, hlength]
    · show (g.openingsTo g').map Prod.fst = g.issuedTo g'
      rw [hshows.openingsTo, hshows.issuedTo, hreported]
    · cases hensures with
      | kept => rfl
      | opened hs => exact absurd (show f.stream.isSome = true from h) (by simp [hs])

end Uses

end Fetch

/-- What a use leaves: a stream after one that ensured it, the same fetch after
one that failed to, and no stream after any other. -/
def FetchOp.Leaves (f : Fetch) (r : FetchReply) (f' : Fetch) : FetchOp → Prop
  | .ensureStream _ => r = .done ∧ f'.hasStream = true
    ∨ (∃ e, r = .failed e) ∧ f' = f ∧ f.hasStream = false
  | _ => f'.hasStream = false

/-- **Every use of a fetch** walks, and leaves what it is to leave. -/
theorem FetchOp.run_went {f : Fetch} (hf : f.Holds) (p : Package) (attached : Bool) (g : Gateway)
    (op : FetchOp) :
    Fetch.Went f g none (op.run f p attached g).1.2 (op.run f p attached g).2
      ∧ op.Leaves f (op.run f p attached g).1.1 (op.run f p attached g).1.2 := by
  have hnone : ∀ f' : Fetch, f'.stream = none → f'.hasStream = false := fun f' h => by
    rw [Fetch.hasStream, h]
    rfl
  cases op with
  | ensureStream ranged =>
    obtain ⟨hwent, hleaves, -⟩ := Fetch.ensureStream_went hf p attached g ranged
    exact ⟨hwent, hleaves⟩
  | readAll => exact (Fetch.readAll_went hf p attached g).imp_right (hnone _)
  | readRange offset n => exact (Fetch.readRange_went hf p attached g offset n).imp_right (hnone _)
  | close => exact (Fetch.close_went hf g).imp_right (hnone _)

end EpubAccess
