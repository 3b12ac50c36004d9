/-
  EpubAccess.Proofs.Streams.Interleaving
  ────────────────────────────────
  Streams among everything else that a host does.

  `Host.opening?` is the plain cursor over what a command opens, and the slot
  for the stream.  The stream follows the cursor from there on: through its
  own operations (`Follows.operate`), and through every command that does not
  name its slot, whatever else that closes, drops or registers
  (`Follows.ignore`).  So every answer of a stream is that of the plain cursor
  after the operations of the stream so far
  (`Host.stream_answers_as_plain_cursor`).
-/
import EpubAccess.Proofs.Ownership.Runs
import EpubAccess.Proofs.Streams.Sources

namespace EpubAccess

open Stateful

/-! ## §1. Commands that leave a stream open. -/

/-- Does the command leave the stream in a slot where it is and open? -/
def Command.spares (dest : String) : Command → Bool
  | .stream slot op => slot != dest || !op.closes
  | c => !c.writes.contains dest

/-- The operation of the stream in a slot that the command is, if it is one. -/
def Command.streamOp? (dest : String) : Command → Option StreamOp
  | .stream slot op => if slot = dest then some op else none
  | _ => none

/-- The error that an operation of a stream ended with. -/
def Answer.refusal? : Answer → Option AccessError
  | .streamReply (.failed e) _ => some e
  | _ => none

namespace Host

variable {w : Host} {slot dest : String} {r : PlainCursor}

/-- How a package opens a stream in some mode: past the filters, and for ranges. -/
def accessOf : StreamMode → Bool × Bool
  | .filtered ranged => (false, ranged)
  | .raw => (true, false)

/-- The slot that an opening fills and the plain cursor over what it opens;
none if the command opens no stream. -/
def opening? (w : Host) : Command → Option (String × PlainCursor)
  | .packageStream slot path mode dest =>
    match w.slots[slot]? with
    | some (.package k) => do
      let p ← w.packages.get? k
      let c ← p.source? (w.isAttached p) w.gateway.engine path (accessOf mode).1 (accessOf mode).2
      pure (dest, .ofCursor c p.maxReadAll)
    | _ => none
  | .rawStream slot path dest =>
    match w.slots[slot]? with
    | some (.container id) => do
      let b ← w.containers.get? id
      let c ← b.source? w.gateway.engine path
      pure (dest, .ofCursor c b.config.maxReadAll)
    | _ => none
  | .handOver slot ranged dest =>
    match w.slots[slot]? with
    | some (.fetch f) => do
      let p ← w.packages.get? f.package
      let r ← f.source? p (w.isAttached p) w.gateway.engine ranged
      pure (dest, r)
    | _ => none
  | _ => none

/-- The slot holds a stream that stands where the plain cursor stands. -/
def Follows (w : Host) (slot : String) (r : PlainCursor) : Prop :=
  ∃ s, w.slots[slot]? = some (.stream s) ∧ s.Follows w.gateway r

/-! ## §2. Opening. -/

/-- A stream in hand still follows when it was put into a slot. -/
theorem storeStream_follows {s : ContentStream} (hw : Sound True w ⟨[s.handle], [], [], []⟩)
    (hk : s.handle.kind = .stream) (h : s.Follows w.gateway r) :
    Follows (storeStream dest (some s) w).2 dest r := by
  have hfit : Fits True w.gateway.engine (.stream s) := .stream _ hk
  have hw' : Sound True w ⟨(Holding.stream s).handles ++ [], [], [], []⟩ := hw
  have hstore : Reaches True (fun _ => True) 0 w (store dest (.stream s) w).2 .none :=
    store_reaches hw' trivial hfit (by simp) (by simp)
  obtain ⟨hslot, hlive⟩ :=
    store_stored (m := dest) (o := .stream s) hw' hfit (fun _ h => .inr h) (fun _ h => .inr h)
  refine ⟨s, hslot, h.stayed (hstore.sound.calm trivial) ?_⟩
  exact (hlive s.handle rfl).trans h.cursor

/-- What an opening found is followed by what it put into the slot. -/
theorem openInto_follows {m : StateM Gateway (Option ContentStream)} {found : Option Cursor}
    {cap : UInt64} {c : Cursor} (hw : Sound True w .none)
    (hm : Opened w.held [] found cap w.gateway (m w.gateway).1 (m w.gateway).2)
    (hc : found = some c) (hstart : c.position = 0 ∧ c.mark = 0) :
    Follows (storeStream dest (m w.gateway).1 { w with gateway := (m w.gateway).2 }).2 dest
      (.ofCursor c cap) := by
  obtain ⟨s, hs, hfollows⟩ := hm.follows (hw.calm trivial) hc hstart
  have hmoved := hm.moved
  have hkind := hm.kind s hs
  rw [hs, List.append_nil] at hmoved
  have hgate := Reaches.gateway (T := fun _ => True) hw hmoved
  rw [hs]
  exact storeStream_follows hgate.sound hkind hfollows

theorem packageStream_follows (hw : Sound True w .none) {path dest' : String} {mode : StreamMode}
    (h : w.opening? (.packageStream slot path mode dest') = some (dest, r)) :
    Follows (run (.packageStream slot path mode dest') w).2 dest r := by
  unfold opening? at h
  dsimp only at h
  split at h
  · next k ho =>
    obtain ⟨p, hp, h⟩ := Option.bind_eq_some_iff.mp h
    obtain ⟨c, hc, h⟩ := Option.bind_eq_some_iff.mp h
    cases h
    obtain ⟨hheld, hkind⟩ := hw.held_package hp
    have hstart := Package.source?_start hc
    show Follows (withPackage slot _ w).2 dest _
    rw [withPackage_some ho hp]
    cases mode with
    | filtered ranged =>
      exact openInto_follows hw
        (Package.openStream_opened hw.ledger hheld hkind (w.isAttached p) path ranged) hc hstart
    | raw =>
      exact openInto_follows hw
        (Package.openRawStream_opened hw.ledger hheld hkind (w.isAttached p) path false) hc hstart
  · exact absurd h (by simp)

theorem rawStream_follows (hw : Sound True w .none) {path dest' : String}
    (h : w.opening? (.rawStream slot path dest') = some (dest, r)) :
    Follows (run (.rawStream slot path dest') w).2 dest r := by
  unfold opening? at h
  dsimp only at h
  split at h
  · next id ho =>
    obtain ⟨b, hb, h⟩ := Option.bind_eq_some_iff.mp h
    obtain ⟨c, hc, h⟩ := Option.bind_eq_some_iff.mp h
    cases h
    obtain ⟨hheld, hkind⟩ := hw.held_container hb
    show Follows (withContainer slot _ w).2 dest _
    rw [withContainer_some ho hb]
    exact openInto_follows hw (Container.rawStream_opened hw.ledger hheld hkind path) hc
      (Container.source?_start hc)
  · exact absurd h (by simp)

theorem handOver_follows (hw : Sound True w .none) {ranged : Bool} {dest' : String}
    (h : w.opening? (.handOver slot ranged dest') = some (dest, r)) :
    Follows (run (.handOver slot ranged dest') w).2 dest r := by
  unfold opening? at h
  dsimp only at h
  split at h
  · next f ho =>
    obtain ⟨p, hp, h⟩ := Option.bind_eq_some_iff.mp h
    obtain ⟨r', hr, h⟩ := Option.bind_eq_some_iff.mp h
    cases h
    obtain ⟨hheld, hkind⟩ := hw.held_package hp
    have hledger := (Reaches.takeOut (T := fun _ => True) hw trivial ho).sound.ledger
    rw [Holding.handles_fetch] at hledger
    obtain ⟨s, hs, hfollows⟩ := Fetch.handOver_follows (i := Place.package f.package) hledger hheld
      hkind (hw.calm trivial) (hw.fetches slot f ho) hr
    obtain ⟨hact, hstream⟩ := handOver_reaches (T := fun _ => True) ranged hw trivial ho hp
    have hsound := hact.sound
    rw [hs] at hsound
    show Follows (withFetch slot _ w).2 dest _
    rw [withFetch_some ho hp]
    show Follows (storeStream dest (f.handOver p (w.isAttached p) ranged w.gateway).1.1 _).2 dest _
    rw [hs]
    exact storeStream_follows hsound (hstream s hs) hfollows
  · exact absurd h (by simp)

/-- **A command that opens a stream** leaves one that follows the plain cursor. -/
theorem opening_follows (hw : Sound True w .none) (c : Command)
    (h : w.opening? c = some (dest, r)) :
    Follows (run c w).2 dest r := by
  cases c with
  | packageStream slot path mode dest' => exact packageStream_follows hw h
  | rawStream slot path dest' => exact rawStream_follows hw h
  | handOver slot ranged dest' => exact handOver_follows hw h
  | _ => exact absurd h (by simp [opening?])

/-! ## §3. One command. -/

/-- A command that does not name the slot leaves the stream where it stands. -/
theorem Follows.ignore (hw : Sound True w .none) (h : Follows w dest r) {c : Command}
    (hc : c.isCalm = true) (hm : dest ∉ c.writes) : Follows (run c w).2 dest r := by
  obtain ⟨s, hs, hfollows⟩ := h
  have hrun := run_reaches_of_calm hc hw
  obtain ⟨new, hev⟩ := hrun.evolves
  refine ⟨s, (hev.slots dest hm).trans hs, hfollows.stayed (hrun.sound.calm trivial) ?_⟩
  exact (hev.live dest hm s.handle (held_slot hs)).trans hfollows.cursor

/-- An operation of the stream is answered as by the plain cursor. -/
theorem Follows.operate (h : Follows w dest r) {op : StreamOp} (hop : op.closes = false) :
    (∃ s, (run (.stream dest op) w).1 = .streamReply (r.answer op).1 s)
      ∧ Follows (run (.stream dest op) w).2 dest (r.answer op).2 := by
  obtain ⟨s, hs, hfollows⟩ := h
  obtain ⟨ha, hf⟩ := StreamOp.run_follows hfollows op hop
  rw [run_stream hs op, ha]
  exact ⟨⟨_, rfl⟩, _, by simp, hf⟩

/-- Whatever a calm command does that spares the stream, the stream follows. -/
theorem Follows.run (hw : Sound True w .none) (h : Follows w dest r) {c : Command}
    (hc : c.isCalm = true) (hs : c.spares dest = true) :
    Follows (run c w).2 dest (r.after (c.streamOp? dest).toList) := by
  -- among the commands that spare the stream only its own operations name its slot
  by_cases hm : dest ∈ c.writes
  · cases c with
    | stream slot op =>
      have hslot : dest = slot := by simpa [Command.writes] using hm
      subst hslot
      have hop : op.closes = false := by simpa [Command.spares] using hs
      have hsome : (Command.stream dest op).streamOp? dest = some op := if_pos rfl
      rw [hsome]
      exact (h.operate hop).2
    | _ => simp [Command.spares, hm] at hs
  · have hnone : c.streamOp? dest = none := by
      cases c with
      | stream slot op => exact if_neg fun heq => hm (by simp [Command.writes, heq])
      | _ => rfl
    rw [hnone]
    exact h.ignore hw hc hm

/-! ## §4. Whole runs. -/

/-- A stream follows through a whole run that spares it. -/
theorem Follows.after {cs : List Command} (hc : ∀ c ∈ cs, c.isCalm = true)
    (hs : ∀ c ∈ cs, c.spares dest = true) (hw : Sound True w .none) (h : Follows w dest r) :
    Follows (after cs w) dest (r.after (cs.filterMap (Command.streamOp? dest))) := by
  -- the induction is on the commands; the cursor goes through the operations of
  -- the stream alone
  induction cs generalizing w r with
  | nil => exact h
  | cons c cs ih =>
    have hone := (run_reaches_of_calm (hc c (List.mem_cons_self ..)) hw).sound
    have hstep := h.run hw (hc c (List.mem_cons_self ..)) (hs c (List.mem_cons_self ..))
    have hrest := ih (fun d hd => hc d (List.mem_cons_of_mem _ hd))
      (fun d hd => hs d (List.mem_cons_of_mem _ hd)) hone hstep
    rw [after_cons]
    cases hop : c.streamOp? dest with
    | none =>
      rw [List.filterMap_cons_none hop]
      rw [hop] at hrest
      exact hrest
    | some op =>
      rw [List.filterMap_cons_some hop]
      rw [hop] at hrest
      exact hrest

/-- **A stream refines a plain cursor.**  Whatever a host did before, and
however it opens a stream: among any other commands, every operation of the
stream answers as the plain cursor over the bytes that were opened, started at
position and mark zero and taken through the operations of the stream so far.
The host goes through the library and prepares no fault. -/
theorem stream_answers_as_plain_cursor (before between : List Command) (opening : Command)
    (dest : String) (r : PlainCursor) (op : StreamOp)
    (hcalm : ∀ c ∈ before ++ opening :: between, c.isCalm = true)
    (hopening : (after before fresh).opening? opening = some (dest, r))
    (hspares : ∀ c ∈ between, c.spares dest = true) (hop : op.closes = false) :
    ∃ s, (run (.stream dest op) (after (before ++ opening :: between) fresh)).1
      = .streamReply ((r.after (between.filterMap (Command.streamOp? dest))).answer op).1 s := by
  have hbefore : Sound True (after before fresh) .none :=
    sound_of_calm (fun c h => hcalm c (List.mem_append_left _ h)) (.fresh True)
  have hcalm' : ∀ c ∈ opening :: between, c.isCalm = true := fun c h =>
    hcalm c (List.mem_append_right _ h)
  have hopened := (run_reaches_of_calm (hcalm' opening (List.mem_cons_self ..)) hbefore).sound
  have hfollows := (opening_follows hbefore opening hopening).after
    (fun c h => hcalm' c (List.mem_cons_of_mem _ h)) hspares hopened
  rw [after_append, after_cons]
  exact (hfollows.operate hop).1

/-- The plain cursor over the resource of the sample archive. -/
def sampleCursor : PlainCursor :=
  .start sampleContents false false Config.default.maxReadAll.toNat

/-- What else happens: a read, then the archive is replaced and the package
and its container are closed. -/
def sampleInterlude : List Command :=
  [.stream "stream" (.read 2), .register "book" .empty, .package "package" .close,
    .container "container" .close]

theorem stream_answers_as_plain_cursor_sample :
    (after samplePreparation fresh).opening? sampleOpening = some ("stream", sampleCursor)
      ∧ ∃ s, (run (.stream "stream" (.read 5))
          (after (samplePreparation ++ sampleOpening :: sampleInterlude) fresh)).1
        = .streamReply (.bytes ⟨#[99]⟩) s := by
  have hopening : (after samplePreparation fresh).opening? sampleOpening
      = some ("stream", sampleCursor) := by decide +kernel
  exact ⟨hopening, stream_answers_as_plain_cursor samplePreparation sampleInterlude sampleOpening
    "stream" sampleCursor (.read 5) (by decide) hopening (by decide) rfl⟩

/-- Not every stream moves: the content behind this one goes through filters,
so skipping one of its three bytes is refused. -/
theorem filtered_stream_refuses_skip :
    (after samplePreparation fresh).opening? sampleOpening = some ("stream", sampleCursor)
      ∧ min 1 (sampleCursor.size - sampleCursor.position) = 1
      ∧ (run (.stream "stream" (.skip 1)) (after sampleSession fresh)).1.refusal?
          = some (.engine (.unsupported "skip")) := by
  decide +kernel

end Host

end EpubAccess
