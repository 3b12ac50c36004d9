/-
  EpubAccess.Proofs.Streams.Seeking
  ────────────────────────────────
  Moves to a target, and rewinding and skipping.

  `ContentStream.seekTo` reaches a target at or behind the position by skipping
  alone, and one before it by `ContentStream.seek`.  Both ways end at the same
  place: `PlainCursor.seekTo_of_seekable` says where, in terms of the bytes.
  A target that is no position is refused before the engine is asked
  (`ContentStream.seekTo_outside`).  A stream that cannot move answers only
  where it need not move.

  `Host.target_moves_seek` puts this together for every open stream of a fair
  run while no fault waits.
-/
import EpubAccess.Proofs.Engine.Calls
import EpubAccess.Proofs.Streams.Standing

namespace EpubAccess

open Stateful Gateway

/-- The kind of the I/O error that an operation of a stream ended with. -/
def Answer.ioKind? : Answer → Option IoErrorKind
  | .streamReply (.ioFailed e) _ => some e.kind
  | _ => none

/-! ## §1. Targets as numbers. -/

namespace ContentStream

variable {s : ContentStream} {t : SeekTarget}

/-- The number that a target denotes, be it a position or not. -/
def targetSum (s : ContentStream) : SeekTarget → Int
  | .fromStart n => n.toNat
  | .fromCurrent n => s.position.toNat + n.toInt
  | .fromEnd n => s.length.toNat + n.toInt

/-- A displaced base is the word that has the sum as its number. -/
theorem displaced?_eq_some_iff {base : UInt64} {n : Int64} {k : UInt64} :
    displaced? base n = some k ↔ (base.toNat : Int) + n.toInt = k.toNat := by
  unfold displaced?
  dsimp only
  have hk : k.toNat < UInt64.size := k.toNat_lt
  constructor
  · intro h
    split at h
    · next hsum =>
      have hword : (UInt64.ofNat ((base.toNat : Int) + n.toInt).toNat).toNat
          = ((base.toNat : Int) + n.toInt).toNat := UInt64.toNat_ofNat_of_lt' (by omega)
      rw [← Option.some.inj h, hword]
      omega
    · exact absurd h (by simp)
  · intro h
    rw [h, if_pos (by omega), Int.toNat_natCast, UInt64.ofNat_toNat]

/-- A target is the position whose number it denotes. -/
theorem target?_eq_some_iff {k : UInt64} : s.target? t = some k ↔ s.targetSum t = k.toNat := by
  cases t with
  | fromStart n =>
    show some n = some k ↔ (n.toNat : Int) = k.toNat
    rw [Option.some.injEq, Int.ofNat_inj, UInt64.toNat_inj]
  | fromCurrent n => exact displaced?_eq_some_iff
  | fromEnd n => exact displaced?_eq_some_iff

/-- A number outside the words is no position. -/
theorem target?_eq_none (h : s.targetSum t < 0 ∨ UInt64.size ≤ s.targetSum t) :
    s.target? t = none := by
  cases ht : s.target? t with
  | none => rfl
  | some k =>
    have hk : k.toNat < UInt64.size := k.toNat_lt
    rw [target?_eq_some_iff] at ht
    omega

/-! ## §2. Moves that do not reach the engine. -/

variable {g : Gateway} {k : UInt64}

theorem seekTo_outside (h : s.targetSum t < 0 ∨ UInt64.size ≤ s.targetSum t) :
    s.seekTo t g = ((.error seekBeforeStart, s), g) := by
  unfold ContentStream.seekTo
  rw [target?_eq_none h]
  rfl

/-- There is nothing to skip on the way to the target. -/
theorem seekTo_nearby (hopen : s.handle.released = false) (ht : s.target? t = some k)
    (hle : s.position ≤ k) (hz : min (k - s.position) s.remaining = 0) :
    s.seekTo t g = ((.ok s.position, s), g) := by
  have hskip : s.skip (k - s.position) = (pure (.ok 0, s) : StateM Gateway _) := by
    unfold ContentStream.skip
    rw [live_of_open hopen, pure_bind]
    dsimp only
    rw [if_pos hz]
  rw [seekTo_of_target ht, if_pos hle, hskip]
  rfl

/-! ## §3. The calls of a skip. -/

/-- Skipping calls the engine at most once, to skip. -/
theorem skip_calls (hopen : s.handle.released = false) (hcalm : g.faults = .none) (n : UInt64) :
    ∃ new, Calls (s.skip n) g new ∧ (new = [] ∨ ∃ count, new = [.skip s.handle.handle count]) := by
  unfold ContentStream.skip
  rw [live_of_open hopen, pure_bind]
  dsimp only
  split
  · exact ⟨[], .pure _, .inl rfl⟩
  · exact ⟨_, (Gateway.skip_calls hcalm _).answer fun r _ => by cases r <;> rfl, .inr ⟨_, rfl⟩⟩

/-- So does moving to a target that is not before the position. -/
theorem seekTo_calls (hopen : s.handle.released = false) (hcalm : g.faults = .none)
    (ht : s.target? t = some k) (hle : s.position ≤ k) :
    ∃ new, Calls (s.seekTo t) g new
      ∧ (new = [] ∨ ∃ count, new = [.skip s.handle.handle count]) := by
  obtain ⟨new, hnew, hskips⟩ := skip_calls hopen hcalm (k - s.position)
  rw [seekTo_of_target ht, if_pos hle]
  exact ⟨new, hnew.answer fun _ _ => rfl, hskips⟩

end ContentStream

/-! ## §4. Where moves to a target end. -/

namespace PlainCursor

variable {r : PlainCursor} {t : ContentStream.SeekTarget} {k : Nat}

/-- Nothing lies between the position and where it is to move. -/
theorem Within.nearby_iff (h : r.Within) :
    (r.position ≤ k ∧ min (k - r.position) r.left = 0)
      ↔ k = r.position ∨ r.position = r.size ∧ r.size ≤ k := by
  have hp := h.position
  unfold left
  omega

/-- **Both ways to a target end at the same place** if the bytes can move. -/
theorem Within.seekTo_of_seekable (h : r.Within) (hcan : r.seekable = true)
    (ht : r.target? t = some k) :
    r.seekTo t = (.ok (min k r.size), r.moveTo k)
      ∧ r.seek k = (.ok (min k r.size), r.moveTo k) := by
  have hseek : r.seek k = (.ok (min k r.size), r.moveTo k) := by
    unfold PlainCursor.seek
    rw [if_pos hcan]
  refine ⟨?_, hseek⟩
  unfold PlainCursor.seekTo
  rw [ht]
  dsimp only
  by_cases hle : r.position ≤ k
  · rw [if_pos hle]
    unfold PlainCursor.skip
    have hforward : r.position + (k - r.position) = k := by omega
    by_cases hz : min (k - r.position) r.left = 0
    · -- the cursor stands there already
      have hstay : min k r.size = r.position := by
        have hp := h.position
        rcases h.nearby_iff.mp ⟨hle, hz⟩ with rfl | ⟨hend, hk⟩ <;> omega
      rw [if_pos hz]
      unfold PlainCursor.moveTo
      rw [hstay]
      rfl
    · rw [if_neg hz, if_pos hcan]
      unfold PlainCursor.advance
      rw [hforward]
      rfl
  · rw [if_neg hle, hseek]
    rfl

/-- Bytes that cannot move refuse every target but those where nothing moves. -/
theorem Within.seekTo_of_fixed (h : r.Within) (hcan : r.seekable = false)
    (ht : r.target? t = some k) (hfar : ¬ (k = r.position ∨ r.position = r.size ∧ r.size ≤ k)) :
    ∃ what, r.seekTo t = (.error (refusal what).toIoError, r) := by
  rw [← h.nearby_iff] at hfar
  unfold PlainCursor.seekTo
  rw [ht]
  dsimp only
  by_cases hle : r.position ≤ k
  · rw [if_pos hle]
    unfold PlainCursor.skip
    rw [if_neg fun hz => hfar ⟨hle, hz⟩, hcan, if_neg Bool.false_ne_true]
    exact ⟨_, rfl⟩
  · rw [if_neg hle]
    unfold PlainCursor.seek
    rw [hcan, if_neg Bool.false_ne_true]
    exact ⟨_, rfl⟩

/-- A refusal is no more than that the bytes do not support it. -/
theorem refusal_kind (what : String) : (refusal what).toIoError.kind = .unsupported := rfl

end PlainCursor

/-! ## §5. Streams of a host. -/

namespace Host

variable {w : Host} {slot : String} {s : ContentStream} {r : PlainCursor}
    {t : ContentStream.SeekTarget}
  {k : UInt64} {c : Cursor}

/-- The command moved the stream in the slot, and the engine's cursor with it,
to `k` or to the end, says where that is, and left both marks. -/
structure LandsAt (k : UInt64) (slot : String) (s : ContentStream) (c : Cursor)
    (x : Answer × Host) :
    Prop where
  answer : x.1 = .streamReply (.number (min k s.length)) { s with position := min k s.length }
  inStep : InStep x.2 slot { s with position := min k s.length }
    { c with position := (min k s.length).toNat }

/-- The command was not supported by the content: nothing that is held or live
changed. -/
structure Unsupported (w : Host) (s : ContentStream) (x : Answer × Host) : Prop where
  answer : ∃ e, e.kind = .unsupported ∧ x.1 = .streamReply (.ioFailed e) s
  slots : x.2.slots = w.slots
  live : ∀ h : Handle, x.2.gateway.engine.live[h]? = w.gateway.engine.live[h]?

/-- The same object put into its slot again. -/
theorem insert_same {slots : Std.ExtTreeMap String Holding} {o : Holding}
    (h : slots[slot]? = some o) :
    slots.insert slot o = slots := by
  refine Std.ExtTreeMap.ext_getElem? fun l => ?_
  rw [Std.ExtTreeMap.getElem?_insert]
  split
  · next heq =>
    rw [← h, Std.LawfulEqCmp.eq_of_compare heq]
  · rfl

/-- An operation that changes neither the stream nor the gateway changes nothing. -/
theorem run_stream_same (hs : w.slots[slot]? = some (.stream s)) {op : StreamOp} {a : StreamReply}
    (h : op.run s w.gateway = ((a, s), w.gateway)) :
    run (.stream slot op) w = (.streamReply a s, w) := by
  rw [run_stream hs op, h]
  dsimp only
  rw [insert_same hs]

/-- A move that the plain cursor makes to `k` or to the end. -/
theorem landsAt_of_does (hs : w.slots[slot]? = some (.stream s)) (h : s.Follows w.gateway r)
    {op : StreamOp} (hop : op.closes = false)
    (hmove : r.answer op = (.number (.ofNat (min k.toNat r.size)), r.moveTo k.toNat)) :
    LandsAt k slot s r.behind (run (.stream slot op) w) := by
  have hlands : min k.toNat r.size = (min k s.length).toNat := by
    rw [toNat_min, h.length]
  have hdoes := StreamOp.run_follows h op hop
  have hsame := (StreamOp.run_local s op hop w.gateway h.agrees.serves).2
  rw [hmove] at hdoes
  obtain ⟨ha, hfollows⟩ := hdoes
  have hplaced := h.agrees.placed hfollows.agrees hsame rfl
  rw [show (r.moveTo k.toNat).position = (min k s.length).toNat from hlands, UInt64.ofNat_toNat]
    at hplaced
  rw [hlands, UInt64.ofNat_toNat] at ha
  have hagrees := hfollows.agrees
  rw [hplaced] at hagrees
  have hbehind : ({ r.behind with position := (min k s.length).toNat } : Cursor)
      = (r.moveTo k.toNat).behind := by
    rw [← hlands]
    rfl
  rw [run_stream hs op]
  refine ⟨?_, ?_⟩
  · rw [ha, hplaced]
  · rw [hbehind]
    refine .of_agrees ?_ hagrees
    rw [hplaced]
    exact insert_self _ _ _

/-- An operation that the plain cursor refuses as not supported. -/
theorem unsupported_of_does (hs : w.slots[slot]? = some (.stream s)) (h : s.Follows w.gateway r)
    {what : String} (hmove : r.seekTo t = (.error (PlainCursor.refusal what).toIoError, r)) :
    Unsupported w s (run (.stream slot (.seekTo t)) w) := by
  have hdoes := StreamOp.run_follows h (.seekTo t) rfl
  obtain ⟨huses, hsame⟩ := StreamOp.run_local s (.seekTo t) rfl w.gateway h.agrees.serves
  have hanswer : r.answer (.seekTo t) = (.ioFailed (PlainCursor.refusal what).toIoError, r) := by
    show (StreamReply.ofIoNumber ((r.seekTo t).1.map .ofNat), (r.seekTo t).2) = _
    rw [hmove]
    rfl
  rw [hanswer] at hdoes
  obtain ⟨ha, hfollows⟩ := hdoes
  have hplaced : (StreamOp.run s (.seekTo t) w.gateway).1.2 = s := by
    refine (h.agrees.placed hfollows.agrees hsame rfl).trans ?_
    rw [ofNat_of_toNat h.position]
  rw [run_stream hs]
  refine ⟨⟨_, PlainCursor.refusal_kind what, ?_⟩, ?_, fun x => ?_⟩
  · rw [ha, hplaced]
  · show w.slots.insert slot _ = w.slots
    rw [hplaced]
    exact insert_same hs
  · by_cases hx : x = s.handle.handle
    · have hcursor := hfollows.cursor
      rw [hplaced] at hcursor
      rw [hx]
      exact hcursor.trans h.cursor.symm
    · refine huses.engine.live x ?_
      rw [OwnedHandle.get?_eq_some h.isOpen]
      exact fun heq => hx (Option.some.inj heq)

/-- **Moves to a target agree with rewinding and skipping.**  Take any fair
run, any open stream that a slot holds then, and any target, while no fault
waits.  A target that is no position fails and changes nothing, whatever the
stream.  A stream that moves answers with the target or the end, whichever comes
first, and stands where seeking the target would have left it; behind the
position it gets there by one skip at most.  A stream that does not move answers
with its position if it need not move, without a call, and otherwise fails as
not supported and leaves everything as it is. -/
theorem target_moves_seek (cs : List Command) (hcs : ∀ c ∈ cs, c.isFair = true) (slot : String)
    (s : ContentStream) (hs : (after cs fresh).streamAt? slot = some s) (hopen : s.isClosed = false)
    (hcalm : (after cs fresh).gateway.faults = .none) (t : ContentStream.SeekTarget) :
    let w := after cs fresh
    let x := run (.stream slot (.seekTo t)) w
    ∃ c, InStep w slot s c ∧ s.length.toNat = c.contents.size
      ∧ ((s.targetSum t < 0 ∨ UInt64.size ≤ s.targetSum t) →
          x = (.streamReply (.ioFailed ContentStream.seekBeforeStart) s, w))
      ∧ ∀ k : UInt64, s.targetSum t = k.toNat →
          (c.seekable = true →
            LandsAt k slot s c x ∧ LandsAt k slot s c (run (.stream slot (.seek k)) w)
            ∧ (s.position ≤ k → ∃ new, x.2.log = w.log ++ new
                ∧ (new = [] ∨ ∃ n, new = [.skip s.handle.handle n])))
          ∧ (c.seekable = false →
              (k = s.position ∨ s.position = s.length ∧ s.length ≤ k) →
              x = (.streamReply (.number s.position) s, w))
          ∧ (c.seekable = false →
              ¬ (k = s.position ∨ s.position = s.length ∧ s.length ≤ k) → Unsupported w s x) := by
  intro w x
  have hw : Standing w := standing_after hcs .fresh
  have hslot := slot_of_streamAt? hs
  obtain ⟨r, hagrees⟩ := hw.agrees hslot hopen
  have hfollows := hagrees.follows hcalm
  refine ⟨r.behind, .of_agrees hslot hagrees, hagrees.length, ?_, ?_⟩
  · intro houtside
    apply run_stream_same hslot
    show ((s.seekTo t >>= _) w.gateway) = _
    rw [bind_apply, ContentStream.seekTo_outside houtside]
    rfl
  · intro k hk
    have htarget : s.target? t = some k := ContentStream.target?_eq_some_iff.mpr hk
    have hplain : r.target? t = some k.toNat := by
      rw [← hfollows.target? t, htarget]
      rfl
    have hnear : (k = s.position ∨ s.position = s.length ∧ s.length ≤ k)
        ↔ (k.toNat = r.position ∨ r.position = r.size ∧ r.size ≤ k.toNat) := by
      rw [← hagrees.position, ← hagrees.length, UInt64.le_iff_toNat_le, UInt64.toNat_inj,
        UInt64.toNat_inj]
    refine ⟨fun hcan => ?_, fun hfixed hnearby => ?_, fun hfixed hfar => ?_⟩
    · obtain ⟨hto, hseek⟩ := hagrees.within.seekTo_of_seekable hcan hplain
      refine ⟨landsAt_of_does hslot hfollows rfl ?_, landsAt_of_does hslot hfollows rfl ?_,
        fun hle => ?_⟩
      · show (StreamReply.ofIoNumber ((r.seekTo t).1.map .ofNat), (r.seekTo t).2) = _
        rw [hto]
        rfl
      · show (StreamReply.ofNumber ((r.seek k.toNat).1.map .ofNat), (r.seek k.toNat).2) = _
        rw [hseek]
        rfl
      · obtain ⟨new, hcalls, hskips⟩ := ContentStream.seekTo_calls hagrees.isOpen hcalm htarget hle
        have hrun : Calls (StreamOp.run s (.seekTo t)) w.gateway new := hcalls.answer fun _ _ => rfl
        refine ⟨new, ?_, hskips⟩
        show (run (.stream slot (.seekTo t)) w).2.log = _
        rw [run_stream hslot]
        exact hrun
    · obtain ⟨hle, hz⟩ := hagrees.within.nearby_iff.mpr (hnear.mp hnearby)
      have hle' : s.position ≤ k := by
        rw [UInt64.le_iff_toNat_le, hagrees.position]
        exact hle
      have hz' : min (k - s.position) s.remaining = 0 := by
        rw [eq_zero_iff, toNat_min, UInt64.toNat_sub_of_le _ _ hle', hagrees.position,
          hfollows.remaining]
        exact hz
      apply run_stream_same hslot
      show ((s.seekTo t >>= _) w.gateway) = _
      rw [bind_apply, ContentStream.seekTo_nearby hagrees.isOpen htarget hle' hz']
      rfl
    · obtain ⟨what, hmove⟩ := hagrees.within.seekTo_of_fixed hfixed hplain (mt hnear.mpr hfar)
      exact unsupported_of_does hslot hfollows hmove

/-- A stream past the filters, moved by one byte. -/
def sampleSeek : List Command :=
  samplePreparation ++ [.packageStream "package" "text" .raw "stream", .stream "stream" (.skip 1)]

/-- The stream then. -/
def sampleSkipped : ContentStream := { sampleMoved with position := 1 }

/-- One byte before the end is where seeking the third byte would end. -/
theorem target_moves_seek_sample :
    (after sampleSeek fresh).streamAt? "stream" = some sampleSkipped
      ∧ ∃ c, InStep (after sampleSeek fresh) "stream" sampleSkipped c
        ∧ LandsAt 2 "stream" sampleSkipped c
            (run (.stream "stream" (.seekTo (.fromEnd (-1)))) (after sampleSeek fresh)) := by
  have hs : (after sampleSeek fresh).streamAt? "stream" = some sampleSkipped := by decide +kernel
  have hcalm : (after sampleSeek fresh).gateway.faults = .none :=
    (sound_of_calm (by decide) (.fresh True)).calm trivial
  have hmoves : ((after sampleSeek fresh).cursor? sampleSkipped).map Cursor.seekable
      = some true := by
    decide +kernel
  obtain ⟨c, hstep, -, -, hmove⟩ :=
    target_moves_seek sampleSeek (by decide) "stream" sampleSkipped hs rfl hcalm (.fromEnd (-1))
  rw [hstep.cursor] at hmoves
  exact ⟨hs, c, hstep, ((hmove 2 (by decide)).1 (Option.some.inj hmoves)).1⟩

/-- The stream of the sample session: filtered content of three bytes, at the start. -/
def sampleFixed : ContentStream := { sampleMoved with position := 0 }

/-- A target before the start is no position, so a stream that does not move
fails as for any invalid target, not as not supported. -/
theorem fixed_stream_refuses_outside :
    (after sampleSession fresh).streamAt? "stream" = some sampleFixed
      ∧ ((after sampleSession fresh).cursor? sampleFixed).map Cursor.seekable = some false
      ∧ sampleFixed.targetSum (.fromCurrent (-1)) ≠ sampleFixed.position.toNat
      ∧ sampleFixed.position ≠ sampleFixed.length
      ∧ (run (.stream "stream" (.seekTo (.fromCurrent (-1)))) (after sampleSession fresh)).1.ioKind?
          = some .invalidInput := by
  decide +kernel

end Host

end EpubAccess
