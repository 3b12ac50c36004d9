/-
  EpubAccess.Proofs.Lifetimes.Guards
  ────────────────────────────────
  What an object does after it was closed: nothing.

  An object that was closed asks first whether it still has its handle, so its
  work notes that at most and makes no call (`Gateway.OnlyLogs`).  So does every
  operation of a closed stream, those of a closed package that would ask the
  engine, those of a closed container, and every use of a fetch that has no stream
  of a closed package (`StreamOp.run_onlyLogs` and its like).

  `Host.closedAnswer?` tells the answer of every command that uses a closed
  object.  `Host.run_closed` says that the command gives that answer and leaves
  the host as it is but for the log, and `Host.closed_objects_answer_nothing`
  says it of every run, for fetches made after the close as well.
-/
import EpubAccess.Proofs.Fetches.Closing
import EpubAccess.Proofs.Reports.Commands
import EpubAccess.Proofs.Streams.Seeking

namespace EpubAccess

open Stateful

open Gateway (OnlyLogs)

/-! ## §1. Streams. -/

/-- A handle that was given back is not given back again. -/
theorem OwnedHandle.release_onlyLogs {o : OwnedHandle} (ho : o.released = true) :
    OnlyLogs (false, o) (o.release : StateM Gateway _) :=
  fun g => ⟨_, Host.release_of_released ho g⟩

namespace ContentStream

/-- Where a closed stream is moved: nowhere. -/
def closedSeek (s : ContentStream) (t : SeekTarget) : Except IoError UInt64 :=
  match s.target? t with
  | some _ => .ok s.position
  | none => .error seekBeforeStart

/-- The reply of a closed stream. -/
def closedReply (s : ContentStream) : StreamOp → StreamReply
  | .read _ | .readToEnd _ | .readAll | .readRange .. => .bytes .empty
  | .readInto buffer => .filled 0 buffer
  | .available | .skip _ | .seek _ => .number 0
  | .mark | .reset _ => .done
  | .seekTo t => .ofIoNumber (s.closedSeek t)
  | .position => .number s.position
  | .close => .flag false

variable {s : ContentStream} (hs : s.isClosed = true)

include hs

theorem live_onlyLogs (x : StreamAccess) : OnlyLogs none (s.live x : StateM Gateway _) := by
  unfold live
  rw [OwnedHandle.get?_eq_none hs]
  exact .bind (.emit _) (.pure _)

theorem read_onlyLogs (n : UInt64) : OnlyLogs (.empty, s) (s.read n : StateM Gateway _) :=
  .bind (live_onlyLogs hs _) (.pure _)

theorem skip_onlyLogs (n : UInt64) : OnlyLogs (.ok 0, s) (s.skip n : StateM Gateway _) :=
  .bind (live_onlyLogs hs _) (.pure _)

theorem seek_onlyLogs (place : UInt64) : OnlyLogs (.ok 0, s) (s.seek place : StateM Gateway _) :=
  .bind (live_onlyLogs hs _) (.pure _)

theorem seekTo_onlyLogs (t : SeekTarget) :
    OnlyLogs (s.closedSeek t, s) (s.seekTo t : StateM Gateway _) := by
  have hmove : ∀ k, OnlyLogs (.ok 0, s)
      (if s.position ≤ k then s.skip (k - s.position) else s.seek k : StateM Gateway _) := by
    intro k
    split
    · exact skip_onlyLogs hs _
    · exact seek_onlyLogs hs _
  unfold closedSeek
  cases ht : s.target? t with
  | none =>
    unfold seekTo
    rw [ht]
    exact .pure _
  | some k =>
    rw [seekTo_of_target ht]
    exact .bind (hmove k) (.pure (landing (.ok 0, s)))

theorem close_onlyLogs : OnlyLogs (false, s) (s.close : StateM Gateway _) :=
  .bind (OwnedHandle.release_onlyLogs hs) (.pure _)

end ContentStream

/-- **Every operation of a closed stream** only logs, and gives the reply of a
closed stream. -/
theorem StreamOp.run_onlyLogs {s : ContentStream} (hs : s.isClosed = true) (op : StreamOp) :
    OnlyLogs (s.closedReply op, s) (op.run s : StateM Gateway _) := by
  cases op with
  | read n => exact .bind (ContentStream.read_onlyLogs hs n) (.pure _)
  | readInto buffer =>
    have hbuffer : ByteArray.empty ++ buffer.extract ByteArray.empty.size buffer.size = buffer := by
      simp
    refine .bind (.bind (ContentStream.read_onlyLogs hs _) (.pure _)) ?_
    dsimp only
    rw [hbuffer]
    exact .pure _
  | readToEnd chunk =>
    exact .bind (.bind (ContentStream.read_onlyLogs hs chunk) (.pure _)) (.pure _)
  | available => exact .bind (.bind (ContentStream.live_onlyLogs hs _) (.pure _)) (.pure _)
  | readAll => exact .bind (.bind (ContentStream.live_onlyLogs hs _) (.pure _)) (.pure _)
  | readRange offset n => exact .bind (.bind (ContentStream.live_onlyLogs hs _) (.pure _)) (.pure _)
  | skip n => exact .bind (ContentStream.skip_onlyLogs hs n) (.pure _)
  | mark => exact .bind (.bind (ContentStream.live_onlyLogs hs _) (.pure _)) (.pure _)
  | reset toMark => exact .bind (.bind (ContentStream.live_onlyLogs hs _) (.pure _)) (.pure _)
  | seek place => exact .bind (ContentStream.seek_onlyLogs hs place) (.pure _)
  | seekTo t => exact .bind (ContentStream.seekTo_onlyLogs hs t) (.pure _)
  | position => exact .pure _
  | close => exact .bind (ContentStream.close_onlyLogs hs) (.pure _)

/-! ## §2. Packages. -/

/-- The answer of a closed package to an operation that would ask the engine. -/
def PackageOp.closedAnswer? : PackageOp → Option Answer
  | .property .. => some (.text none)
  | .hasProperty .. => some (.flag false)
  | .navigation _ => some (.navigation none)
  | .probeSize _ => some (.size none)
  | .close => some (.flag false)
  | _ => none

namespace Package

variable {p : Package} (hp : p.isClosed = true)

include hp

theorem live_onlyLogs (x : PackageAccess) : OnlyLogs none (p.live x) := by
  unfold live
  rw [OwnedHandle.get?_eq_none hp]
  exact .bind (.emit _) (.pure _)

theorem property_onlyLogs (name vocabulary : String) : OnlyLogs none (p.property name vocabulary) :=
  .bind (live_onlyLogs hp _) (.pure _)

theorem hasProperty_onlyLogs (name vocabulary : String) :
    OnlyLogs false (p.hasProperty name vocabulary) :=
  .bind (live_onlyLogs hp _) (.pure _)

theorem navigation_onlyLogs (kind : NavKind) : OnlyLogs (none, p) (p.navigation kind) :=
  .bind (live_onlyLogs hp _) (.pure _)

theorem probeSize_onlyLogs (attached : Bool) (path : String) :
    OnlyLogs none (p.probeSize attached path) :=
  .bind (live_onlyLogs hp _) (.pure _)

theorem openStream_onlyLogs (attached : Bool) (path : String) (ranged : Bool) :
    OnlyLogs none (p.openStream attached path ranged) :=
  .bind (live_onlyLogs hp _) (.pure _)

theorem openRawStream_onlyLogs (attached : Bool) (path : String) :
    OnlyLogs none (p.openRawStream attached path) :=
  .bind (live_onlyLogs hp _) (.pure _)

end Package

/-! ## §3. Containers. -/

/-- The answer of a closed container. -/
def ContainerOp.closedAnswer? : ContainerOp → Option Answer
  | .close => some (.flag false)
  | .rawBytes _ => some (.bytes none)
  | .info => none

namespace Container

variable {c : Container} (hc : c.isClosed = true) (path : String)

include hc

theorem rawStream_onlyLogs : OnlyLogs none (c.rawStream path) := by
  unfold rawStream
  rw [OwnedHandle.get?_eq_none hc]
  exact .bind (.emit _) (.pure _)

theorem rawBytes_onlyLogs : OnlyLogs none (c.rawBytes path) :=
  .bind (rawStream_onlyLogs hc path) (.pure _)

end Container

namespace Host

variable {w : Host} {slot : String}

/-! ## §4. Commands that use a closed object. -/

/-- The answer of a command that uses a closed object, or a fetch that has no
stream of a closed package. -/
def closedAnswer? (w : Host) : Command → Option Answer
  | .stream slot op =>
    (w.streamIn? slot).bind fun s =>
      if s.isClosed then some (.streamReply (s.closedReply op) s) else none
  | .package slot op =>
    (w.packageIn? slot).bind fun p => if p.isClosed then op.closedAnswer? else none
  | .packageStream slot .. =>
    (w.packageIn? slot).bind fun p => if p.isClosed then some (.stream none) else none
  | .fetch slot op =>
    (w.fetchIn? slot).bind fun (f, p) =>
      if p.isClosed ∧ f.hasStream = false then some (.fetchReply op.refusal f) else none
  | .handOver slot .. =>
    (w.fetchIn? slot).bind fun (f, p) =>
      if p.isClosed ∧ f.hasStream = false then some (.handedOver none f) else none
  | .container slot op =>
    (w.containerIn? slot).bind fun (_, c) => if c.isClosed then op.closedAnswer? else none
  | .rawStream slot .. =>
    (w.containerIn? slot).bind fun (_, c) => if c.isClosed then some (.stream none) else none
  | _ => none

/-- The same host with other events in the log. -/
def logging (w : Host) (events : Array Event) : Host :=
  { w with gateway := { w.gateway with events := events } }

/-- The work answers `a` and leaves the host as it is but for the log. -/
def Inert {α : Type} (a : α) (m : StateM Host α) (w : Host) : Prop :=
  ∃ events, m w = (a, w.logging events)

namespace Inert

variable {α β : Type} {a : α} {b : β}

theorem pure (a : α) (w : Host) : Inert a (pure a) w := ⟨w.gateway.events, rfl⟩

theorem bind {m : StateM Host α} {f : α → StateM Host β} (hm : Inert a m w)
    (hf : ∀ events, Inert b (f a) (w.logging events)) : Inert b (m >>= f) w := by
  obtain ⟨events, hw⟩ := hm
  obtain ⟨events', hw'⟩ := hf events
  refine ⟨events', ?_⟩
  rw [bind_apply, hw]
  exact hw'

/-- Work that comes to other work. -/
theorem of_eq {m m' : StateM Host α} (h : m w = m' w) (hm : Inert a m' w) : Inert a m w := by
  obtain ⟨events, hw⟩ := hm
  exact ⟨events, h.trans hw⟩

/-- Work on the gateway that only logs. -/
theorem through {m : StateM Gateway α} (hm : OnlyLogs a m) (w : Host) :
    Inert a (Host.through m) w := by
  obtain ⟨events, hg⟩ := hm w.gateway
  refine ⟨events, ?_⟩
  unfold Host.through
  rw [hg]
  rfl

/-- Work that looks at the host first. -/
theorem get {f : Host → StateM Host β} (hf : Inert b (f w) w) :
    Inert b (MonadState.get >>= f) w := hf

/-- The object in a slot is replaced by itself. -/
theorem update {o : Holding} (ho : w.slots[slot]? = some o) : Inert () (Host.update slot o) w := by
  refine ⟨w.gateway.events, ?_⟩
  show ((), { w with slots := w.slots.insert slot o }) = _
  rw [insert_same ho]
  rfl

/-- A package is replaced by itself. -/
theorem setPackage {k : PackageId} {p : Package} (hp : w.packages.get? k = some p) :
    Inert () (Host.setPackage k p) w := by
  refine ⟨w.gateway.events, ?_⟩
  show ((), { w with packages := w.packages.set k p }) = _
  rw [Pool.set_self hp]
  rfl

end Inert

section Commands

variable {slot : String}

theorem closePackage_inert {k : PackageId} {p : Package} (hp : w.packages.get? k = some p)
    (hclosed : p.isClosed = true) : Inert false (closePackage k) w :=
  ⟨_, closePackage_of_released hp hclosed⟩

theorem closeContainer_inert {id : ContainerId} {c : Container} (hc : w.containers.get? id = some c)
    (hclosed : c.isClosed = true) : Inert false (closeContainer id) w :=
  ⟨_, closeContainer_of_released hc hclosed⟩

theorem runStream_inert {s : ContentStream} (ho : w.slots[slot]? = some (.stream s))
    (hs : s.isClosed = true) (op : StreamOp) :
    Inert (.streamReply (s.closedReply op) s) (run (.stream slot op)) w := by
  refine .of_eq (withStream_some ho) ?_
  refine .bind (.through (StreamOp.run_onlyLogs hs op) w) fun events => ?_
  exact .bind (.update (w := w.logging events) ho) fun _ => .pure _ _

section Packages

variable {k : PackageId} {p : Package} (ho : w.slots[slot]? = some (.package k))
  (hp : w.packages.get? k = some p) (hclosed : p.isClosed = true)

include ho hp hclosed

theorem runPackage_inert {op : PackageOp} {a : Answer} (ha : op.closedAnswer? = some a) :
    Inert a (run (.package slot op)) w := by
  cases op with
  | close =>
    obtain rfl := Option.some.inj ha
    -- it is closed already, so this request is noted only
    refine .of_eq (withPackage_some ho hp) ?_
    exact .bind (closePackage_inert hp hclosed) fun _ => .pure _ _
  | property name vocabulary =>
    obtain rfl := Option.some.inj ha
    refine .of_eq (withPackage_some ho hp) ?_
    exact .bind (.through (Package.property_onlyLogs hclosed _ _) w) fun _ => .pure _ _
  | hasProperty name vocabulary =>
    obtain rfl := Option.some.inj ha
    refine .of_eq (withPackage_some ho hp) ?_
    exact .bind (.through (Package.hasProperty_onlyLogs hclosed _ _) w) fun _ => .pure _ _
  | navigation kind =>
    obtain rfl := Option.some.inj ha
    refine .of_eq (withPackage_some ho hp) ?_
    refine .bind (.through (Package.navigation_onlyLogs hclosed kind) w) fun events => ?_
    exact .bind (.setPackage (w := w.logging events) hp) fun _ => .pure _ _
  | probeSize path =>
    obtain rfl := Option.some.inj ha
    refine .of_eq (withPackage_some ho hp) (.get ?_)
    exact .bind (.through (Package.probeSize_onlyLogs hclosed _ _) w) fun _ => .pure _ _
  | _ => exact absurd ha (by simp [PackageOp.closedAnswer?])

theorem packageStream_inert (path : String) (mode : StreamMode) (dest : String) :
    Inert (.stream none) (run (.packageStream slot path mode dest)) w := by
  refine .of_eq (withPackage_some ho hp) ?_
  -- whichever stream is asked for, there is none to put into the slot
  refine .bind (a := none) (.get ?_) fun _ => .bind (a := ()) (.pure _ _) fun _ => .pure _ _
  cases mode with
  | filtered ranged => exact .through (Package.openStream_onlyLogs hclosed _ _ _) w
  | raw => exact .through (Package.openRawStream_onlyLogs hclosed _ _) w

end Packages

section Fetches

variable {f : Fetch} {p : Package} (ho : w.slots[slot]? = some (.fetch f))
  (hp : w.packages.get? f.package = some p) (hf : f.stream = none) (hclosed : p.isClosed = true)

include ho hp hf hclosed

theorem runFetch_inert (op : FetchOp) :
    Inert (.fetchReply op.refusal f) (run (.fetch slot op)) w := by
  refine .of_eq (withFetch_some ho hp) (.get ?_)
  refine .bind (.through (FetchOp.run_onlyLogs hf hclosed _ op) w) fun events => ?_
  exact .bind (.update (w := w.logging events) ho) fun _ => .pure _ _

theorem runHandOver_inert (ranged : Bool) (dest : String) :
    Inert (.handedOver none f) (run (.handOver slot ranged dest)) w := by
  refine .of_eq (withFetch_some ho hp) (.get ?_)
  refine .bind (.through (Fetch.handOver_onlyLogs hf hclosed _ ranged) w) fun events => ?_
  refine .bind (.update (w := w.logging events) ho) fun _ => ?_
  exact .bind (a := ()) (.pure _ _) fun _ => .pure _ _

end Fetches

section Containers

variable {id : ContainerId} {c : Container} (ho : w.slots[slot]? = some (.container id))
  (hc : w.containers.get? id = some c) (hclosed : c.isClosed = true)

include ho hc hclosed

theorem runContainer_inert {op : ContainerOp} {a : Answer} (ha : op.closedAnswer? = some a) :
    Inert a (run (.container slot op)) w := by
  cases op with
  | info => exact absurd ha (by simp [ContainerOp.closedAnswer?])
  | close =>
    obtain rfl := Option.some.inj ha
    refine .of_eq (withContainer_some ho hc) ?_
    exact .bind (closeContainer_inert hc hclosed) fun _ => .pure _ _
  | rawBytes path =>
    obtain rfl := Option.some.inj ha
    refine .of_eq (withContainer_some ho hc) ?_
    exact .bind (.through (Container.rawBytes_onlyLogs hclosed path) w) fun _ => .pure _ _

theorem rawStream_inert (path dest : String) :
    Inert (.stream none) (run (.rawStream slot path dest)) w := by
  refine .of_eq (withContainer_some ho hc) ?_
  refine .bind (.through (Container.rawStream_onlyLogs hclosed path) w) fun events => ?_
  exact .bind (a := ()) (.pure _ _) fun _ => .pure _ _

end Containers

end Commands

/-- **A command that uses a closed object** gives the answer of a closed object,
and leaves the host as it is but for the log. -/
theorem run_closed {c : Command} {a : Answer} (h : w.closedAnswer? c = some a) :
    Inert a (run c) w := by
  cases c with
  | stream slot op =>
    obtain ⟨s, hs, hguard⟩ := Option.bind_eq_some_iff.mp h
    obtain ⟨hclosed, ⟨⟩⟩ := Option.ite_none_right_eq_some.mp hguard
    exact runStream_inert (slot_of_streamIn? hs) hclosed op
  | package slot op =>
    obtain ⟨p, hp, hguard⟩ := Option.bind_eq_some_iff.mp h
    obtain ⟨hclosed, ha⟩ := Option.ite_none_right_eq_some.mp hguard
    obtain ⟨k, ho, hk⟩ := slot_of_packageIn? hp
    exact runPackage_inert ho hk hclosed ha
  | packageStream slot path mode dest =>
    obtain ⟨p, hp, hguard⟩ := Option.bind_eq_some_iff.mp h
    obtain ⟨hclosed, ⟨⟩⟩ := Option.ite_none_right_eq_some.mp hguard
    obtain ⟨k, ho, hk⟩ := slot_of_packageIn? hp
    exact packageStream_inert ho hk hclosed path mode dest
  | fetch slot op =>
    obtain ⟨⟨f, p⟩, hf, hguard⟩ := Option.bind_eq_some_iff.mp h
    obtain ⟨⟨hclosed, hnone⟩, ⟨⟩⟩ := Option.ite_none_right_eq_some.mp hguard
    obtain ⟨ho, hp⟩ := slot_of_fetchIn? hf
    exact runFetch_inert ho hp (by simpa [Fetch.hasStream] using hnone) hclosed op
  | handOver slot ranged dest =>
    obtain ⟨⟨f, p⟩, hf, hguard⟩ := Option.bind_eq_some_iff.mp h
    obtain ⟨⟨hclosed, hnone⟩, ⟨⟩⟩ := Option.ite_none_right_eq_some.mp hguard
    obtain ⟨ho, hp⟩ := slot_of_fetchIn? hf
    exact runHandOver_inert ho hp (by simpa [Fetch.hasStream] using hnone) hclosed ranged dest
  | container slot op =>
    obtain ⟨⟨id, b⟩, hb, hguard⟩ := Option.bind_eq_some_iff.mp h
    obtain ⟨hclosed, ha⟩ := Option.ite_none_right_eq_some.mp hguard
    obtain ⟨ho, hc⟩ := slot_of_containerIn? hb
    exact runContainer_inert ho hc hclosed ha
  | rawStream slot path dest =>
    obtain ⟨⟨id, b⟩, hb, hguard⟩ := Option.bind_eq_some_iff.mp h
    obtain ⟨hclosed, ⟨⟩⟩ := Option.ite_none_right_eq_some.mp hguard
    obtain ⟨ho, hc⟩ := slot_of_containerIn? hb
    exact rawStream_inert ho hc hclosed path dest
  | _ => exact absurd h (by simp [closedAnswer?])

/-! ## §5. Fetches made after the close. -/

/-- What a package in a slot makes a fetch of. -/
theorem fetchResource_slot (hw : Consistent w) {slot path dest : String} {raw : Bool}
    {k : PackageId}
    {p : Package} (ho : w.slots[slot]? = some (.package k)) (hp : w.packages.get? k = some p) :
    (run (.fetchResource slot path raw dest) w).2.slots[dest]?
      = some (.fetch (.start k path raw)) := by
  rw [show run (.fetchResource slot path raw dest) w = _ from withPackage_some ho hp]
  show (store dest (.fetch (.start k path raw)) w).2.slots[dest]? = _
  rw [store_slots dest _ hw (fun _ hid => absurd hid List.not_mem_nil) ?_, if_pos rfl]
  intro j hj
  obtain rfl := List.mem_singleton.mp hj
  exact ⟨p, hp⟩

/-- A fetch made of a closed package is of no use: the package stays closed, and
the fetch never gets a stream. -/
theorem fetchResource_useless (hw : Consistent w) (hholds : FetchesHold w)
    {slot path dest : String} {raw : Bool} {k : PackageId} {p q : Package}
    (ho : w.slots[slot]? = some (.package k)) (hp : w.packages.get? k = some p)
    (hclosed : p.isClosed = true) (cs' : List Command) {f : Fetch}
    (hf : (after cs' (run (.fetchResource slot path raw dest) w).2).fetchIn? dest = some (f, q))
    (hk : f.package = k) : q.isClosed = true ∧ f.hasStream = false := by
  have hshut : w.Shut k := by
    refine ⟨hw.packageIds k p hp, fun q hq => ?_⟩
    obtain rfl := Option.some.inj (hp.symm.trans hq)
    exact hclosed
  have hlater := run_later (.fetchResource slot path raw dest) hw
  have hsince := sinceClose_after cs' hlater.after (hholds.step hlater) (hlater.staysShut hshut)
  obtain ⟨hslot, hq⟩ := slot_of_fetchIn? hf
  refine ⟨hsince.shut.2 q (hk ▸ hq), ?_⟩
  cases hs : f.hasStream with
  | false => rfl
  | true =>
    -- then it would have had the stream when it was made
    have hold := hsince.kept dest f hslot hk hs
    rw [fetchResource_slot hw ho hp] at hold
    obtain rfl := Holding.fetch.inj (Option.some.inj hold)
    exact absurd hs (by simp [Fetch.start, Fetch.hasStream])

/-- **Closed objects answer with nothing.**  After any run, a command that uses a
closed stream, package or container gives the answer of a closed object and
leaves everything as it is but for the log: the engine hears nothing, and no
position, mark, length or copied answer changes.  A fetch that is made of a closed
package holds no stream, and whatever is done afterwards, each use of it is
refused in the same way. -/
theorem closed_objects_answer_nothing (cs : List Command) :
    let w := after cs fresh
    (∀ c a, w.closedAnswer? c = some a → ∃ events, run c w = (a, w.logging events))
      ∧ ∀ (slot path : String) (raw : Bool) (dest : String) (k : PackageId) (p : Package),
          w.slots[slot]? = some (.package k) → w.packages.get? k = some p → p.isClosed = true →
          let made := (run (.fetchResource slot path raw dest) w).2
          made.slots[dest]? = some (.fetch (.start k path raw))
            ∧ ∀ (cs' : List Command) (f : Fetch) (q : Package),
                let w' := after cs' made
                w'.fetchIn? dest = some (f, q) → f.package = k →
                (∀ op : FetchOp, ∃ events,
                    run (.fetch dest op) w' = (.fetchReply op.refusal f, w'.logging events))
                  ∧ ∀ (ranged : Bool) (into : String), ∃ events,
                      run (.handOver dest ranged into) w'
                        = (.handedOver none f, w'.logging events) := by
  intro w
  refine ⟨fun c a h => run_closed h, fun slot path raw dest k p ho hp hclosed => ?_⟩
  have hw : Consistent w := consistent_after cs
  refine ⟨fetchResource_slot hw ho hp, fun cs' f q hf hk => ?_⟩
  obtain ⟨hq, hs⟩ := fetchResource_useless hw (fetchesHold_after cs) ho hp hclosed cs' hf hk
  exact ⟨fun op => run_closed (Option.bind_eq_some_iff.mpr ⟨(f, q), hf, if_pos ⟨hq, hs⟩⟩),
    fun ranged into => run_closed (Option.bind_eq_some_iff.mpr ⟨(f, q), hf, if_pos ⟨hq, hs⟩⟩)⟩

/-- A stream, its package and its container, and each of them closed. -/
def sampleClosed : List Command :=
  sampleSession ++ [.stream "stream" .close, .package "package" .close,
    .container "container" .close]

theorem closed_objects_answer_nothing_sample :
    let w := after sampleClosed fresh
    (∀ c ∈ [.stream "stream" (.seek 2), .package "package" (.navigation .tableOfContents),
        .container "container" .close], ∃ a, w.closedAnswer? c = some a
          ∧ ∃ events, run c w = (a, w.logging events))
      ∧ ∃ f, (run (.fetchResource "package" "text" false "late") w).2.slots["late"]?
          = some (.fetch f) := by
  have hall := closed_objects_answer_nothing sampleClosed
  have hpackage : (after sampleClosed fresh).slots["package"]? = some (.package 0) :=
    Holding.eq_package (by decide +kernel)
  have hclosed : ((after sampleClosed fresh).packages.get? 0).map Package.isClosed = some true := by
    decide +kernel
  have hanswer : ∀ c ∈ [.stream "stream" (.seek 2),
        .package "package" (.navigation .tableOfContents), .container "container" .close],
      ((after sampleClosed fresh).closedAnswer? c).isSome = true := by
    decide +kernel
  generalize after sampleClosed fresh = w at hall hpackage hclosed hanswer ⊢
  obtain ⟨p, hp, hclosed⟩ := Option.map_eq_some_iff.mp hclosed
  refine ⟨fun c hc => ?_, _, (hall.2 "package" "text" false "late" 0 p hpackage hp hclosed).1⟩
  obtain ⟨a, ha⟩ := Option.isSome_iff_exists.mp (hanswer c hc)
  exact ⟨a, ha, hall.1 c a ha⟩

end Host

end EpubAccess
