/-
  EpubAccess.Proofs.Fetches.Readers
  ────────────────────────────────
  Readers of resources, side by side in one host.

  A `Reader` is a fetch in its slot, with the slots for the streams that it
  hands out; `Reader.asks` tells which commands are its own.  `Reader.Alike`
  relates two hosts that a reader finds alike: what its slots hold are twins,
  and its package is open and the same package of the same archive.

  One command of a reader is answered alike in both hosts, but for the numbers
  of handles, and leaves them alike (`Reader.run_alike`).  Slots of other
  readers it leaves alone (`Host.StepOn`), as long as no two slots hold
  one stream (`Host.Separate`), which it keeps.
-/
import EpubAccess.Proofs.Fetches.Apart

namespace EpubAccess

open Stateful Gateway

/-! ## §1. Readers. -/

/-- A fetch, by its slot, and the slots for the streams that it hands out. -/
structure Reader where
  fetch : String
  streams : List String
  deriving DecidableEq

/-- The slots of a reader. -/
def Reader.slots (R : Reader) : List String := R.fetch :: R.streams

/-- Does the command use the fetch of the reader, or a stream that it handed out? -/
def Reader.asks (R : Reader) : Command → Bool
  | .fetch slot _ | .fetchInfo slot => slot == R.fetch
  | .handOver slot _ dest => slot == R.fetch && R.streams.contains dest
  | .stream slot _ | .streamInfo slot | .drop slot => R.streams.contains slot
  | _ => false

/-- The answer with the numbers of the handles of streams left out. -/
def Answer.nameless : Answer → Answer
  | .stream s => .stream (s.map ContentStream.nameless)
  | .streamReply r s => .streamReply r s.nameless
  | .streamInfo s => .streamInfo s.nameless
  | .fetch f => .fetch f.nameless
  | .fetchInfo f h => .fetchInfo f.nameless h
  | .fetchReply r f => .fetchReply r f.nameless
  | .handedOver s f => .handedOver (s.map ContentStream.nameless) f.nameless
  | a => a

namespace Host

variable {L : String → Prop} {w w' w'' v v' : Host} {m m' : String}

/-! ## §2. Slots that hold different streams. -/

/-- The open streams in the slots `L` are live, and no two of these slots hold
the same.  What is live was issued. -/
structure Separate (L : String → Prop) (w : Host) : Prop where
  issued : w.gateway.engine.AllIssued
  serves : ∀ m, L m → w.gateway.Serves .stream (w.openAt m)
  apart : ∀ m m' x, L m → L m' → w.openAt m = some x → w.openAt m' = some x → m = m'

theorem Separate.issuedAt (h : Separate L w) (hm : L m) {x : Handle} (hx : w.openAt m = some x) :
    w.gateway.engine.Issued x := by
  obtain ⟨o, ho, -⟩ := serves_object (hx ▸ h.serves m hm)
  exact h.issued x o ho

/-- A stream that a slot holds, or that is new, is held by no other slot. -/
theorem Separate.alone (h : Separate L w) (hm : L m) {x : Handle}
    (hx : w.openAt m = some x ∨ ¬ w.gateway.engine.Issued x) (hm' : L m') (hne : m' ≠ m) :
    w.openAt m' ≠ some x := by
  intro hx'
  rcases hx with hheld | hnew
  · exact hne (h.apart m' m x hm' hm hx' hheld)
  · exact hnew (h.issuedAt hm' hx')

/-- The pools are the same, and so is what the engine knows apart from streams. -/
structure Steady (w w' : Host) : Prop where
  containers : w'.containers = w.containers
  packages : w'.packages = w.packages
  archives : w'.gateway.engine.archives = w.gateway.engine.archives
  calm : w.gateway.faults = .none → w'.gateway.faults = .none
  objects : ∀ (x : Handle) o, w.gateway.engine.live[x]? = some o → o.kind ≠ .stream →
    w'.gateway.engine.live[x]? = some o

theorem Steady.refl (w : Host) : Steady w w := ⟨rfl, rfl, rfl, id, fun _ _ ho _ => ho⟩

theorem Steady.trans (h : Steady w w') (h' : Steady w' w'') : Steady w w'' :=
  ⟨h'.containers.trans h.containers, h'.packages.trans h.packages, h'.archives.trans h.archives,
    h'.calm ∘ h.calm, fun x o ho hk => h'.objects x o (h.objects x o ho hk) hk⟩

/-- The slot was left alone, and so was the stream that it holds. -/
structure Keeps (m : String) (w w' : Host) : Prop where
  slot : w'.slots[m]? = w.slots[m]?
  live : ∀ x, w.openAt m = some x → w'.gateway.engine.live[x]? = w.gateway.engine.live[x]?

theorem Keeps.refl (m : String) (w : Host) : Keeps m w w := ⟨rfl, fun _ _ => rfl⟩

theorem Keeps.trans (h : Keeps m w w') (h' : Keeps m w' w'') : Keeps m w w'' :=
  ⟨h'.slot.trans h.slot,
    fun x hx => (h'.live x ((openAt_congr h.slot).trans hx)).trans (h.live x hx)⟩

/-- Work on the slots `M`, which leaves alone what else the slots `L` hold. -/
structure StepOn (L : String → Prop) (M : List String) (w w' : Host) : Prop where
  steady : Steady w w'
  keeps : ∀ m, L m → m ∉ M → Keeps m w w'
  separate : Separate L w'

namespace StepOn

theorem refl (h : Separate L w) (M : List String) : StepOn L M w w :=
  ⟨.refl w, fun m _ _ => .refl m w, h⟩

theorem trans {M M' : List String} (h : StepOn L M w w') (h' : StepOn L M' w' w'') :
    StepOn L (M ++ M') w w'' := by
  refine ⟨h.steady.trans h'.steady, fun m hm hM => ?_, h'.separate⟩
  rw [List.mem_append, not_or] at hM
  exact (h.keeps m hm hM.1).trans (h'.keeps m hm hM.2)

/-- Work about the stream of one slot.  What the slot holds then is live and
held by no other slot. -/
theorem of_spares (h : Separate L w) (hm : L m) {g : Gateway}
    {slots : Std.ExtTreeMap String Holding} (hs : Spares (w.openAt m) w.gateway g)
    (hcalm : w.gateway.faults = .none → g.faults = .none)
    (hslots : ∀ l : String, l ≠ m → slots[l]? = w.slots[l]?)
    (hserves : g.Serves .stream ((slots[m]?).bind Holding.openHandle?))
    (halone : ∀ x, (slots[m]?).bind Holding.openHandle? = some x →
      ∀ l, L l → l ≠ m → w.openAt l ≠ some x) :
    StepOn L [m] w { w with gateway := g, slots := slots } := by
  have hopen : ∀ l, l ≠ m → openAt { w with gateway := g, slots := slots } l = w.openAt l :=
    fun l hl => openAt_congr (hslots l hl)
  have hlive : ∀ l x, L l → l ≠ m → w.openAt l = some x →
      g.engine.live[x]? = w.gateway.engine.live[x]? := by
    intro l x hl hne hx
    exact hs.live x (h.issuedAt hl hx) fun hx' => hne (h.apart l m x hl hm hx hx')
  refine ⟨⟨rfl, rfl, hs.archives, hcalm, fun x o ho hk => ?_⟩, fun l hl hne => ?_,
    hs.allIssued h.issued, fun l hl => ?_, fun l l' x hl hl' hx hx' => ?_⟩
  · refine (hs.live x (h.issued x o ho) fun hx => ?_).trans ho
    -- what the slot holds is a stream
    obtain ⟨o', ho', hk'⟩ := serves_object (hx ▸ h.serves m hm)
    rw [ho, Option.some.injEq] at ho'
    exact hk (ho' ▸ hk')
  · rw [List.mem_singleton] at hne
    exact ⟨hslots l hne, fun x hx => hlive l x hl hne hx⟩
  · by_cases hlm : l = m
    · rw [hlm]
      exact hserves
    · intro x hx
      rw [hopen l hlm] at hx
      show (g.engine.live[x]?).map _ = _
      rw [hlive l x hl hlm hx]
      exact h.serves l hl x hx
  · by_cases hlm : l = m <;> by_cases hlm' : l' = m
    · rw [hlm, hlm']
    · rw [hlm] at hx
      rw [hopen l' hlm'] at hx'
      exact absurd hx' (halone x hx l' hl' hlm')
    · rw [hlm'] at hx'
      rw [hopen l hlm] at hx
      exact absurd hx (halone x hx' l hl hlm)
    · rw [hopen l hlm] at hx
      rw [hopen l' hlm'] at hx'
      exact h.apart l l' x hl hl' hx hx'

/-- Work about the stream of one slot, and something put into the slot. -/
theorem put (h : Separate L w) (hm : L m) {g : Gateway} {o : Holding}
    (hs : Spares (w.openAt m) w.gateway g) (hcalm : w.gateway.faults = .none → g.faults = .none)
    (hserves : g.Serves .stream o.openHandle?)
    (halone : ∀ x, o.openHandle? = some x → ∀ l, L l → l ≠ m → w.openAt l ≠ some x) :
    StepOn L [m] w { w with gateway := g, slots := w.slots.insert m o } := by
  refine .of_spares h hm hs hcalm (fun l hl => ?_) ?_ ?_
  · simp [Std.ExtTreeMap.getElem?_insert, Ne.symm hl]
  · rw [insert_self]
    exact hserves
  · rw [insert_self]
    exact halone

/-- Work about the stream of one slot, which is emptied. -/
theorem emptied (h : Separate L w) (hm : L m) {g : Gateway}
    (hs : Spares (w.openAt m) w.gateway g) (hcalm : w.gateway.faults = .none → g.faults = .none) :
    StepOn L [m] w { w with gateway := g, slots := w.slots.erase m } := by
  have hself : (w.slots.erase m)[m]? = none := by
    simp
  refine .of_spares h hm hs hcalm (fun l hl => ?_) ?_ ?_
  · simp [Std.ExtTreeMap.getElem?_erase, Ne.symm hl]
  · rw [hself]
    exact fun x hx => absurd hx (by simp)
  · rw [hself]
    exact fun x hx => absurd hx (by simp)

end StepOn

end Host

/-! ## §3. Hosts that a reader finds alike. -/

/-- What is behind a path depends on the package and its archive alone. -/
theorem Engine.resource?_congr {e e' : Engine} {x : Handle} (hl : e'.live[x]? = e.live[x]?)
    (ha : e'.archives = e.archives) (path : String) : e'.resource? x path = e.resource? x path := by
  unfold resource? description?
  rw [hl, ha]

/-- An open package stays known alike. -/
theorem Package.KnownAlike.steady {p : Package} {w w' v v' : Host}
    (h : p.KnownAlike w.gateway v.gateway) (hw : Host.Steady w w') (hv : Host.Steady v v') :
    p.KnownAlike w'.gateway v'.gateway := by
  have hstays : ∀ {w w' : Host}, Host.Steady w w' →
      w.gateway.Serves .package (some p.handle.handle) →
      w'.gateway.engine.live[p.handle.handle]? = w.gateway.engine.live[p.handle.handle]? := by
    intro w w' hw hs
    obtain ⟨o, ho, hk⟩ := serves_object hs
    exact (hw.objects _ o ho (by simp [hk])).trans ho.symm
  have hl := hstays hw h.serves
  have hl' := hstays hv h.serves'
  refine ⟨hw.calm h.calm, hv.calm h.calm', h.isOpen, ?_, ?_, fun path => ?_⟩
  · rintro x ⟨⟩
    rw [hl]
    exact h.serves _ rfl
  · rintro x ⟨⟩
    rw [hl']
    exact h.serves' _ rfl
  · rw [Engine.resource?_congr hl hw.archives, Engine.resource?_congr hl' hv.archives]
    exact h.resource path

/-- What two hosts hold in a slot for streams: nothing, or twins. -/
inductive HeldTwins (g g' : Gateway) : Option Holding → Option Holding → Prop
  | nothing : HeldTwins g g' none none
  | stream {s s' : ContentStream} (h : ContentStream.Twins g s g' s') :
      HeldTwins g g' (some (.stream s)) (some (.stream s'))

theorem HeldTwins.symm {g g' : Gateway} {o o' : Option Holding} (h : HeldTwins g g' o o') :
    HeldTwins g' g o' o := by
  cases h with
  | nothing => exact .nothing
  | stream h => exact .stream h.symm

namespace Reader

open Host

variable {R : Reader} {L : String → Prop} {w w' v v' : Host} {m : String}

/-- The fetches that two hosts hold for a reader are twins of an open package. -/
structure Fetches (R : Reader) (w v : Host) (f f' : Fetch) (p : Package) : Prop where
  here : w.slots[R.fetch]? = some (.fetch f)
  there : v.slots[R.fetch]? = some (.fetch f')
  twins : Fetch.Twins w.gateway f v.gateway f'
  package : w.packages.get? f.package = some p
  known : p.KnownAlike w.gateway v.gateway

theorem Fetches.symm {f f' : Fetch} {p : Package} (h : R.Fetches w v f f' p)
    (hp : v.packages = w.packages) : R.Fetches v w f' f p := by
  refine ⟨h.there, h.here, h.twins.symm, ?_, h.known.symm⟩
  rw [hp, h.twins.target.package]
  exact h.package

/-- The reader cannot tell the two hosts apart but by the numbers of handles. -/
structure Alike (R : Reader) (w v : Host) : Prop where
  containers : v.containers = w.containers
  packages : v.packages = w.packages
  fetch : ∃ f f' p, R.Fetches w v f f' p
  streams : ∀ m ∈ R.streams, HeldTwins w.gateway v.gateway w.slots[m]? v.slots[m]?

namespace Alike

theorem symm (h : R.Alike w v) : R.Alike v w := by
  obtain ⟨f, f', p, hf⟩ := h.fetch
  exact ⟨h.containers.symm, h.packages.symm, ⟨f', f, p, hf.symm h.packages⟩,
    fun m hm => (h.streams m hm).symm⟩

theorem isAttached (h : R.Alike w v) (p : Package) : v.isAttached p = w.isAttached p := by
  unfold Host.isAttached
  rw [h.containers]

/-- A slot for streams is empty in both hosts, or holds twins. -/
theorem held (h : R.Alike w v) (hm : m ∈ R.streams) :
    w.slots[m]? = none ∧ v.slots[m]? = none
      ∨ ∃ s s', w.slots[m]? = some (.stream s) ∧ v.slots[m]? = some (.stream s')
          ∧ ContentStream.Twins w.gateway s v.gateway s' := by
  have hheld := h.streams m hm
  generalize w.slots[m]? = o at hheld ⊢
  generalize v.slots[m]? = o' at hheld ⊢
  cases hheld with
  | nothing => exact .inl ⟨rfl, rfl⟩
  | stream htwins => exact .inr ⟨_, _, rfl, rfl, htwins⟩

/-- A slot for streams may take one. -/
theorem free (h : R.Alike w v) (hm : m ∈ R.streams) :
    w.slots[m]? = none ∨ ∃ s, w.slots[m]? = some (.stream s) :=
  (h.held hm).imp And.left fun ⟨s, _, hs, _⟩ => ⟨s, hs⟩

/-- The slot of the fetch is none of those for streams. -/
theorem fetch_ne (h : R.Alike w v) (hm : m ∈ R.streams) : R.fetch ≠ m := by
  intro he
  obtain ⟨f, f', p, hf⟩ := h.fetch
  have hhere := hf.here
  rw [he] at hhere
  rcases h.held hm with ⟨hnone, -⟩ | ⟨s, s', hs, -, -⟩
  · exact absurd (hnone.symm.trans hhere) (by simp)
  · exact absurd (hs.symm.trans hhere) (by simp)

end Alike

/-! ## §4. Slots that are left alone. -/

theorem Fetches.replaced {f f' f₁ f₁' : Fetch} {p : Package} (h : R.Fetches w v f f' p)
    (hw : Steady w w') (hv : Steady v v') (here : w'.slots[R.fetch]? = some (.fetch f₁))
    (there : v'.slots[R.fetch]? = some (.fetch f₁'))
    (htwins : Fetch.Twins w'.gateway f₁ v'.gateway f₁') (hp : f₁.package = f.package) :
    R.Fetches w' v' f₁ f₁' p := by
  refine ⟨here, there, htwins, ?_, h.known.steady hw hv⟩
  rw [hw.packages, hp]
  exact h.package

theorem Fetches.kept {f f' : Fetch} {p : Package} (h : R.Fetches w v f f' p) (hw : Steady w w')
    (hv : Steady v v') (hk : Keeps R.fetch w w') (hk' : Keeps R.fetch v v') :
    R.Fetches w' v' f f' p := by
  refine h.replaced hw hv (hk.slot.trans h.here) (hk'.slot.trans h.there) ?_ rfl
  have hlive := hk.live
  have hlive' := hk'.live
  rw [openAt_of_slot h.here] at hlive
  rw [openAt_of_slot h.there] at hlive'
  exact h.twins.congr (hw.calm h.twins.calm) (hv.calm h.twins.calm') hlive hlive'

theorem Alike.stream_kept (h : R.Alike w v) (hm : m ∈ R.streams) (hw : Steady w w')
    (hv : Steady v v') (hk : Keeps m w w') (hk' : Keeps m v v') :
    HeldTwins w'.gateway v'.gateway w'.slots[m]? v'.slots[m]? := by
  rw [hk.slot, hk'.slot]
  rcases h.held hm with ⟨hs, hs'⟩ | ⟨s, s', hs, hs', htwins⟩
  · rw [hs, hs']
    exact .nothing
  · have hlive := hk.live
    have hlive' := hk'.live
    rw [openAt_of_slot hs] at hlive
    rw [openAt_of_slot hs'] at hlive'
    rw [hs, hs']
    exact .stream (htwins.congr (hw.calm htwins.calm) (hv.calm htwins.calm') hlive hlive')

/-- After steps that are steady the two hosts are alike if the slots are. -/
theorem Alike.step (h : R.Alike w v) (hw : Steady w w') (hv : Steady v v')
    (hfetch : ∃ f f' p, R.Fetches w' v' f f' p)
    (hstreams : ∀ m ∈ R.streams, HeldTwins w'.gateway v'.gateway w'.slots[m]? v'.slots[m]?) :
    R.Alike w' v' := by
  refine ⟨?_, ?_, hfetch, hstreams⟩
  · rw [hv.containers, hw.containers]
    exact h.containers
  · rw [hv.packages, hw.packages]
    exact h.packages

/-- Steps that leave the slots of a reader alone leave the hosts alike for it. -/
theorem Alike.kept (h : R.Alike w v) (hw : Steady w w') (hv : Steady v v')
    (hk : ∀ m ∈ R.slots, Keeps m w w') (hk' : ∀ m ∈ R.slots, Keeps m v v') : R.Alike w' v' := by
  obtain ⟨f, f', p, hf⟩ := h.fetch
  have hself : R.fetch ∈ R.slots := List.mem_cons_self ..
  refine h.step hw hv ⟨f, f', p, hf.kept hw hv (hk _ hself) (hk' _ hself)⟩ fun m hm => ?_
  have hmem : m ∈ R.slots := List.mem_cons_of_mem _ hm
  exact h.stream_kept hm hw hv (hk m hmem) (hk' m hmem)

end Reader

/-! ## §5. What the commands of a reader do. -/

namespace Host

variable {w : Host} {m : String}

theorem run_stream_none (hm : w.slots[m]? = none) (op : StreamOp) :
    run (.stream m op) w = (.noSlot, w) := by
  show withStream m _ w = _
  unfold withStream
  rw [get_bind_apply, hm]
  rfl

theorem run_stream_apply {s : ContentStream} (hs : w.slots[m]? = some (.stream s)) (op : StreamOp) :
    run (.stream m op) w = (.streamReply (op.run s w.gateway).1.1 (op.run s w.gateway).1.2,
      { w with
        gateway := (op.run s w.gateway).2
        slots := w.slots.insert m (.stream (op.run s w.gateway).1.2) }) :=
  withStream_some hs

theorem run_streamInfo_none (hm : w.slots[m]? = none) : run (.streamInfo m) w = (.noSlot, w) := by
  show withStream m _ w = _
  unfold withStream
  rw [get_bind_apply, hm]
  rfl

theorem run_streamInfo_apply {s : ContentStream} (hs : w.slots[m]? = some (.stream s)) :
    run (.streamInfo m) w = (.streamInfo s, w) :=
  withStream_some hs

theorem run_drop_none (hm : w.slots[m]? = none) : run (.drop m) w = (.noSlot, w) := by
  have hclear : clear m w = (false, w) := by
    unfold clear
    rw [get_bind_apply, hm]
    rfl
  show ((clear m >>= fun b => pure (if b then Answer.done else .noSlot)) : StateM Host Answer) w = _
  rw [bind_apply, hclear]
  rfl

theorem run_dropStream_apply {s : ContentStream} (hs : w.slots[m]? = some (.stream s)) :
    run (.drop m) w
      = (.done, { w with gateway := (s.drop w.gateway).2, slots := w.slots.erase m }) := by
  have hclear : clear m w
      = (true, { w with gateway := (s.drop w.gateway).2, slots := w.slots.erase m }) := by
    unfold clear
    rw [get_bind_apply, hs]
    rfl
  show ((clear m >>= fun b => pure (if b then Answer.done else .noSlot)) : StateM Host Answer) w = _
  rw [bind_apply, hclear]
  rfl

/-- The host right after the fetch in a slot gave its stream away, which is in hand. -/
def handingOver (w : Host) (slot : String) (r : (Option ContentStream × Fetch) × Gateway) : Host :=
  { w with gateway := r.2, slots := w.slots.insert slot (.fetch r.1.2) }

theorem run_handOver_eq {f : Fetch} {p : Package} (hf : w.slots[m]? = some (.fetch f))
    (hp : w.packages.get? f.package = some p) (ranged : Bool) (dest : String) :
    run (.handOver m ranged dest) w
      = (.handedOver (f.handOver p (w.isAttached p) ranged w.gateway).1.1
            (f.handOver p (w.isAttached p) ranged w.gateway).1.2,
          (storeStream dest (f.handOver p (w.isAttached p) ranged w.gateway).1.1
            (w.handingOver m (f.handOver p (w.isAttached p) ranged w.gateway))).2) :=
  withFetch_some hf hp

theorem store_of_empty (hm : w.slots[m]? = none) (o : Holding) :
    (store m o w).2 = { w with slots := w.slots.insert m o } := by
  unfold store
  rw [get_bind_apply, hm]
  rfl

theorem store_over_stream {s : ContentStream} (hm : w.slots[m]? = some (.stream s)) (o : Holding) :
    (store m o w).2
      = { w with gateway := (s.drop w.gateway).2, slots := w.slots.insert m o } := by
  unfold store
  rw [get_bind_apply, hm]
  rfl

end Host

theorem ContentStream.drop_faults (s : ContentStream) (g : Gateway) :
    (s.drop g).2.faults = g.faults := by
  unfold ContentStream.drop OwnedHandle.drop
  cases s.handle.released with
  | true => rfl
  | false => exact s.handle.giveBack_faults _

/-! ## §6. One command, and the slots that it leaves alone. -/

namespace Host

variable {L : String → Prop} {w w' : Host} {m : String}

/-- A stream is in hand that no slot holds. -/
structure InHand (L : String → Prop) (w : Host) (s : ContentStream) : Prop where
  serves : w.gateway.Serves .stream s.handle.get?
  alone : ∀ x, s.handle.get? = some x → ∀ l, L l → w.openAt l ≠ some x

/-- A stream in hand put into a slot, in the place of another, if any. -/
structure Stored (L : String → Prop) (m : String) (s : ContentStream) (w w' : Host) : Prop
    extends StepOn L [m] w w' where
  slot : w'.slots[m]? = some (.stream s)
  live : ∀ x, s.handle.get? = some x → w'.gateway.engine.live[x]? = w.gateway.engine.live[x]?

theorem store_inHand (hsep : Separate L w) (hL : L m)
    (hslot : w.slots[m]? = none ∨ ∃ old, w.slots[m]? = some (.stream old)) {s : ContentStream}
    (hs : InHand L w s) : Stored L m s w (store m (.stream s) w).2 := by
  have hself := insert_self w.slots m (.stream s)
  rcases hslot with hnone | ⟨old, hold⟩
  · rw [store_of_empty hnone]
    refine ⟨.put hsep hL (.refl _ _) id hs.serves fun x hx l hl _ => hs.alone x hx l hl, hself,
      fun _ _ => rfl⟩
  · rw [store_over_stream hold]
    have hopen : w.openAt m = old.handle.get? := openAt_of_slot hold
    have hspares : Spares (w.openAt m) w.gateway (old.drop w.gateway).2 :=
      hopen ▸ ContentStream.drop_spares (hopen ▸ hsep.serves m hL)
    -- the stream that makes way is another one
    have hlive : ∀ x, s.handle.get? = some x →
        (old.drop w.gateway).2.engine.live[x]? = w.gateway.engine.live[x]? := by
      intro x hx
      obtain ⟨o, ho, -⟩ := serves_object (hx ▸ hs.serves)
      exact hspares.live x (hsep.issued x o ho) (hs.alone x hx m hL)
    refine ⟨.put hsep hL hspares (fun hc => (old.drop_faults _).trans hc) (fun x hx => ?_)
      fun x hx l hl _ => hs.alone x hx l hl, hself, hlive⟩
    rw [hlive x hx]
    exact hs.serves x hx

end Host

namespace Reader

open Host

variable {R : Reader} {L : String → Prop} {w v : Host} {m : String}

section Commands

variable {f f' : Fetch} {p : Package} {s s' : ContentStream} {g' : Gateway} (hsep : Separate L w)

include hsep

theorem stream_stepOn (hL : L m) (hs : w.slots[m]? = some (.stream s))
    (htwins : ContentStream.Twins w.gateway s g' s') (op : StreamOp) :
    StepOn L [m] w (run (.stream m op) w).2 := by
  obtain ⟨hspares, hkept⟩ := StreamOp.run_spares htwins.serves op
  have hrest := (StreamOp.run_twins htwins op).rest
  rw [run_stream_apply hs]
  refine .put hsep hL (openAt_of_slot hs ▸ hspares) (fun _ => hrest.calm) hrest.serves ?_
  exact fun x hx l hl hne => hsep.alone hL (.inl ((openAt_of_slot hs).trans (hkept x hx))) hl hne

theorem drop_stepOn (hL : L m) (hs : w.slots[m]? = some (.stream s)) :
    StepOn L [m] w (run (.drop m) w).2 := by
  have hopen : w.openAt m = s.handle.get? := openAt_of_slot hs
  rw [run_dropStream_apply hs]
  exact .emptied hsep hL (hopen ▸ ContentStream.drop_spares (hopen ▸ hsep.serves m hL))
    fun hc => (s.drop_faults _).trans hc

theorem fetch_stepOn (hL : L R.fetch) (hf : R.Fetches w v f f' p) (op : FetchOp) :
    StepOn L [R.fetch] w (run (.fetch R.fetch op) w).2 := by
  have hconfined := Fetch.run_confined hf.twins hf.known (w.isAttached p) op
  have hrest := (Fetch.run_twins hf.twins hf.known (w.isAttached p) op).rest
  have hopen : w.openAt R.fetch = f.openHandle? := openAt_of_slot hf.here
  rw [run_fetch_apply op hf.here hf.package]
  refine .put hsep hL (hopen ▸ hconfined.spares) (fun _ => hrest.calm) hrest.serves ?_
  exact fun x hx l hl hne => hsep.alone hL (hopen ▸ hconfined.handle x hx) hl hne

/-- A fetch that gave its stream away holds none, and the stream is in hand. -/
theorem handingOver_stepOn (hL : L R.fetch) (hf : R.Fetches w v f f' p) (ranged : Bool) :
    let r := f.handOver p (w.isAttached p) ranged w.gateway
    StepOn L [R.fetch] w (w.handingOver R.fetch r)
      ∧ ∀ s, r.1.1 = some s → InHand L (w.handingOver R.fetch r) s := by
  intro r
  obtain ⟨hspares, hnone, hnew⟩ := Fetch.handOver_confined hf.twins hf.known (w.isAttached p) ranged
  have hhanded := Fetch.handOver_twins hf.twins hf.known (w.isAttached p) ranged
  have hopen := openAt_of_slot hf.here
  have hempty : Holding.openHandle? (.fetch r.1.2) = none := Fetch.openHandle?_of_none hnone
  have hstep : StepOn L [R.fetch] w (w.handingOver R.fetch r) := by
    refine .put hsep hL (hopen ▸ hspares) (fun _ => hhanded.fetch.calm) ?_ ?_
    · rw [hempty]
      exact fun x hx => absurd hx (by simp)
    · rw [hempty]
      exact fun x hx => absurd hx (by simp)
  refine ⟨hstep, fun s hs => ⟨?_, fun x hx l hl hx' => ?_⟩⟩
  · rcases hhanded.of_handed with ⟨hnone, -⟩ | ⟨s₀, s', hs₀, -, htwins⟩
    · exact absurd (hnone.symm.trans hs) (by simp)
    · obtain rfl : s₀ = s := Option.some.inj (hs₀.symm.trans hs)
      exact htwins.serves
  · by_cases hlf : l = R.fetch
    · rw [hlf, openAt_of_slot (insert_self _ _ _), hempty] at hx'
      exact absurd hx' (by simp)
    · have hkeeps := hstep.keeps l hl (by simpa using hlf)
      rw [openAt_congr hkeeps.slot] at hx'
      have hx'' := hnew s hs x hx
      exact hsep.alone hL (hopen ▸ hx'') hl hlf hx'

end Commands

/-! ## §7. One command in two hosts. -/

section Two

variable {w' v' : Host}

/-- Work on a slot for streams that ends with twins. -/
theorem Alike.after_stream (h : R.Alike w v) (hR : ∀ m ∈ R.slots, L m) (hm : m ∈ R.streams)
    (hw : StepOn L [m] w w') (hv : StepOn L [m] v v')
    (hheld : HeldTwins w'.gateway v'.gateway w'.slots[m]? v'.slots[m]?) : R.Alike w' v' := by
  have hkeeps : ∀ l ∈ R.slots, l ≠ m → Keeps l w w' ∧ Keeps l v v' := fun l hl hne =>
    ⟨hw.keeps l (hR l hl) (by simpa using hne), hv.keeps l (hR l hl) (by simpa using hne)⟩
  obtain ⟨f, f', p, hf⟩ := h.fetch
  obtain ⟨hk, hk'⟩ := hkeeps R.fetch (List.mem_cons_self ..) (h.fetch_ne hm)
  refine h.step hw.steady hv.steady ⟨f, f', p, hf.kept hw.steady hv.steady hk hk'⟩ fun l hl => ?_
  by_cases hlm : l = m
  · exact hlm ▸ hheld
  · obtain ⟨hk, hk'⟩ := hkeeps l (List.mem_cons_of_mem _ hl) hlm
    exact h.stream_kept hl hw.steady hv.steady hk hk'

/-- Work on the slot of the fetch that ends with twins. -/
theorem Alike.after_fetch (h : R.Alike w v) (hR : ∀ m ∈ R.slots, L m)
    (hw : StepOn L [R.fetch] w w') (hv : StepOn L [R.fetch] v v') {f f' p}
    (hf : R.Fetches w' v' f f' p) : R.Alike w' v' := by
  refine h.step hw.steady hv.steady ⟨f, f', p, hf⟩ fun l hl => ?_
  have hlL : L l := hR l (List.mem_cons_of_mem _ hl)
  have hlf : l ∉ [R.fetch] := by simpa using (h.fetch_ne hl).symm
  exact h.stream_kept hl hw.steady hv.steady (hw.keeps l hlL hlf) (hv.keeps l hlL hlf)

/-- A command was answered alike in two hosts, and left them alike. -/
structure AnsweredAlike (R : Reader) (L : String → Prop) (c : Command) (w v : Host) : Prop where
  step : StepOn L c.writes w (run c w).2
  step' : StepOn L c.writes v (run c v).2
  answer : (run c v).1.nameless = (run c w).1.nameless
  alike : R.Alike (run c w).2 (run c v).2

variable (h : R.Alike w v) (hsep : Separate L w) (hsep' : Separate L v)

include h hsep hsep'

/-- A command that only looks. -/
theorem AnsweredAlike.of_same {c : Command} {a a' : Answer} (hrun : run c w = (a, w))
    (hrun' : run c v = (a', v)) (ha : a'.nameless = a.nameless) : AnsweredAlike R L c w v := by
  refine ⟨hrun ▸ .refl hsep _, hrun' ▸ .refl hsep' _, ?_, ?_⟩
  · rw [hrun, hrun']
    exact ha
  · rw [hrun, hrun']
    exact h

theorem streamInfo_alike (hm : m ∈ R.streams) : AnsweredAlike R L (.streamInfo m) w v := by
  rcases h.held hm with ⟨hs, hs'⟩ | ⟨s, s', hs, hs', htwins⟩
  · exact .of_same h hsep hsep' (run_streamInfo_none hs) (run_streamInfo_none hs') rfl
  · exact .of_same h hsep hsep' (run_streamInfo_apply hs) (run_streamInfo_apply hs')
      (congrArg Answer.streamInfo htwins.same)

theorem fetchInfo_alike : AnsweredAlike R L (.fetchInfo R.fetch) w v := by
  obtain ⟨f, f', p, hf⟩ := h.fetch
  have hf' := hf.symm h.packages
  exact .of_same h hsep hsep' (withFetch_some hf.here hf.package)
    (withFetch_some hf'.here hf'.package)
    (congrArg (fun f => Answer.fetchInfo f p.handle.handle) hf.twins.nameless)

variable (hR : ∀ m ∈ R.slots, L m)

include hR

theorem stream_alike (hm : m ∈ R.streams) (op : StreamOp) :
    AnsweredAlike R L (.stream m op) w v := by
  have hL : L m := hR m (List.mem_cons_of_mem _ hm)
  rcases h.held hm with ⟨hs, hs'⟩ | ⟨s, s', hs, hs', htwins⟩
  · exact .of_same h hsep hsep' (run_stream_none hs op) (run_stream_none hs' op) rfl
  have hpairs := StreamOp.run_twins htwins op
  have hstep := stream_stepOn hsep hL hs htwins op
  have hstep' := stream_stepOn hsep' hL hs' htwins.symm op
  refine ⟨hstep, hstep', ?_, h.after_stream hR hm hstep hstep' ?_⟩
  · rw [run_stream_apply hs, run_stream_apply hs']
    unfold Answer.nameless
    dsimp only
    rw [hpairs.answer, hpairs.rest.same]
  · rw [run_stream_apply hs, run_stream_apply hs']
    dsimp only
    rw [insert_self, insert_self]
    exact .stream hpairs.rest

theorem drop_alike (hm : m ∈ R.streams) : AnsweredAlike R L (.drop m) w v := by
  have hL : L m := hR m (List.mem_cons_of_mem _ hm)
  rcases h.held hm with ⟨hs, hs'⟩ | ⟨s, s', hs, hs', htwins⟩
  · exact .of_same h hsep hsep' (run_drop_none hs) (run_drop_none hs') rfl
  have hstep := drop_stepOn hsep hL hs
  have hstep' := drop_stepOn hsep' hL hs'
  have hself : ∀ slots : Std.ExtTreeMap String Holding, (slots.erase m)[m]? = none := by
    intro slots
    simp
  refine ⟨hstep, hstep', ?_, h.after_stream hR hm hstep hstep' ?_⟩
  · rw [run_dropStream_apply hs, run_dropStream_apply hs']
  · rw [run_dropStream_apply hs, run_dropStream_apply hs']
    dsimp only
    rw [hself, hself]
    exact .nothing

theorem fetch_alike (op : FetchOp) : AnsweredAlike R L (.fetch R.fetch op) w v := by
  have hL : L R.fetch := hR R.fetch (List.mem_cons_self ..)
  obtain ⟨f, f', p, hf⟩ := h.fetch
  have hf' := hf.symm h.packages
  have hstep := fetch_stepOn hsep hL hf op
  have hstep' := fetch_stepOn hsep' hL hf' op
  have hpairs := Fetch.run_twins hf.twins hf.known (w.isAttached p) op
  have hpackage := (f.run_forward p (w.isAttached p) op w.gateway).2
  have hrun := run_fetch_apply op hf.here hf.package
  have hrun' := run_fetch_apply op hf'.here hf'.package
  rw [h.isAttached] at hrun'
  rw [hrun] at hstep
  rw [hrun'] at hstep'
  have hfetches := hf.replaced hstep.steady hstep'.steady (insert_self _ _ _) (insert_self _ _ _)
    hpairs.rest hpackage
  refine ⟨hrun ▸ hstep, hrun' ▸ hstep', ?_, ?_⟩
  · rw [hrun, hrun']
    unfold Answer.nameless
    dsimp only
    rw [hpairs.answer, hpairs.rest.nameless]
  · rw [hrun, hrun']
    exact h.after_fetch hR hstep hstep' hfetches

theorem handOver_alike (hm : m ∈ R.streams) (ranged : Bool) :
    AnsweredAlike R L (.handOver R.fetch ranged m) w v := by
  have hL : L R.fetch := hR R.fetch (List.mem_cons_self ..)
  have hLm : L m := hR m (List.mem_cons_of_mem _ hm)
  obtain ⟨f, f', p, hf⟩ := h.fetch
  have hf' := hf.symm h.packages
  have hhanded := Fetch.handOver_twins hf.twins hf.known (w.isAttached p) ranged
  have hpackage := (f.handOver_forward p (w.isAttached p) ranged w.gateway).2
  have hrun := run_handOver_eq hf.here hf.package ranged m
  have hrun' := run_handOver_eq hf'.here hf'.package ranged m
  -- first the fetches give their streams away
  obtain ⟨hfirst, hhand⟩ := handingOver_stepOn hsep hL hf ranged
  obtain ⟨hfirst', hhand'⟩ := handingOver_stepOn hsep' hL hf' ranged
  rw [h.isAttached] at hrun' hfirst' hhand'
  generalize f.handOver p (w.isAttached p) ranged w.gateway
    = r at hhanded hpackage hrun hfirst hhand
  generalize f'.handOver p (w.isAttached p) ranged v.gateway = r' at hhanded hrun' hfirst' hhand'
  have hfetches := hf.replaced hfirst.steady hfirst'.steady (insert_self _ _ _) (insert_self _ _ _)
    hhanded.fetch hpackage
  have hmiddle := h.after_fetch hR hfirst hfirst' hfetches
  -- then these are stored, if there are any
  suffices hstored : StepOn L [m] (w.handingOver R.fetch r) (run (.handOver R.fetch ranged m) w).2
      ∧ StepOn L [m] (v.handingOver R.fetch r') (run (.handOver R.fetch ranged m) v).2
      ∧ r'.1.1.map ContentStream.nameless = r.1.1.map ContentStream.nameless
      ∧ R.Alike (run (.handOver R.fetch ranged m) w).2 (run (.handOver R.fetch ranged m) v).2 by
    obtain ⟨hstep, hstep', hstreams, halike⟩ := hstored
    refine ⟨hfirst.trans hstep, hfirst'.trans hstep', ?_, halike⟩
    rw [hrun, hrun']
    unfold Answer.nameless
    dsimp only
    rw [hstreams, hhanded.fetch.nameless]
  rw [hrun, hrun']
  dsimp only
  rcases hhanded.of_handed with ⟨hs, hs'⟩ | ⟨s, s', hs, hs', htwins⟩
  · rw [hs, hs']
    exact ⟨.refl hfirst.separate _, .refl hfirst'.separate _, rfl, hmiddle⟩
  · have hstored := store_inHand hfirst.separate hLm (hmiddle.free hm) (hhand s hs)
    have hstored' := store_inHand hfirst'.separate hLm (hmiddle.symm.free hm) (hhand' s' hs')
    rw [hs, hs']
    refine ⟨hstored.toStepOn, hstored'.toStepOn, congrArg some htwins.same,
      hmiddle.after_stream hR hm hstored.toStepOn hstored'.toStepOn ?_⟩
    rw [show (storeStream m (some s)) = store m (.stream s) from rfl, hstored.slot,
      show (storeStream m (some s')) = store m (.stream s') from rfl, hstored'.slot]
    exact .stream (htwins.congr (hstored.steady.calm htwins.calm)
      (hstored'.steady.calm htwins.calm') hstored.live hstored'.live)

/-- **A command of a reader is answered alike** in hosts that it finds alike. -/
theorem run_alike {c : Command} (hc : R.asks c = true) : AnsweredAlike R L c w v := by
  cases c with
  | fetch slot op =>
    obtain rfl : slot = R.fetch := by simpa [asks] using hc
    exact fetch_alike h hsep hsep' hR op
  | fetchInfo slot =>
    obtain rfl : slot = R.fetch := by simpa [asks] using hc
    exact fetchInfo_alike h hsep hsep'
  | handOver slot ranged dest =>
    obtain ⟨rfl, hm⟩ : slot = R.fetch ∧ dest ∈ R.streams := by simpa [asks] using hc
    exact handOver_alike h hsep hsep' hR hm ranged
  | stream slot op =>
    have hm : slot ∈ R.streams := by simpa [asks] using hc
    exact stream_alike h hsep hsep' hR hm op
  | streamInfo slot =>
    have hm : slot ∈ R.streams := by simpa [asks] using hc
    exact streamInfo_alike h hsep hsep' hm
  | drop slot =>
    have hm : slot ∈ R.streams := by simpa [asks] using hc
    exact drop_alike h hsep hsep' hR hm
  | _ => exact absurd hc (by simp [asks])

end Two

/-- A command of a reader works on no slot of another. -/
theorem asks_writes {c : Command} (hc : R.asks c = true) : ∀ m ∈ c.writes, m ∈ R.slots := by
  cases c <;> simp_all [asks, Command.writes, slots]

/-- A reader finds two hosts alike whatever other readers ask in one of them. -/
theorem Alike.bystander {S : Reader} (hS : S.Alike w v) (hSL : ∀ m ∈ S.slots, L m)
    (hdisjoint : ∀ m ∈ S.slots, m ∉ R.slots) {c : Command} (hc : R.asks c = true) {w' v' : Host}
    (hw : StepOn L c.writes w w') (hv : StepOn L c.writes v v') : S.Alike w' v' := by
  have hleft : ∀ m ∈ S.slots, m ∉ c.writes := fun m hm hw => hdisjoint m hm (asks_writes hc m hw)
  exact hS.kept hw.steady hv.steady (fun m hm => hw.keeps m (hSL m hm) (hleft m hm))
    fun m hm => hv.keeps m (hSL m hm) (hleft m hm)

end Reader

end EpubAccess
