/-
  EpubAccess.Proofs.Fetches.Independence
  ────────────────────────────────
  Fetches do not interfere.

  Two readers stand in one host, each with a fetch of an open package and slots
  of its own.  Whatever they ask, in whatever order, each of them gets the
  answers that it would get alone (`Host.fetches_independent`); the two packages
  and the two paths may be the same.  Answers tell bytes, lengths, positions,
  errors and what is absent; the numbers of the handles of streams are left out
  of them, for these do depend on what others opened before.

  The run of the two is compared with the run of one command after command
  (`Reader.answers_filter`): the commands of the one are answered alike in both,
  and those of the other leave the slots of the one alone.
-/
import EpubAccess.Proofs.Fetches.Readers

namespace EpubAccess

open Stateful Gateway Host

/-! ## §1. Readers that stand. -/

/-- Streams whose handles are live are their own twins. -/
theorem ContentStream.Twins.self {g : Gateway} {s : ContentStream} (hcalm : g.faults = .none)
    (hs : g.Serves .stream s.handle.get?) : ContentStream.Twins g s g s := by
  refine ⟨hcalm, hcalm, rfl, fun hopen => ?_⟩
  rw [OwnedHandle.get?_eq_some hopen] at hs
  obtain ⟨o, ho, hk⟩ := serves_object hs
  cases o with
  | stream c => exact ⟨c, ho, ho⟩
  | container a => exact absurd hk (by simp [LiveObject.kind])
  | package c a i => exact absurd hk (by simp [LiveObject.kind])

theorem Fetch.Twins.self {g : Gateway} {f : Fetch} (hcalm : g.faults = .none)
    (hs : g.Serves .stream f.openHandle?) : Fetch.Twins g f g f := by
  refine ⟨hcalm, hcalm, ⟨rfl, rfl, rfl⟩, rfl, ?_⟩
  cases hheld : f.stream with
  | none => exact .none
  | some s =>
    rw [openHandle?_of_some hheld] at hs
    exact .some (.self hcalm hs)

namespace Reader

variable {A B R : Reader} {w v : Host}

/-- A reader stands in a host: its slot holds a fetch of an open package, which
the engine serves, and each of its slots for streams is empty or holds one.  A
stream that was not closed is live. -/
structure Stands (R : Reader) (w : Host) : Prop where
  fetch : ∃ f p, w.slots[R.fetch]? = some (.fetch f) ∧ w.packages.get? f.package = some p
    ∧ p.isClosed = false ∧ w.gateway.Serves .package (some p.handle.handle)
  streams : ∀ m ∈ R.streams, w.slots[m]? = none ∨ ∃ s, w.slots[m]? = some (.stream s)
  served : ∀ m ∈ R.slots, w.gateway.Serves .stream (w.openAt m)

/-- A reader finds a host in which it stands like itself. -/
theorem Stands.alike (h : R.Stands w) (hcalm : w.gateway.faults = .none) : R.Alike w w := by
  refine ⟨rfl, rfl, ?_, fun m hm => ?_⟩
  · obtain ⟨f, p, hf, hp, hopen, hserves⟩ := h.fetch
    have hheld := h.served R.fetch (List.mem_cons_self ..)
    rw [openAt_of_slot hf] at hheld
    exact ⟨f, f, p, hf, hf, .self hcalm hheld, hp,
      ⟨hcalm, hcalm, hopen, hserves, hserves, fun _ => rfl⟩⟩
  · have hheld := h.served m (List.mem_cons_of_mem _ hm)
    rcases h.streams m hm with hs | ⟨s, hs⟩
    · rw [hs]
      exact .nothing
    · rw [openAt_of_slot hs] at hheld
      rw [hs]
      exact .stream (.self hcalm hheld)

/-- The handle of an open stream in a slot is held there. -/
theorem openAt_held {m : String} {x : Handle} (hx : w.openAt m = some x) :
    ∃ y, w.held (.slot m) = some y ∧ y.released = false ∧ y.handle = x := by
  have hget : ∀ y : OwnedHandle, y.get? = some x → y.released = false ∧ y.handle = x := by
    intro y hy
    cases hr : y.released with
    | true => exact absurd ((OwnedHandle.get?_eq_none hr).symm.trans hy) (by simp)
    | false => exact ⟨rfl, Option.some.inj ((OwnedHandle.get?_eq_some hr).symm.trans hy)⟩
  obtain ⟨o, ho, hopen⟩ := Option.bind_eq_some_iff.mp hx
  rw [held_slot ho]
  cases o with
  | stream s => exact ⟨s.handle, rfl, hget s.handle hopen⟩
  | fetch f =>
    obtain ⟨s, hs, hsx⟩ := Option.bind_eq_some_iff.mp hopen
    exact ⟨s.handle, by rw [Holding.handle?, hs]; rfl, hget s.handle hsx⟩
  | _ => exact absurd hopen (by simp [Holding.openHandle?])

/-- In a host that was used through the library alone an open package is served,
and so is every stream. -/
theorem Stands.of_sound {calm : Prop} (hw : Sound calm w .none) {f : Fetch} {p : Package}
    (hf : w.slots[R.fetch]? = some (.fetch f)) (hp : w.packages.get? f.package = some p)
    (hopen : p.isClosed = false)
    (hstreams : ∀ m ∈ R.streams, w.slots[m]? = none ∨ ∃ s, w.slots[m]? = some (.stream s)) :
    R.Stands w := by
  have hlive : ∀ pl x, w.held pl = some x → x.released = false →
      w.gateway.Serves pl.kind (some x.handle) := by
    rintro pl x hx hr y ⟨⟩
    rw [← hw.kinds pl x hx]
    exact hw.ledger.live x (.inl ⟨pl, hx⟩) hr
  refine ⟨⟨f, p, hf, hp, hopen, hlive (.package f.package) _ (held_package hp) hopen⟩, hstreams, ?_⟩
  intro m _ x hx
  obtain ⟨y, hy, hr, rfl⟩ := openAt_held hx
  exact hlive (.slot m) y hy hr y.handle rfl

end Reader

/-- Slots of an orderly host hold different streams. -/
theorem Host.Orderly.separate {L : String → Prop} {w : Host} (hw : Orderly w)
    (hserved : ∀ m, L m → w.gateway.Serves .stream (w.openAt m)) : Separate L w := by
  refine ⟨fun x o ho => ?_, hserved, fun m m' x _ _ => hw.apart m m' x⟩
  apply (hw.engine.known x).mpr
  exact .inl (Std.ExtTreeMap.mem_iff_isSome_getElem?.mpr (Option.isSome_of_eq_some ho))

/-! ## §2. Two readers. -/

namespace Reader

variable {A B R : Reader}

/-- The answers that a reader gets in a run. -/
def answers (R : Reader) : List Command → Host → List Answer :=
  collect fun c w => if R.asks c then [(run c w).1.nameless] else []

theorem answers_own {c : Command} (hc : R.asks c = true) (cs : List Command) (w : Host) :
    R.answers (c :: cs) w = (run c w).1.nameless :: R.answers cs (run c w).2 := by
  show (if R.asks c then _ else _) ++ _ = _
  rw [if_pos hc]
  rfl

theorem answers_other {c : Command} (hc : ¬ R.asks c = true) (cs : List Command) (w : Host) :
    R.answers (c :: cs) w = R.answers cs (run c w).2 := by
  show (if R.asks c then _ else _) ++ _ = _
  rw [if_neg hc]
  rfl

/-- **A reader gets the answers that it gets alone**, from hosts that it finds
alike.  In the first another reader asks as well. -/
theorem answers_filter {L : String → Prop} (hAL : ∀ m ∈ A.slots, L m) (hBL : ∀ m ∈ B.slots, L m)
    (hAB : ∀ m ∈ A.slots, m ∉ B.slots) (cs : List Command) :
    ∀ w v : Host, (∀ c ∈ cs, A.asks c = true ∨ B.asks c = true) → Separate L w → Separate L v →
      A.Alike w v → B.Alike w w → A.answers cs w = A.answers (cs.filter A.asks) v := by
  have hBA : ∀ m ∈ B.slots, m ∉ A.slots := fun m hB hA => hAB m hA hB
  induction cs with
  | nil =>
    intro w v _ _ _ _ _
    rfl
  | cons c cs ih =>
    intro w v hcs hw hv hA hB
    have hrest : ∀ d ∈ cs, A.asks d = true ∨ B.asks d = true := fun d hd =>
      hcs d (List.mem_cons_of_mem _ hd)
    by_cases hc : A.asks c = true
    · -- a command of the reader: both hosts answer it alike
      have hboth := run_alike hA hw hv hAL hc
      rw [List.filter_cons_of_pos hc, answers_own hc, answers_own hc, hboth.answer]
      congr 1
      apply ih _ _ hrest hboth.step.separate hboth.step'.separate hboth.alike
      exact hB.bystander hBL hBA hc hboth.step hboth.step
    · -- a command of the other one: the second host does not run it
      have hcB : B.asks c = true := (hcs c (List.mem_cons_self ..)).resolve_left hc
      have hboth := run_alike hB hw hw hBL hcB
      rw [List.filter_cons_of_neg hc, answers_other hc]
      apply ih _ _ hrest hboth.step.separate hv _ hboth.alike
      exact hA.bystander hAL hAB hcB hboth.step (.refl hv _)

end Reader

namespace Host

/-- **Fetches do not interfere.**  In whatever state a host is, let two fetches
be there, with slots for the streams that they hand out, no slot in common.  Let
their packages be open, and let no fault wait.  Then for every run of commands,
each of which uses one of the two fetches or a stream of its, the answers to the
uses of the one are those of the run without the uses of the other. -/
theorem fetches_independent (before cs : List Command) (A B : Reader)
    (hAB : ∀ m ∈ A.slots, m ∉ B.slots) (hcalm : (after before fresh).gateway.faults = .none)
    (hA : A.Stands (after before fresh)) (hB : B.Stands (after before fresh))
    (hcs : ∀ c ∈ cs, A.asks c = true ∨ B.asks c = true) :
    A.answers cs (after before fresh) = A.answers (cs.filter A.asks) (after before fresh)
      ∧ B.answers cs (after before fresh) = B.answers (cs.filter B.asks) (after before fresh) := by
  have hw := orderly_after before .fresh
  generalize after before fresh = w at hcalm hA hB hw ⊢
  have hsep : Separate (fun m => m ∈ A.slots ∨ m ∈ B.slots) w :=
    hw.separate fun m hm => hm.elim (hA.served m) (hB.served m)
  have hlike := hA.alike hcalm
  have hlike' := hB.alike hcalm
  have hBA : ∀ m ∈ B.slots, m ∉ A.slots := fun m hB hA => hAB m hA hB
  have hcs' : ∀ c ∈ cs, B.asks c = true ∨ A.asks c = true := fun c hc => (hcs c hc).symm
  constructor
  · exact Reader.answers_filter (fun _ => .inl) (fun _ => .inr) hAB cs w w hcs hsep hsep
      hlike hlike'
  · exact Reader.answers_filter (fun _ => .inr) (fun _ => .inl) hBA cs w w hcs' hsep hsep
      hlike' hlike

/-- Two fetches of one resource, one filtered and one raw. -/
def sampleFetches : List Command :=
  samplePreparation ++
    [.fetchResource "package" "text" false "one", .fetchResource "package" "text" true "two"]

/-- The one that reads the filtered resource. -/
def sampleFirst : Reader := ⟨"one", ["first"]⟩

/-- The one that reads the raw resource. -/
def sampleSecond : Reader := ⟨"two", ["second"]⟩

/-- The fetches used in turn.  The first has a stream while the second hands one
over, and its own stream gets a later handle than without the other. -/
def sampleTurns : List Command :=
  [.fetch "one" (.ensureStream false), .handOver "two" true "second", .fetch "one" .readAll,
    .stream "second" (.read 2), .handOver "one" false "first", .stream "second" .readAll,
    .stream "first" .readAll, .stream "second" .close]

theorem sampleFetches_sound : Sound True (after sampleFetches fresh) .none :=
  sound_of_calm (by decide) (.fresh True)

theorem sampleFetches_stands {R : Reader}
    (hfetch : ((after sampleFetches fresh).slots[R.fetch]?.bind Holding.fetch?).map
      (fun f => f.package) = some 0)
    (hstreams : ∀ m ∈ R.streams, (after sampleFetches fresh).slots[m]?.isNone = true) :
    R.Stands (after sampleFetches fresh) := by
  have hopen : ((after sampleFetches fresh).packages.get? 0).map Package.isClosed = some false := by
    decide +kernel
  obtain ⟨p, hp, hopen⟩ := Option.map_eq_some_iff.mp hopen
  obtain ⟨f, hf, hk⟩ := Option.map_eq_some_iff.mp hfetch
  refine .of_sound sampleFetches_sound (Holding.eq_fetch hf) (hk.symm ▸ hp) hopen
    fun m hm => .inl ?_
  exact Option.isNone_iff_eq_none.mp (hstreams m hm)

theorem fetches_independent_sample :
    (after sampleFetches fresh).gateway.faults = .none
      ∧ sampleFirst.Stands (after sampleFetches fresh)
      ∧ sampleSecond.Stands (after sampleFetches fresh)
      ∧ (∀ c ∈ sampleTurns, sampleFirst.asks c = true ∨ sampleSecond.asks c = true)
      ∧ sampleFirst.answers sampleTurns (after sampleFetches fresh)
          = sampleFirst.answers (sampleTurns.filter sampleFirst.asks) (after sampleFetches fresh)
      ∧ sampleSecond.answers sampleTurns (after sampleFetches fresh)
          = sampleSecond.answers (sampleTurns.filter sampleSecond.asks)
            (after sampleFetches fresh) := by
  have hcalm := sampleFetches_sound.calm trivial
  have hA : sampleFirst.Stands (after sampleFetches fresh) :=
    sampleFetches_stands (by decide +kernel) (by decide +kernel)
  have hB : sampleSecond.Stands (after sampleFetches fresh) :=
    sampleFetches_stands (by decide +kernel) (by decide +kernel)
  exact ⟨hcalm, hA, hB, by decide,
    fetches_independent sampleFetches sampleTurns sampleFirst sampleSecond
    (by decide) hcalm hA hB (by decide)⟩

end Host

end EpubAccess
