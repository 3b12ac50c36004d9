/-
  EpubAccess.Proofs.Ownership.TeardownOrder
  ────────────────────────────────
  How containers go away, over whole runs.

  However a container goes away, the engine sees its own handle given back
  first and then, in the order of its list, the handles of those of its
  packages that were not closed before, in one go; nothing about it comes
  later.  So the engine warns of a package that came before its container
  exactly where the host closed the package itself.  A container that went
  away never stands again, so every later request to close it is answered
  without the engine.

  Main results:

    • `Host.Reaches.fate`: a container that stood stands or was torn down,
    • `Host.Consistent.goneForGood`: what went away stays away,
    • `Host.containers_torn_down_in_order`: both, with the warnings, over whole
      runs.
-/
import EpubAccess.Proofs.Lifetimes.Commands

namespace EpubAccess.Host

variable {calm : Prop} {T : String → Prop} {w w' : Host}

/-! ## §1. The handles of a container. -/

/-- The handles of a container and of its packages, closed ones too. -/
def familyHandles (w : Host) (c : Container) : List Handle :=
  c.handle.handle :: c.packages.filterMap fun k => (w.packages.get? k).map fun p => p.handle.handle

/-- The container was torn down in one go between two points of a run, and
nothing about it or its packages came later. -/
structure TornDownBetween (w w' : Host) (c : Container) : Prop where
  calls : ∃ pre post, w'.log = w.log ++ pre ++ w.teardown c pre ++ post
    ∧ .releaseHandle c.handle.handle ∉ w.log ++ pre
    ∧ ∀ d ∈ post, ∀ h ∈ w.familyHandles c, d.handle? ≠ some h

/-- A container that stands was not given back yet. -/
theorem Sound.not_released_of_standing (hw : Sound calm w .none) {id : ContainerId} {c : Container}
    (hst : w.standing? id = some c) : .releaseHandle c.handle.handle ∉ w.log := by
  intro hmem
  obtain ⟨hc, hr⟩ := standing?_eq_some.mp hst
  obtain ⟨hheld, -⟩ := hw.held_container hc
  obtain ⟨o, ho, -⟩ := hw.ledger.object (.inl ⟨_, hheld⟩) hr
  rw [(hw.ledger.spent _ hmem rfl _ rfl).2] at ho
  exact absurd ho (by simp)

theorem spares_eq_true {new : List Call} {h : Handle} :
    spares new h = true ↔ .releaseHandle h ∉ new := by
  simp [spares]

/-- Every handle of the family was given back before the calls that follow a
teardown. -/
theorem Sound.family_released (hw : Sound calm w .none) {c : Container}
    (pre : List Call) (h : Handle)
    (hh : h ∈ w.familyHandles c) :
    ∃ r ∈ w.log ++ pre ++ w.teardown c pre, r.isRelease = true ∧ r.handle? = some h := by
  rcases List.mem_cons.mp hh with rfl | hh
  · exact ⟨.releaseHandle c.handle.handle,
      List.mem_append_right _ (List.mem_cons_self ..), rfl, rfl⟩
  · obtain ⟨k, hk, hkp⟩ := List.mem_filterMap.mp hh
    obtain ⟨p, hp, rfl⟩ := Option.map_eq_some_iff.mp hkp
    obtain ⟨hheld, -⟩ := hw.held_package hp
    cases hr : p.handle.released with
    | true =>
      -- a package that was closed before was given back then
      obtain ⟨r, hmem, hrel⟩ := hw.ledger.ended _ (hw.ledger.issued _ (.inl ⟨_, hheld⟩))
        (hw.ledger.not_live (.inl ⟨_, hheld⟩) hr)
      exact ⟨r, List.mem_append_left _ (List.mem_append_left _ hmem), hrel⟩
    | false =>
      refine ⟨.releaseHandle p.handle.handle, ?_, rfl, rfl⟩
      cases hs : spares pre p.handle.handle with
      | false =>
        have hmem : Call.releaseHandle p.handle.handle ∈ pre := by
          by_contra hn
          rw [spares_eq_true.mpr hn] at hs
          exact absurd hs (by simp)
        exact List.mem_append_left _ (List.mem_append_right _ hmem)
      | true =>
        have hopen : p.handle.handle ∈ w.openHandles c :=
          List.mem_filterMap.mpr ⟨k, hk, packageHandle?_eq_some.mpr ⟨p, hp, hr, rfl⟩⟩
        have hleft : p.handle.handle ∈ (w.openHandles c).filter (spares pre) :=
          List.mem_filter.mpr ⟨hopen, hs⟩
        exact List.mem_append_right _ (List.mem_cons_of_mem _ (List.mem_map_of_mem hleft))

/-- What became of a container that stood. -/
theorem Reaches.fate {n : Nat} (hw : Sound calm w .none) (h : Reaches calm T n w w' .none)
    {id : ContainerId} {c : Container} (hst : w.standing? id = some c) :
    (w'.standing? id = some c ∧ .releaseHandle c.handle.handle ∉ w'.log)
      ∨ (w'.standing? id = none ∧ TornDownBetween w w' c) := by
  obtain ⟨new, hev⟩ := h.evolves
  rcases hev.fate id c hst with hs | ht
  · exact .inl ⟨hs.standing, h.sound.not_released_of_standing hs.standing⟩
  · obtain ⟨pre, post, hnew, hpre⟩ := ht.calls
    have hlog : w'.log = w.log ++ pre ++ w.teardown c pre ++ post := by
      rw [hev.log, hnew]
      simp only [List.append_assoc]
    refine .inr ⟨ht.gone, ⟨pre, post, hlog, fun hmem => ?_, fun d hd x hx => ?_⟩⟩
    · rcases List.mem_append.mp hmem with hmem | hmem
      · exact hw.not_released_of_standing hst hmem
      · exact spares_eq_true.mp hpre hmem
    -- after a call that gave a handle back none is about it
    · obtain ⟨r, hr, hrel, hrx⟩ := hw.family_released pre x hx
      have horder := h.sound.ledger.order
      rw [show w'.gateway.engine.log = _ from hlog, List.pairwise_append] at horder
      rw [← hrx]
      exact horder.2.2 r hr d hd hrel

/-- Closing a container that does not stand reaches no engine. -/
theorem closeContainer_gone {id : ContainerId} (hst : w.standing? id = none) :
    (closeContainer id w).1 = false
      ∧ (closeContainer id w).2.gateway.engine = w.gateway.engine := by
  cases hc : w.containers.get? id with
  | none =>
    have hrun : closeContainer id w = (false, w) := by
      unfold closeContainer
      rw [Stateful.get_bind_apply, hc]
      rfl
    rw [hrun]
    exact ⟨rfl, rfl⟩
  | some c =>
    have hr : c.handle.released = true := by
      by_contra hr
      rw [standing?_eq_some.mpr ⟨hc, by simpa using hr⟩] at hst
      exact absurd hst (by simp)
    rw [closeContainer_of_released hc hr]
    exact ⟨rfl, rfl⟩

/-- A request to close a container that does not stand. -/
theorem run_close_gone {slot : String} {id : ContainerId} {c : Container}
    (ho : w.slots[slot]? = some (.container id)) (hc : w.containers.get? id = some c)
    (hst : w.standing? id = none) :
    (run (.container slot .close) w).1 = .flag false
      ∧ (run (.container slot .close) w).2.gateway.engine = w.gateway.engine := by
  obtain ⟨hanswer, hengine⟩ := closeContainer_gone hst
  have hrun : run (.container slot .close) w
      = (.flag (closeContainer id w).1, (closeContainer id w).2) := withContainer_some ho hc
  rw [hrun]
  exact ⟨congrArg Answer.flag hanswer, hengine⟩

/-- The container went away for good: whatever is done later, it does not stand,
and a request to close it reaches no engine and is answered with no. -/
structure GoneForGood (w : Host) (id : ContainerId) : Prop where
  standing : ∀ cs, (after cs w).standing? id = none
  closing : ∀ cs slot, (after cs w).slots[slot]? = some (.container id) →
    (run (.container slot .close) (after cs w)).1 = .flag false
      ∧ (run (.container slot .close) (after cs w)).2.gateway.engine = (after cs w).gateway.engine

/-- **What went away stays away**, since no number is given twice. -/
theorem Consistent.goneForGood {id : ContainerId} (hw : Consistent w) (hgone : w.Gone id) :
    GoneForGood w id := by
  have hlater : ∀ cs, (after cs w).Gone id := fun cs => (after_later cs hw).gone hgone
  refine ⟨fun cs => (hlater cs).2, ?_⟩
  intro cs slot ho
  obtain ⟨c, hc⟩ := (after_later cs hw).after.ownedContainers slot _ ho id
    (by simp [Holding.containers])
  exact run_close_gone ho hc (hlater cs).2

/-- A run in which the host never closes a package itself has no early closes. -/
theorem earlyCloses_eq_zero (cs : List Command) (h : ∀ c ∈ cs, ∀ slot, c ≠ .package slot .close)
    (w : Host) : earlyCloses cs w = 0 := by
  induction cs generalizing w with
  | nil => rfl
  | cons c cs ih =>
    have hearly : w.closesEarly c = false := by
      unfold closesEarly
      split
      · next slot => exact absurd rfl (h _ (List.mem_cons_self ..) slot)
      · rfl
    unfold earlyCloses
    rw [hearly, ih fun d hd => h d (List.mem_cons_of_mem _ hd)]
    rfl

/-! ## §2. Teardown over whole runs. -/

/-- **Teardown order over whole runs.**  A container that stands at some point
of a run still stands at a later one and was not given back, or it was torn
down in one go and is gone for good.  Closing one that does not stand reaches
no engine and answers no.  And at every point the engine warned as often as the
host closed a package, with success, while its container stood: never if it
closes none itself. -/
theorem containers_torn_down_in_order (cs cs' : List Command)
    (h : ∀ c ∈ cs ++ cs', c.isDirect = false) :
    (∀ id c, (after cs fresh).standing? id = some c →
        ((after cs' (after cs fresh)).standing? id = some c
            ∧ .releaseHandle c.handle.handle ∉ (after cs' (after cs fresh)).log)
          ∨ ((after cs' (after cs fresh)).standing? id = none
            ∧ TornDownBetween (after cs fresh) (after cs' (after cs fresh)) c
            ∧ GoneForGood (after cs' (after cs fresh)) id))
      ∧ (∀ slot id c, (after cs fresh).slots[slot]? = some (.container id) →
          (after cs fresh).containers.get? id = some c → (after cs fresh).standing? id = none →
          (run (.container slot .close) (after cs fresh)).1 = .flag false
            ∧ (run (.container slot .close) (after cs fresh)).2.gateway.engine
                = (after cs fresh).gateway.engine)
      ∧ (after cs fresh).gateway.engine.registryWarnings = earlyCloses cs fresh
      ∧ ((∀ c ∈ cs, ∀ slot, c ≠ .package slot .close) →
          (after cs fresh).gateway.engine.registryWarnings = 0) := by
  have hcs : ∀ c ∈ cs, c.isDirect = false := fun c hc => h c (List.mem_append_left _ hc)
  have hw := sound_after cs hcs
  have hwarn : (after cs fresh).gateway.engine.registryWarnings = earlyCloses cs fresh := by
    obtain ⟨new, hev⟩ := (runAll_reaches (T := fun _ => True) cs hcs (fun h => h.elim)
      (fun _ _ _ _ => trivial) (.fresh False)).evolves
    rw [hev.warnings]
    exact Nat.zero_add _
  refine ⟨?_, fun slot id c ho hc hst => run_close_gone ho hc hst, hwarn, ?_⟩
  · intro id c hst
    have hstep := runAll_reaches (T := fun _ => True) cs'
      (fun c hc => h c (List.mem_append_right _ hc)) (fun h => h.elim) (fun _ _ _ _ => trivial) hw
    rcases hstep.fate hw hst with hstill | ⟨hgone, htorn⟩
    · exact .inl hstill
    · have hlater := after_later cs' (consistent_after cs)
      have hid : id < (after cs' (after cs fresh)).containers.next :=
        Nat.lt_of_lt_of_le (hlater.before.standing_next hst) hlater.containersNext
      exact .inr ⟨hgone, htorn, hlater.after.goneForGood ⟨hid, hgone⟩⟩
  · intro hnone
    rw [hwarn, earlyCloses_eq_zero cs hnone]

theorem containers_torn_down_in_order_sample :
    (∀ c ∈ sampleSession ++ [.container "container" .close], c.isDirect = false)
      ∧ ∃ c, (after sampleSession fresh).standing? 0 = some c
        ∧ TornDownBetween (after sampleSession fresh)
            (after [.container "container" .close] (after sampleSession fresh)) c
        ∧ GoneForGood (after [.container "container" .close] (after sampleSession fresh)) 0 := by
  have hdirect : ∀ c ∈ sampleSession ++ [.container "container" .close], c.isDirect = false := by
    decide
  have hstands : ((after sampleSession fresh).standing? 0).isSome = true := by decide +kernel
  have hgone : ((after [.container "container" .close]
      (after sampleSession fresh)).standing? 0).isSome = false := by decide +kernel
  obtain ⟨c, hc⟩ := Option.isSome_iff_exists.mp hstands
  refine ⟨hdirect, c, hc, ?_⟩
  have hfate := (containers_torn_down_in_order sampleSession [.container "container" .close]
    hdirect).1 0 c hc
  rcases hfate with ⟨hstill, -⟩ | ⟨-, htorn, hforever⟩
  · rw [hstill] at hgone
    exact absurd hgone (by simp)
  · exact ⟨htorn, hforever⟩

end EpubAccess.Host
