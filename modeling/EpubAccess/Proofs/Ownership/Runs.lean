/-
  EpubAccess.Proofs.Ownership.Runs
  ────────────────────────────────
  Who owns which handle, over whole runs.

  From `Host.run_reaches`, which says what one command does, follows by
  induction what a run does (`Host.runAll_reaches`).  So at every point of a
  run that goes through the library the live objects of the engine are those
  whose handle is held by exactly one object of the host, no call ever goes
  astray, and nothing is left once every slot was emptied
  (`Host.handles_held_once`).
-/
import EpubAccess.Host.Session
import EpubAccess.Proofs.Ownership.Commands

namespace EpubAccess

open Stateful

/-- Does the command go through the library and prepare no fault? -/
def Command.isCalm : Command → Bool
  | .inject _ => false
  | c => !c.isDirect

theorem Command.isDirect_of_isCalm {c : Command} (h : c.isCalm = true) : c.isDirect = false := by
  cases c <;> first | rfl | exact absurd h (by simp [isCalm, isDirect])

theorem Command.ne_inject_of_isCalm {c : Command} (h : c.isCalm = true) (f : Fault) :
    c ≠ .inject f := by
  rintro rfl
  exact absurd h (by simp [isCalm])

namespace Host

variable {calm : Prop} {T : String → Prop} {w : Host}

/-! ## §1. Runs. -/

/-- The host after some commands. -/
def after (cs : List Command) (w : Host) : Host := (runAll cs w).2

/-- How often a run closes a package itself, with success, while the container
of the package stands. -/
def earlyCloses : List Command → Host → Nat
  | [], _ => 0
  | c :: cs, w => (if w.closesEarly c then 1 else 0) + earlyCloses cs (run c w).2

theorem after_cons (c : Command) (cs : List Command) (w : Host) :
    after (c :: cs) w = after cs (run c w).2 := rfl

theorem after_append (cs cs' : List Command) (w : Host) :
    after (cs ++ cs') w = after cs' (after cs w) := by
  induction cs generalizing w with
  | nil => rfl
  | cons c cs ih => exact ih (run c w).2

/-- **What a run does**: the host stays sound and evolves, and the engine
warned as often as a package was closed early. -/
theorem runAll_reaches (cs : List Command) (hc : ∀ c ∈ cs, c.isDirect = false)
    (hq : calm → ∀ c ∈ cs, ∀ f, c ≠ .inject f) (hT : ∀ c ∈ cs, ∀ m ∈ c.writes, T m)
    (hw : Sound calm w .none) : Reaches calm T (earlyCloses cs w) w (after cs w) .none := by
  -- the induction is on the commands; soundness carries it from one to the next
  induction cs generalizing w with
  | nil => exact .refl hw
  | cons c cs ih =>
    have hone :=
      run_reaches c (hc c (List.mem_cons_self ..)) (fun h => hq h c (List.mem_cons_self ..)) hw
    obtain ⟨new, hev⟩ := hone.evolves
    have hstep : Reaches calm T (if w.closesEarly c then 1 else 0) w (run c w).2 .none :=
      ⟨hone.sound, new, hev.mono (hT c (List.mem_cons_self ..))⟩
    exact hstep.chain (ih (fun d hd => hc d (List.mem_cons_of_mem _ hd))
      (fun h d hd => hq h d (List.mem_cons_of_mem _ hd))
      (fun d hd => hT d (List.mem_cons_of_mem _ hd)) hone.sound)

/-- A host that went through the library is sound. -/
theorem sound_after (cs : List Command) (hc : ∀ c ∈ cs, c.isDirect = false) :
    Sound False (after cs fresh) .none :=
  (runAll_reaches (T := fun _ => True) cs hc (fun h => h.elim) (fun _ _ _ _ => trivial)
    (.fresh False)).sound

/-- What a calm command does. -/
theorem run_reaches_of_calm {c : Command} (hc : c.isCalm = true) (hw : Sound True w .none) :
    Reaches True (· ∈ c.writes) (if w.closesEarly c then 1 else 0) w (run c w).2 .none :=
  run_reaches c (Command.isDirect_of_isCalm hc) (fun _ => Command.ne_inject_of_isCalm hc) hw

/-- Calm commands leave a host sound. -/
theorem sound_of_calm {cs : List Command} (hc : ∀ c ∈ cs, c.isCalm = true)
    (hw : Sound True w .none) :
    Sound True (after cs w) .none :=
  (runAll_reaches (T := fun _ => True) cs (fun c h => Command.isDirect_of_isCalm (hc c h))
    (fun _ c h => Command.ne_inject_of_isCalm (hc c h)) (fun _ _ _ _ => trivial) hw).sound

/-! ## §2. Every slot emptied. -/

/-- Emptying a slot touches no other. -/
theorem clear_slots (m : String) (hw : Sound calm w .none) (l : String) :
    (clear m w).2.slots[l]? = if l = m then none else w.slots[l]? := by
  unfold clear
  rw [get_bind_apply]
  cases hold : w.slots[m]? with
  | none =>
    show w.slots[l]? = _
    split
    · next h => rw [h, hold]
    · rfl
  | some o =>
    have htake := Reaches.takeOut (T := (· = m)) hw rfl hold
    have hdrop := dropHolding_reaches (T := fun _ => False) htake.sound (hw.fits hold)
    refine (hdrop.slots_same l).trans ?_
    show (w.slots.erase m)[l]? = _
    by_cases h : l = m
    · simp [h]
    · simp [Std.ExtTreeMap.getElem?_erase, h, Ne.symm h]

theorem clearSlots_reaches (ms : List String) (hw : Sound calm w .none) :
    Reaches calm (fun _ => True) 0 w (ms.forM (fun m => discard (clear m)) w).2 .none
      ∧ ∀ l : String, (ms.forM (fun m => discard (clear m)) w).2.slots[l]?
          = if l ∈ ms then none else w.slots[l]? := by
  induction ms generalizing w with
  | nil => exact ⟨.refl hw, fun l => by simp [forM_nil]⟩
  | cons m ms ih =>
    have hone : Reaches calm (fun _ => True) 0 w (clear m w).2 .none := clear_reaches m hw trivial
    obtain ⟨hrest, hslots⟩ := ih hone.sound
    refine ⟨hone.trans hrest, fun l => ?_⟩
    show (ms.forM (fun m => discard (clear m)) (clear m w).2).2.slots[l]? = _
    rw [hslots l, clear_slots m hw]
    by_cases hl : l = m <;> by_cases hm : l ∈ ms <;> simp [hl, hm]

/-- Emptying every slot leaves none. -/
theorem clearAll_reaches (hw : Sound calm w .none) :
    Reaches calm (fun _ => True) 0 w (clearAll w).2 .none
      ∧ ∀ l : String, (clearAll w).2.slots[l]? = none := by
  have h := clearSlots_reaches w.slots.keys hw
  refine ⟨h.1, fun l => (h.2 l).trans ?_⟩
  split
  · rfl
  · next hl =>
    rw [Std.ExtTreeMap.mem_keys] at hl
    simpa using hl

/-- Without slots there are no objects. -/
theorem Sound.liveHandles_of_empty (hw : Sound calm w .none)
    (he : ∀ l : String, w.slots[l]? = none) :
    w.gateway.engine.liveHandles = 0 := by
  have hcontainer : ∀ id, w.containers.get? id = none := by
    intro id
    cases hc : w.containers.get? id with
    | none => rfl
    | some c =>
      rcases hw.containersOwned id c hc with hown | hdebt
      · obtain ⟨l, o, ho, -⟩ := (w.containerOwned_iff id).mp hown
        rw [he] at ho
        exact absurd ho (by simp)
      · exact absurd hdebt (by simp)
  -- a package is owned by a slot or by the list of a container, and there is neither
  have hpackage : ∀ k, w.packages.get? k = none := by
    intro k
    cases hp : w.packages.get? k with
    | none => rfl
    | some p =>
      rcases hw.packagesOwned k p hp with hown | hdebt
      · rcases (w.packageOwned_iff k).mp hown with ⟨l, o, ho, -⟩ | ⟨id, c, hc, -⟩
        · rw [he] at ho
          exact absurd ho (by simp)
        · rw [hcontainer] at hc
          exact absurd hc (by simp)
      · exact absurd hdebt (by simp)
  have hheld : ∀ pl, w.held pl = none := by
    intro pl
    cases pl with
    | container id => simp [held, hcontainer]
    | package k => simp [held, hpackage]
    | slot l => simp [held, he]
  -- whatever is live is held somewhere, and nothing is
  have hempty : w.gateway.engine.live = ∅ := by
    refine Std.ExtTreeMap.ext_getElem? fun h => ?_
    cases ho : w.gateway.engine.live[h]? with
    | none => simp
    | some o =>
      obtain ⟨x, hx, -⟩ := hw.ledger.owned h o ho
      rcases hx with ⟨pl, hpl⟩ | hx
      · rw [hheld] at hpl
        exact absurd hpl (by simp)
      · exact absurd hx (by simp)
  unfold Engine.liveHandles
  rw [hempty]
  rfl

/-! ## §3. Ownership over whole runs. -/

/-- The engine's live handles are those that the objects of the host hold
unreleased, every object has an owner, and no call went astray. -/
structure HeldOnce (w : Host) : Prop where
  live_iff : ∀ h : Handle, h ∈ w.gateway.engine.live ↔
    ∃ pl x, w.held pl = some x ∧ x.released = false ∧ x.handle = h
  once : ∀ pl pl' x x', w.held pl = some x → w.held pl' = some x' → x.handle = x'.handle → pl = pl'
  doubleReleases : w.gateway.engine.doubleReleases = 0
  danglingUses : w.gateway.engine.danglingUses = 0
  spent : w.log.Pairwise fun c d => c.isRelease = true → d.handle? ≠ c.handle?
  containersOwned : ∀ id c, w.containers.get? id = some c → w.containerOwned id = true
  packagesOwned : ∀ k p, w.packages.get? k = some p → w.packageOwned k = true

theorem Sound.heldOnce (hw : Sound calm w .none) : HeldOnce w := by
  refine ⟨fun h => ?_, hw.ledger.apart, hw.ledger.doubleReleases, hw.ledger.danglingUses,
    hw.ledger.order, fun id c hc => (hw.containersOwned id c hc).resolve_right (by simp),
    fun k p hp => (hw.packagesOwned k p hp).resolve_right (by simp)⟩
  rw [Std.ExtTreeMap.mem_iff_isSome_getElem?]
  constructor
  · intro hs
    obtain ⟨o, ho⟩ := Option.isSome_iff_exists.mp hs
    obtain ⟨x, hx, hr, hh⟩ := hw.ledger.owned h o ho
    rcases hx with ⟨pl, hpl⟩ | hx
    · exact ⟨pl, x, hpl, hr, hh⟩
    · exact absurd hx (by simp)
  · rintro ⟨pl, x, hpl, hr, rfl⟩
    obtain ⟨o, ho, -⟩ := hw.ledger.object (.inl ⟨pl, hpl⟩) hr
    rw [ho]
    rfl

/-- **Handle ownership over whole runs.**  However a host goes through the
library, and whatever faults come up: after every step the live handles of the
engine are exactly those that the objects of the host hold unreleased, each
held at one place; no object is without an owner; no handle was given back
twice or used when it was not live; and after the call that gave a handle back
there is none about it.  Once no slot is filled nothing is live, and so it is
after every slot was emptied. -/
theorem handles_held_once (cs : List Command) (h : ∀ c ∈ cs, c.isDirect = false) :
    HeldOnce (after cs fresh)
      ∧ ((∀ l : String, (after cs fresh).slots[l]? = none) →
          (after cs fresh).gateway.engine.liveHandles = 0)
      ∧ HeldOnce (clearAll (after cs fresh)).2
      ∧ (clearAll (after cs fresh)).2.gateway.engine.liveHandles = 0 := by
  have hw := sound_after cs h
  obtain ⟨hclear, hslots⟩ := clearAll_reaches hw
  exact ⟨hw.heldOnce, hw.liveHandles_of_empty, hclear.sound.heldOnce,
    hclear.sound.liveHandles_of_empty hslots⟩

/-- Three bytes. -/
def sampleContents : Contents := ⟨⟨#[97, 98, 99]⟩, by decide⟩

/-- An archive with one package, which has a filtered resource of three bytes. -/
def sampleArchive : Archive :=
  { Archive.empty with
    packages := [PackageDescription.empty.withResource "text" ⟨sampleContents, true⟩] }

/-- The archive opened, and its package taken. -/
def samplePreparation : List Command :=
  [.register "book" sampleArchive, .openContainer "book" .default "container",
    .selectPackage "container" none "package"]

/-- A stream over the filtered content of the resource, not for ranges. -/
def sampleOpening : Command := .packageStream "package" "text" (.filtered false) "stream"

/-- A session that opens the archive and a stream over its resource. -/
def sampleSession : List Command := samplePreparation ++ [sampleOpening]

theorem handles_held_once_sample :
    (∀ c ∈ sampleSession, c.isDirect = false)
      ∧ (after sampleSession fresh).gateway.engine.liveHandles = 3
      ∧ HeldOnce (after sampleSession fresh) :=
  ⟨by decide, by decide +kernel, (handles_held_once sampleSession (by decide)).1⟩

end Host

end EpubAccess
