/-
  EpubAccess.Proofs.Packages.Navigation
  ────────────────────────────────
  Navigation tables are fetched at most once.

  `firstAnswer` is what the engine said when it was first asked for a table in
  the course of a run.  `Known first w` is the invariant that ties a host to
  it: the record shows one call for every answer and no other, and the tables
  that an open package keeps are those answers.  Work that asks for nothing
  leaves it (`Known.unasked`), and a fetch adds the one answer on both sides
  (`Known.fetched`), so it holds over runs, whatever archives are registered
  on the way (`known_after`).  A package that was closed keeps no table, but
  it is never asked for one again (`fetches_of_shut`).
-/
import Mathlib.Data.List.Induction
import EpubAccess.Proofs.Lifetimes.Commands
import EpubAccess.Proofs.Packages.Unasked

namespace EpubAccess

open Stateful

/-! ## §1. One package. -/

namespace Package

variable {p : Package} {kind : NavKind}

/-- A closed package has no table. -/
theorem navigation_of_closed (hr : p.isClosed = true) (g : Gateway) :
    p.navigation kind g = ((none, p),
      { g with events := g.events.push (.closedPackageUsed .navigation p.handle.handle) }) := by
  have hget : p.handle.get? = none := if_pos hr
  unfold navigation live
  rw [hget]
  rfl

/-- A table that is known is given without a call. -/
theorem navigation_of_known (hr : p.isClosed = false) {t : Option NavTable}
    (ht : p.navigationCache kind = some t) (g : Gateway) : p.navigation kind g = ((t, p), g) := by
  have hget : p.handle.get? = some p.handle.handle := if_neg (by simpa [isClosed] using hr)
  unfold navigation live
  rw [hget]
  dsimp only
  rw [bind_apply, pure_apply]
  dsimp only
  rw [ht]
  rfl

/-- The package with a table, or with the knowledge that there is none. -/
def withTable (p : Package) (kind : NavKind) (t : Option NavTable) : Package :=
  { p with navigationCache := fun k => if k = kind then some t else p.navigationCache k }

/-- A table that is not known is fetched and kept. -/
theorem navigation_of_unknown (hr : p.isClosed = false) (ht : p.navigationCache kind = none)
    (g : Gateway) :
    p.navigation kind g =
      (((g.engine.navigation p.handle.handle kind).1,
          p.withTable kind (g.engine.navigation p.handle.handle kind).1),
        { g with
          engine := (g.engine.navigation p.handle.handle kind).2
          events := g.events.push (.navigationFetched kind p.handle.handle) }) := by
  have hget : p.handle.get? = some p.handle.handle := if_neg (by simpa [isClosed] using hr)
  unfold navigation live
  rw [hget]
  dsimp only
  rw [bind_apply, pure_apply]
  dsimp only
  rw [ht]
  rfl

end Package

namespace Host

variable {w w' w'' : Host} {slot : String} {k : PackageId} {p : Package} {kind : NavKind}

/-! ## §2. One request. -/

/-- Asking a package for a navigation table. -/
theorem run_navigation (ho : w.slots[slot]? = some (.package k)) (hp : w.packages.get? k = some p) :
    run (.package slot (.navigation kind)) w
      = (.navigation (p.navigation kind w.gateway).1.1,
          { w with
            gateway := (p.navigation kind w.gateway).2
            packages := w.packages.set k (p.navigation kind w.gateway).1.2 }) :=
  withPackage_some ho hp

/-- The engine is asked for a table only by an open package that does not know it. -/
theorem navigation_unasked
    (h : ∀ k p, w.slots[slot]? = some (.package k) → w.packages.get? k = some p →
      p.isClosed = false → p.navigationCache kind ≠ none) :
    Unasked w (run (.package slot (.navigation kind)) w).2 := by
  by_cases hheld : ∃ k p, w.slots[slot]? = some (.package k) ∧ w.packages.get? k = some p
  · obtain ⟨k, p, ho, hp⟩ := hheld
    rw [run_navigation ho hp]
    cases hr : p.isClosed with
    | true =>
      rw [Package.navigation_of_closed hr]
      exact .trans (.setPackage hp rfl rfl) (.same (.refl _) rfl)
    | false =>
      obtain ⟨t, ht⟩ := Option.ne_none_iff_exists'.mp (h k p ho hp hr)
      rw [Package.navigation_of_known hr ht]
      exact .setPackage hp rfl rfl
  · have hnone : run (.package slot (.navigation kind)) w = (.noSlot, w) :=
      withPackage_none fun k ho =>
        Option.eq_none_iff_forall_ne_some.mpr fun p hp => hheld ⟨k, p, ho, hp⟩
    rw [hnone]
    exact .refl w

/-- An open package that is asked for a table that it does not know. -/
structure Fetching (w : Host) (slot : String) (k : PackageId) (p : Package)
    (kind : NavKind) : Prop where
  slot : w.slots[slot]? = some (.package k)
  package : w.packages.get? k = some p
  isOpen : p.isClosed = false
  unknown : p.navigationCache kind = none

/-- Any command asks for nothing, or it is the request that fetches. -/
theorem run_unasked_or_fetching (c : Command) (hc : c.isDirect = false) (w : Host) :
    Unasked w (run c w).2
      ∨ ∃ slot k p kind, c = .package slot (.navigation kind) ∧ Fetching w slot k p kind := by
  by_cases hn : ∃ slot kind, c = .package slot (.navigation kind)
  · obtain ⟨slot, kind, rfl⟩ := hn
    by_cases hf : ∃ k p, Fetching w slot k p kind
    · obtain ⟨k, p, hf⟩ := hf
      exact .inr ⟨slot, k, p, kind, rfl, hf⟩
    · exact .inl (navigation_unasked fun k p ho hp hr ht => hf ⟨k, p, ho, hp, hr, ht⟩)
  · exact .inl (run_asksNone c hc (fun slot kind h => hn ⟨slot, kind, h⟩) w)

namespace Fetching

variable (h : Fetching w slot k p kind)

include h

/-- The request goes to the engine, and the package keeps what it says. -/
theorem run :
    run (.package slot (.navigation kind)) w
      = (.navigation (w.gateway.engine.navigation p.handle.handle kind).1,
          { w with
            gateway := { w.gateway with
              engine := (w.gateway.engine.navigation p.handle.handle kind).2
              events := w.gateway.events.push (.navigationFetched kind p.handle.handle) }
            packages := w.packages.set k
              (p.withTable kind (w.gateway.engine.navigation p.handle.handle kind).1) }) := by
  rw [run_navigation h.slot h.package, Package.navigation_of_unknown h.isOpen h.unknown]

/-- The engine is asked once, for this table. -/
theorem fetches (x : Handle) (kd : NavKind) :
    (Host.run (.package slot (.navigation kind)) w).2.fetches x kd
      = w.fetches x kd + if p.handle.handle = x ∧ kind = kd then 1 else 0 := by
  rw [h.run]
  exact Engine.fetches_navigation ..

theorem issued_le :
    w.gateway.engine.issued
      ≤ (Host.run (.package slot (.navigation kind)) w).2.gateway.engine.issued := by
  rw [h.run]
  exact w.gateway.engine.issued_perform_le (.navigation p.handle.handle kind)

/-- No package but the one that is asked changes. -/
theorem packages (j : PackageId) (q : Package)
    (hq : (Host.run (.package slot (.navigation kind)) w).2.packages.get? j = some q) :
    (j = k ∧ q = p.withTable kind (w.gateway.engine.navigation p.handle.handle kind).1)
      ∨ (j ≠ k ∧ w.packages.get? j = some q) := by
  rw [h.run] at hq
  rcases Pool.get?_set_eq_some.mp hq with ⟨rfl, rfl⟩ | ⟨hne, hq⟩
  · exact .inl ⟨rfl, rfl⟩
  · exact .inr ⟨hne, hq⟩

end Fetching

/-! ## §3. The invariant. -/

/-- What the engine said, if a command asked it for a table. -/
def told (x : Handle) (kind : NavKind) (c : Command) (w : Host) : Option (Option NavTable) :=
  if w.fetches x kind < (run c w).2.fetches x kind then some (w.gateway.engine.navigation x kind).1
  else none

/-- What the engine said when it was first asked for a table, if it was. -/
def firstAnswer (x : Handle) (kind : NavKind) : List Command → Host → Option (Option NavTable)
  | [], _ => none
  | c :: cs, w => (told x kind c w).or (firstAnswer x kind cs (run c w).2)

theorem firstAnswer_concat (x : Handle) (kind : NavKind) (cs : List Command) (c : Command)
    (w : Host) :
    firstAnswer x kind (cs ++ [c]) w
      = (firstAnswer x kind cs w).or (told x kind c (after cs w)) := by
  induction cs generalizing w with
  | nil => exact Option.or_none
  | cons d cs ih =>
    show (told x kind d w).or (firstAnswer x kind (cs ++ [c]) (run d w).2) = _
    rw [ih, ← Option.or_assoc]
    rfl

theorem told_of_unasked {c : Command} (h : Unasked w (run c w).2) (x : Handle) (kind : NavKind) :
    told x kind c w = none := by
  unfold told
  rw [h.fetches, if_neg (Nat.lt_irrefl _)]

theorem Fetching.told (h : Fetching w slot k p kind) (x : Handle) (kd : NavKind) :
    told x kd (.package slot (.navigation kind)) w
      = if p.handle.handle = x ∧ kind = kd then some (w.gateway.engine.navigation x kd).1
        else none := by
  unfold Host.told
  rw [h.fetches]
  by_cases heq : p.handle.handle = x ∧ kind = kd
  · rw [if_pos heq, if_pos heq, if_pos (Nat.lt_succ_self _)]
  · rw [if_neg heq, if_neg heq, Nat.add_zero, if_neg (Nat.lt_irrefl _)]

/-- The engine was asked exactly for the tables in `first`, once for each, and
an open package knows those of its handle and no others. -/
structure Known (first : Handle → NavKind → Option (Option NavTable)) (w : Host) : Prop where
  once : ∀ x kind, w.fetches x kind = if (first x kind).isSome then 1 else 0
  issued : ∀ x kind, (first x kind).isSome = true → w.gateway.engine.Issued x
  tables : ∀ k p, w.packages.get? k = some p → p.isClosed = false →
    p.navigationCache = first p.handle.handle

namespace Known

variable {first : Handle → NavKind → Option (Option NavTable)}

theorem fresh : Known (fun _ _ => none) Host.fresh :=
  ⟨fun _ _ => rfl, fun _ _ h => absurd h (by simp), fun _ _ h => absurd h (by simp [Host.fresh])⟩

/-- Work that asks for nothing. -/
theorem unasked (h : Known first w) (hu : Unasked w w') : Known first w' := by
  refine ⟨fun x kind => (hu.fetches x kind).trans (h.once x kind),
    fun x kind hs => (h.issued x kind hs).mono hu.issued, fun k p' hp' hr => ?_⟩
  rcases hu.packages k p' hp' hr with ⟨p, hp, hr, hhandle, hcache⟩ | ⟨hnew, hcache⟩
  · rw [hcache, hhandle]
    exact h.tables k p hp hr
  · -- nothing was asked about a handle before it was issued
    rw [hcache]
    funext kind
    cases hs : first p'.handle.handle kind with
    | none => rfl
    | some t => exact absurd (h.issued _ kind (by rw [hs]; rfl)) hnew

/-- The request that fetches. -/
theorem fetched {calm : Prop} (h : Known first w) (hw : Sound calm w .none)
    (hf : Fetching w slot k p kind) :
    Known (fun x kd => (first x kd).or (told x kd (.package slot (.navigation kind)) w))
      (run (.package slot (.navigation kind)) w).2 := by
  have hfirst : first p.handle.handle kind = none := by
    rw [← h.tables k p hf.package hf.isOpen]
    exact hf.unknown
  have hissued : w.gateway.engine.Issued p.handle.handle :=
    hw.ledger.issued _ (.inl ⟨_, held_package hf.package⟩)
  refine ⟨fun x kd => ?_, fun x kd hs => ?_, fun j q hq hr => ?_⟩
  -- the one table that is asked for was not asked for before
  · rw [hf.fetches, hf.told, h.once]
    by_cases heq : p.handle.handle = x ∧ kind = kd
    · obtain ⟨rfl, rfl⟩ := heq
      simp [hfirst]
    · simp [heq]
  · rw [hf.told] at hs
    refine Engine.Issued.mono ?_ hf.issued_le
    by_cases heq : p.handle.handle = x ∧ kind = kd
    · exact heq.1 ▸ hissued
    · rw [if_neg heq, Option.or_none] at hs
      exact h.issued x kd hs
  · funext kd
    rcases hf.packages j q hq with ⟨-, rfl⟩ | ⟨hne, hq⟩
    · rw [hf.told]
      show (if kd = kind then _ else p.navigationCache kd) = (first p.handle.handle kd).or _
      by_cases heq : kd = kind
      · subst heq
        rw [hfirst, if_pos rfl, if_pos ⟨rfl, rfl⟩]
        rfl
      · rw [if_neg heq, if_neg fun h => heq h.2.symm, Option.or_none,
          h.tables k p hf.package hf.isOpen]
    · -- no other package has the same handle
      have hother : p.handle.handle ≠ q.handle.handle := fun heq =>
        hne (Place.package.inj
          (hw.ledger.apart _ _ _ _ (held_package hq) (held_package hf.package) heq.symm))
      rw [hf.told, if_neg fun h => hother h.1, Option.or_none, h.tables j q hq hr]

/-- **What one command preserves.** -/
theorem step {calm : Prop} (h : Known first w) (hw : Sound calm w .none) {c : Command}
    (hc : c.isDirect = false) :
    Known (fun x kind => (first x kind).or (told x kind c w)) (run c w).2 := by
  rcases run_unasked_or_fetching c hc w with hu | ⟨slot, k, p, kind, rfl, hf⟩
  · have hsame : (fun x kind => (first x kind).or (told x kind c w)) = first := by
      funext x kind
      rw [told_of_unasked hu, Option.or_none]
    rw [hsame]
    exact h.unasked hu
  · exact h.fetched hw hf

end Known

/-- **What a run preserves.** -/
theorem known_after (cs : List Command) (hc : ∀ c ∈ cs, c.isDirect = false) :
    Known (fun x kind => firstAnswer x kind cs fresh) (after cs fresh) := by
  -- the induction is on the commands from the last one on
  induction cs using List.reverseRecOn with
  | nil => exact .fresh
  | append_singleton cs c ih =>
    have hcs : ∀ d ∈ cs, d.isDirect = false := fun d hd => hc d (List.mem_append_left _ hd)
    have hstep := (ih hcs).step (sound_after cs hcs) (hc c (by simp))
    rw [after_concat]
    simpa only [firstAnswer_concat] using hstep

/-! ## §4. Packages that were closed. -/

/-- The open packages of `w'` are open packages of `w`, or new ones. -/
structure Descends (w w' : Host) : Prop where
  issued : w.gateway.engine.issued ≤ w'.gateway.engine.issued
  packages : ∀ k p', w'.packages.get? k = some p' → p'.isClosed = false →
    (∃ p, w.packages.get? k = some p ∧ p.isClosed = false ∧ p'.handle.handle = p.handle.handle)
      ∨ ¬ w.gateway.engine.Issued p'.handle.handle

namespace Descends

theorem refl (w : Host) : Descends w w := ⟨Nat.le_refl _, fun _ p hp hr => .inl ⟨p, hp, hr, rfl⟩⟩

theorem trans (h : Descends w w') (h' : Descends w' w'') : Descends w w'' := by
  refine ⟨Nat.le_trans h.issued h'.issued, fun k p'' hp'' hr'' => ?_⟩
  rcases h'.packages k p'' hp'' hr'' with ⟨p', hp', hr', hhandle'⟩ | hnew
  · rw [hhandle']
    exact h.packages k p' hp' hr'
  · exact .inr fun hi => hnew (hi.mono h.issued)

/-- A package that is shut is not among the open ones. -/
theorem ne_of_shut (h : Descends w w') {x : Handle} (hx : w.gateway.engine.Issued x)
    (hs : w.Shut k) {p' : Package} (hp' : w'.packages.get? k = some p') (hr : p'.isClosed = false) :
    p'.handle.handle ≠ x := by
  rcases h.packages k p' hp' hr with ⟨p, hp, hopen, -⟩ | hnew
  · exact absurd ((hs.2 p hp).symm.trans hopen) (by simp)
  · rintro rfl
    exact hnew hx

end Descends

theorem run_descends (c : Command) (hc : c.isDirect = false) (w : Host) :
    Descends w (run c w).2 := by
  rcases run_unasked_or_fetching c hc w with hu | ⟨slot, k, p, kind, rfl, hf⟩
  · refine ⟨hu.issued, fun j q hq hr => ?_⟩
    exact (hu.packages j q hq hr).imp (fun ⟨p, hp, hr, hhandle, _⟩ => ⟨p, hp, hr, hhandle⟩) (·.1)
  · refine ⟨hf.issued_le, fun j q hq hr => .inl ?_⟩
    rcases hf.packages j q hq with ⟨rfl, rfl⟩ | ⟨-, hq⟩
    · exact ⟨p, hf.package, hf.isOpen, rfl⟩
    · exact ⟨q, hq, hr, rfl⟩

theorem after_descends (cs : List Command) (hc : ∀ c ∈ cs, c.isDirect = false) (w : Host) :
    Descends w (after cs w) := by
  induction cs generalizing w with
  | nil => exact .refl w
  | cons c cs ih =>
    exact (run_descends c (hc c (List.mem_cons_self ..)) w).trans
      (ih (fun d hd => hc d (List.mem_cons_of_mem _ hd)) _)

/-- **A package that is shut is never asked about again.** -/
theorem fetches_of_shut {calm : Prop} (hw : Sound calm w .none) (hp : w.packages.get? k = some p)
    (hdescends : Descends w w') (hs : w'.Shut k) (cs : List Command)
    (hc : ∀ c ∈ cs, c.isDirect = false) (kind : NavKind) :
    (after cs w').fetches p.handle.handle kind = w'.fetches p.handle.handle kind := by
  have hissued : w.gateway.engine.Issued p.handle.handle :=
    hw.ledger.issued _ (.inl ⟨_, held_package hp⟩)
  induction cs using List.reverseRecOn with
  | nil => rfl
  | append_singleton cs c ih =>
    have hcs : ∀ d ∈ cs, d.isDirect = false := fun d hd => hc d (List.mem_append_left _ hd)
    rw [after_concat, ← ih hcs]
    have hlast : Descends w' (after cs w') := after_descends cs hcs w'
    rcases run_unasked_or_fetching c (hc c (by simp)) (after cs w')
      with hu | ⟨slot, j, q, kd, rfl, hf⟩
    · exact hu.fetches ..
    · have hne : q.handle.handle ≠ p.handle.handle := by
        intro heq
        -- a package with this handle is the one that was shut
        rcases (hdescends.trans hlast).packages j q hf.package hf.isOpen
          with ⟨p', hp', -, hhandle⟩ | hnew
        · have hjk : j = k := Place.package.inj
            (hw.ledger.apart _ _ _ _ (held_package hp') (held_package hp) (hhandle.symm.trans heq))
          subst hjk
          exact hlast.ne_of_shut (hissued.mono hdescends.issued) hs hf.package hf.isOpen heq
        · exact hnew (heq ▸ hissued)
      rw [hf.fetches, if_neg fun h => hne h.1, Nat.add_zero]

/-- A package that is shut answers no request. -/
theorem run_navigation_of_shut (hw : Consistent w) (hs : w.Shut k)
    (ho : w.slots[slot]? = some (.package k)) (kind : NavKind) :
    (run (.package slot (.navigation kind)) w).1 = .navigation none
      ∧ (run (.package slot (.navigation kind)) w).2.gateway.engine = w.gateway.engine := by
  obtain ⟨p, hp⟩ := hw.ownedPackages slot _ ho k (by simp [Holding.packages])
  rw [run_navigation ho hp, Package.navigation_of_closed (hs.2 p hp)]
  exact ⟨rfl, rfl⟩

/-! ## §5. Whole runs. -/

/-- **Navigation tables are fetched at most once.**  However a host goes
through the library, whatever archives it registers on the way: no table of
any handle was asked for twice; an open package that is asked answers what the
engine said when it was first asked, now or earlier; and once a package was
closed or went away, the engine is not asked about it any more, and to every
request it answers that there is no table. -/
theorem navigation_fetched_once (cs : List Command) (h : ∀ c ∈ cs, c.isDirect = false)
    (kind : NavKind) :
    (∀ x, (after cs fresh).fetches x kind ≤ 1)
      ∧ (∀ slot k p, (after cs fresh).slots[slot]? = some (.package k) →
          (after cs fresh).packages.get? k = some p → p.isClosed = false →
          ∃ t, (run (.package slot (.navigation kind)) (after cs fresh)).1 = .navigation t
            ∧ firstAnswer p.handle.handle kind (cs ++ [.package slot (.navigation kind)]) fresh
                = some t)
      ∧ ∀ k p, (after cs fresh).packages.get? k = some p → ∀ cs' cs'' : List Command,
          (∀ c ∈ cs' ++ cs'', c.isDirect = false) → (after cs' (after cs fresh)).Shut k →
          (after (cs' ++ cs'') (after cs fresh)).fetches p.handle.handle kind
              = (after cs' (after cs fresh)).fetches p.handle.handle kind
            ∧ ∀ slot, (after (cs' ++ cs'') (after cs fresh)).slots[slot]? = some (.package k) →
              (run (.package slot (.navigation kind)) (after (cs' ++ cs'') (after cs fresh))).1
                  = .navigation none
                ∧ (run (.package slot (.navigation kind))
                    (after (cs' ++ cs'') (after cs fresh))).2.gateway.engine
                  = (after (cs' ++ cs'') (after cs fresh)).gateway.engine := by
  -- what the package knows is what the engine said first, by the invariant of the run
  have hknown := known_after cs h
  have hw := sound_after cs h
  have hfits := consistent_after cs
  refine ⟨fun x => ?_, fun slot k p ho hp hr => ?_, fun k p hp cs' cs'' hc hs => ?_⟩
  · rw [hknown.once]
    split <;> omega
  · rw [firstAnswer_concat]
    have htables : p.navigationCache kind = firstAnswer p.handle.handle kind cs fresh :=
      congrFun (hknown.tables k p hp hr) kind
    rw [← htables]
    cases ht : p.navigationCache kind with
    | some t =>
      rw [run_navigation ho hp, Package.navigation_of_known hr ht]
      exact ⟨t, rfl, rfl⟩
    | none =>
      have hf : Fetching (after cs fresh) slot k p kind := ⟨ho, hp, hr, ht⟩
      rw [hf.run, hf.told, if_pos ⟨rfl, rfl⟩]
      exact ⟨_, rfl, rfl⟩
  · have hcs' : ∀ c ∈ cs', c.isDirect = false := fun c hm => hc c (List.mem_append_left _ hm)
    have hcs'' : ∀ c ∈ cs'', c.isDirect = false := fun c hm => hc c (List.mem_append_right _ hm)
    rw [after_append]
    have hlater := after_later cs' hfits
    have hlast := after_later cs'' hlater.after
    refine ⟨fetches_of_shut hw hp (after_descends cs' hcs' _) hs cs'' hcs'' kind, fun slot ho => ?_⟩
    exact run_navigation_of_shut hlast.after (hlast.staysShut hs) ho kind

/-- A table without entries. -/
def sampleTable : NavTable :=
  { type := "toc", title := "Contents", source := "nav", children := [] }

/-- An archive whose package has every table, opened and asked for one; then an
archive without tables is registered in its place. -/
def sampleReading : List Command :=
  [.register "book" { Archive.empty with
      packages := [{ PackageDescription.empty with navigation := fun _ => some sampleTable }] },
    .openContainer "book" .default "container", .selectPackage "container" none "package",
    .package "package" (.navigation .tableOfContents), .register "book" sampleArchive]

theorem navigation_fetched_once_sample :
    (∀ c ∈ sampleReading, c.isDirect = false)
      ∧ (after sampleReading fresh).fetches (.issuedAfter 1) .tableOfContents = 1
      ∧ (∃ t,
          (run (.package "package" (.navigation .tableOfContents)) (after sampleReading fresh)).1
            = .navigation t
          ∧ firstAnswer (.issuedAfter 1) .tableOfContents
              (sampleReading ++ [.package "package" (.navigation .tableOfContents)]) fresh = some t
          ∧ t.isSome = true)
      ∧ (run (.package "package" (.navigation .tableOfContents))
            (after ([.container "container" .close] ++ []) (after sampleReading fresh))).1
          = .navigation none := by
  have hdirect : ∀ c ∈ sampleReading, c.isDirect = false := by decide
  obtain ⟨-, hanswers, hnever⟩ := navigation_fetched_once sampleReading hdirect .tableOfContents
  -- the package is open, and it is the one in the slot
  have hslot : ((after sampleReading fresh).slots["package"]?).bind Holding.package? = some 0 := by
    decide +kernel
  have hview : ((after sampleReading fresh).packages.get? 0).map
      (fun p => (p.isClosed, p.handle.handle)) = some (false, .issuedAfter 1) := by decide +kernel
  obtain ⟨p, hp, hfields⟩ := Option.map_eq_some_iff.mp hview
  obtain ⟨hopen, hhandle⟩ := Prod.mk.inj hfields
  obtain ⟨t, hrun, hfirst⟩ := hanswers "package" 0 p (Holding.eq_package hslot) hp hopen
  rw [hhandle] at hfirst
  have htable : (firstAnswer (.issuedAfter 1) .tableOfContents
      (sampleReading ++ [.package "package" (.navigation .tableOfContents)]) fresh).map
        Option.isSome
      = some true := by decide +kernel
  rw [hfirst] at htable
  -- closing the container closes it
  have hshut : (after [.container "container" .close] (after sampleReading fresh)).Shut 0 := by
    have hclosed : ((after [.container "container" .close]
        (after sampleReading fresh)).packages.get? 0).map Package.isClosed = some true := by
      decide +kernel
    refine ⟨by decide +kernel, fun q hq => ?_⟩
    rw [hq] at hclosed
    exact Option.some.inj hclosed
  have hslot' : ((after ([.container "container" .close] ++ [])
      (after sampleReading fresh)).slots["package"]?).bind Holding.package? = some 0 := by
    decide +kernel
  have hnone := ((hnever 0 p hp [.container "container" .close] [] (by decide) hshut).2 "package"
    (Holding.eq_package hslot')).1
  exact ⟨hdirect, by decide +kernel, ⟨t, hrun, hfirst, Option.some.inj htable⟩, hnone⟩

end Host

end EpubAccess
