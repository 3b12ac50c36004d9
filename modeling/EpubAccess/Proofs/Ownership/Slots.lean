/-
  EpubAccess.Proofs.Ownership.Slots
  ────────────────────────────────
  Slots that are filled and emptied, and packages that are noted anew.

  A slot that is emptied leaves what it held as debts (`Reaches.takeOut`); a
  slot that is filled settles them (`Reaches.putIn`).  Work on what a slot
  holds is both with gateway work in between (`Reaches.act`).
-/
import EpubAccess.Proofs.Ownership.Places

namespace EpubAccess.Host

open Stateful

variable {calm : Prop} {T : String → Prop} {w : Host}

/-! ## §1. One slot. -/

/-- A slot emptied, with what it held left as debts. -/
theorem Reaches.takeOut {d : Debts} {m : String} {o : Holding} (hw : Sound calm w d) (hT : T m)
    (ho : w.slots[m]? = some o) :
    Reaches calm T 0 w { w with slots := w.slots.erase m }
      ⟨o.handles ++ d.handles, o.containers ++ d.containers, o.packages ++ d.packages,
        d.closing⟩ := by
  have hself : (w.slots.erase m)[m]? = none := by
    simp
  have hother : ∀ l : String, l ≠ m → (w.slots.erase m)[l]? = w.slots[l]? := by
    intro l hl
    simp [Std.ExtTreeMap.getElem?_erase, Ne.symm hl]
  have hsub : ∀ (l : String) p, (w.slots.erase m)[l]? = some p → w.slots[l]? = some p := by
    intro l p hp
    by_cases hl : l = m
    · rw [hl, hself] at hp
      exact absurd hp (by simp)
    · exact (hother l hl).symm.trans hp
  have hplace : ∀ pl, pl ≠ .slot m → held { w with slots := w.slots.erase m } pl = w.held pl :=
    fun pl hpl => held_congr (fun _ _ => rfl) (fun _ _ => rfl) fun l hl =>
      hother l fun h => hpl (by rw [hl, h])
  have hempty : held { w with slots := w.slots.erase m } (.slot m) = none := by
    show ((w.slots.erase m)[m]?).bind _ = none
    rw [hself]
    rfl
  have hfull : w.held (.slot m) = o.handle? := held_slot ho
  -- the handle of what was there, if it has one, is in hand now
  have hledger : Ledger w.gateway.engine (held { w with slots := w.slots.erase m })
      (o.handles ++ d.handles) := by
    unfold Holding.handles
    cases hx : o.handle? with
    | none =>
      refine hw.ledger.congr fun pl => ?_
      by_cases hpl : pl = .slot m
      · rw [hpl, hempty, hfull, hx]
      · exact hplace pl hpl
    | some x => exact hw.ledger.takeOut (hfull.trans hx) hempty hplace
  have hkinds :=
    hw.kinds_of_others (.slot m) (fun x hx => absurd (hempty.symm.trans hx) (by simp)) hplace
  refine ⟨⟨hledger, hkinds, fun l p h => hw.slots l p (hsub l _ h), hw.containerIds, hw.packageIds,
    hw.members, hw.linked, ?_, ?_, fun l f h => hw.fetches l f (hsub l _ h), hw.calm⟩, [],
    .of_same rfl rfl (fun _ => rfl) (fun l hl => hother l fun h => hl (h ▸ hT)) rfl rfl⟩
  · intro id c hc
    -- an owner lost with the slot is told as a debt
    rcases hw.containersOwned id c hc with hown | hdebt
    · obtain ⟨l, p, hp, hmem⟩ := (w.containerOwned_iff id).mp hown
      by_cases hl : l = m
      · rw [hl, ho, Option.some.injEq] at hp
        exact .inr (List.mem_append_left _ (hp ▸ hmem))
      · exact .inl ((containerOwned_iff _ id).mpr ⟨l, p, (hother l hl).trans hp, hmem⟩)
    · exact .inr (List.mem_append_right _ hdebt)
  · intro k p hp
    rcases hw.packagesOwned k p hp with hown | hdebt
    · rcases (w.packageOwned_iff k).mp hown with ⟨l, q, hq, hmem⟩ | hlisted
      · by_cases hl : l = m
        · rw [hl, ho, Option.some.injEq] at hq
          exact .inr (List.mem_append_left _ (hq ▸ hmem))
        · exact .inl ((packageOwned_iff _ k).mpr (.inl ⟨l, q, (hother l hl).trans hq, hmem⟩))
      · exact .inl ((packageOwned_iff _ k).mpr (.inr hlisted))
    · exact .inr (List.mem_append_right _ hdebt)

/-- What may stand in a slot: nothing loose of unknown kind, streams and
fetches in order. -/
structure Fits (calm : Prop) (e : Engine) (o : Holding) : Prop where
  opened : ∀ x, o ≠ .owned x
  kind : ∀ x, o.handle? = some x → x.kind = .stream
  ready : ∀ f, o = .fetch f → f.Ready calm e

/-- What stands in a slot of a sound host fits. -/
theorem Sound.fits {d : Debts} {m : String} {o : Holding} (hw : Sound calm w d)
    (ho : w.slots[m]? = some o) : Fits calm w.gateway.engine o :=
  ⟨fun x h => hw.slots m x (h ▸ ho), fun x hx => hw.kinds (.slot m) x ((held_slot ho).trans hx),
    fun f h => hw.fetches m f (h ▸ ho)⟩

/-- An empty slot filled, and the debts that this settles. -/
theorem Reaches.putIn {hs : List OwnedHandle} {cs cs' : List ContainerId}
    {ps ps' : List PackageId} {cl : List PackageId} {m : String} {o : Holding}
    (hw : Sound calm w ⟨o.handles ++ hs, cs, ps, cl⟩) (hT : T m) (hm : w.slots[m]? = none)
    (hfit : Fits calm w.gateway.engine o)
    (hcs : ∀ id ∈ cs, id ∈ o.containers ∨ id ∈ cs') (hps : ∀ k ∈ ps, k ∈ o.packages ∨ k ∈ ps') :
    Reaches calm T 0 w { w with slots := w.slots.insert m o } ⟨hs, cs', ps', cl⟩ := by
  have hself : (w.slots.insert m o)[m]? = some o := by
    simp
  have hother : ∀ l : String, l ≠ m → (w.slots.insert m o)[l]? = w.slots[l]? := by
    intro l hl
    simp [Std.ExtTreeMap.getElem?_insert, Ne.symm hl]
  have hsplit : ∀ (l : String) p, (w.slots.insert m o)[l]? = some p →
      p = o ∨ w.slots[l]? = some p := by
    intro l p hp
    by_cases hl : l = m
    · rw [hl, hself, Option.some.injEq] at hp
      exact .inl hp.symm
    · exact .inr ((hother l hl).symm.trans hp)
  have hkeep : ∀ (l : String) p, w.slots[l]? = some p → (w.slots.insert m o)[l]? = some p := by
    intro l p hp
    rw [hother l fun h => by rw [h, hm] at hp; exact absurd hp (by simp), hp]
  have hplace : ∀ pl, pl ≠ .slot m → held { w with slots := w.slots.insert m o } pl = w.held pl :=
    fun pl hpl => held_congr (fun _ _ => rfl) (fun _ _ => rfl) fun l hl =>
      hother l fun h => hpl (by rw [hl, h])
  have hempty : w.held (.slot m) = none := by
    show (w.slots[m]?).bind _ = none
    rw [hm]
    rfl
  have hfull : held { w with slots := w.slots.insert m o } (.slot m) = o.handle? := held_slot hself
  -- the handle in hand is at the place now
  have hledger : Ledger w.gateway.engine (held { w with slots := w.slots.insert m o }) hs := by
    have hl := hw.ledger
    unfold Holding.handles at hl
    cases hx : o.handle? with
    | none =>
      rw [hx] at hl
      refine hl.congr fun pl => ?_
      by_cases hpl : pl = .slot m
      · rw [hpl, hfull, hempty, hx]
      · exact hplace pl hpl
    | some x =>
      rw [hx] at hl
      exact hl.moveIn hempty (hfull.trans hx) hplace
  have hkinds := hw.kinds_of_others (.slot m) (fun x hx => hfit.kind x (hfull.symm.trans hx)) hplace
  refine ⟨⟨hledger, hkinds, ?_, hw.containerIds, hw.packageIds, hw.members, hw.linked, ?_, ?_, ?_,
    hw.calm⟩, [],
    .of_same rfl rfl (fun _ => rfl) (fun l hl => hother l fun h => hl (h ▸ hT)) rfl rfl⟩
  · intro l x hx
    rcases hsplit l _ hx with h | h
    · exact hfit.opened x h.symm
    · exact hw.slots l x h
  · intro id c hc
    rcases hw.containersOwned id c hc with hown | hdebt
    · obtain ⟨l, p, hp, hmem⟩ := (w.containerOwned_iff id).mp hown
      exact .inl ((containerOwned_iff _ id).mpr ⟨l, p, hkeep l p hp, hmem⟩)
    · exact (hcs id hdebt).imp_left fun hmem => (containerOwned_iff _ id).mpr ⟨m, o, hself, hmem⟩
  · intro k p hp
    rcases hw.packagesOwned k p hp with hown | hdebt
    · exact .inl (packageOwned_mono hkeep (fun _ c hc hk => ⟨c, hc, hk⟩) hown)
    · exact (hps k hdebt).imp_left fun hmem =>
        (packageOwned_iff _ k).mpr (.inl ⟨m, o, hself, hmem⟩)
  · intro l f hf
    rcases hsplit l _ hf with h | h
    · exact hfit.ready f h.symm
    · exact hw.fetches l f h

/-! ## §2. What a slot holds, at work. -/

theorem insert_erase (m : String) (o : Holding) :
    (w.slots.erase m).insert m o = w.slots.insert m o := by
  refine Std.ExtTreeMap.ext_getElem? fun l => ?_
  by_cases h : m = l
  · simp [h]
  · simp [Std.ExtTreeMap.getElem?_insert, Std.ExtTreeMap.getElem?_erase, h]

/-- Gateway work on what a slot holds, which may become something else and
may leave handles in hand. -/
theorem Reaches.act {d : Debts} {m : String} {o o' : Holding} {g : Gateway}
    {hs : List OwnedHandle} {cs : List ContainerId} {ps : List PackageId} (hw : Sound calm w d)
    (hT : T m) (ho : w.slots[m]? = some o)
    (hm : w.gateway.Moved (held { w with slots := w.slots.erase m }) (o'.handles ++ hs) g)
    (hfit : Fits calm g.engine o')
    (hcs : ∀ id, id ∈ o.containers ∨ id ∈ d.containers → id ∈ o'.containers ∨ id ∈ cs)
    (hps : ∀ k, k ∈ o.packages ∨ k ∈ d.packages → k ∈ o'.packages ∨ k ∈ ps) :
    Reaches calm T 0 w { w with gateway := g, slots := w.slots.insert m o' }
      ⟨hs, cs, ps, d.closing⟩ := by
  -- out, work, and in again: the slot is empty in between
  have htake := Reaches.takeOut hw hT ho
  have hwork := Reaches.gateway (T := T) htake.sound hm
  have hput : Reaches calm T 0 _ { w with gateway := g, slots := (w.slots.erase m).insert m o' }
      ⟨hs, cs, ps, d.closing⟩ :=
    .putIn hwork.sound hT (by simp) hfit (fun id h => hcs id (List.mem_append.mp h))
      fun k h => hps k (List.mem_append.mp h)
  have hall := (htake.trans hwork).trans hput
  simp only [insert_erase] at hall
  exact hall

/-- Another object in a slot, the engine left alone. -/
theorem Reaches.replace {d : Debts} {m : String} {o o' : Holding} {cs : List ContainerId}
    {ps : List PackageId} (hw : Sound calm w d) (hT : T m) (ho : w.slots[m]? = some o)
    (hh : o.handle? = none) (hh' : o'.handle? = none) (hfit : Fits calm w.gateway.engine o')
    (hcs : ∀ id, id ∈ o.containers ∨ id ∈ d.containers → id ∈ o'.containers ∨ id ∈ cs)
    (hps : ∀ k, k ∈ o.packages ∨ k ∈ d.packages → k ∈ o'.packages ∨ k ∈ ps) :
    Reaches calm T 0 w { w with slots := w.slots.insert m o' } ⟨d.handles, cs, ps, d.closing⟩ := by
  have htake := Reaches.takeOut hw hT ho
  have hledger : Ledger w.gateway.engine (held { w with slots := w.slots.erase m })
      (o'.handles ++ d.handles) := by
    simpa [Holding.handles, hh, hh'] using htake.sound.ledger
  exact Reaches.act hw hT ho (.refl hledger) hfit hcs hps

/-! ## §3. A package noted anew. -/

/-- Noting a package anew under the same link keeps the books on packages. -/
theorem Sound.packages_set {d : Debts} {k : PackageId} {p p' : Package} (hw : Sound calm w d)
    (hp : w.packages.get? k = some p) (hl : p'.link = p.link) :
    (∀ j q, (w.packages.set k p').get? j = some q → j < (w.packages.set k p').next)
      ∧ (∀ id c, w.containers.get? id = some c → c.packages.Nodup ∧ ∀ j ∈ c.packages,
          ∃ q, (w.packages.set k p').get? j = some q ∧ q.link = some ⟨id, c.path⟩)
      ∧ ∀ j q, (w.packages.set k p').get? j = some q →
        w.packageOwned j = true ∨ j ∈ d.packages := by
  have hback : ∀ j q, (w.packages.set k p').get? j = some q →
      ∃ q', w.packages.get? j = some q' := by
    intro j q hq
    rcases Pool.get?_set_eq_some.mp hq with ⟨rfl, -⟩ | ⟨-, hq⟩
    · exact ⟨p, hp⟩
    · exact ⟨q, hq⟩
  refine ⟨fun j q hq => ?_, fun id c hc => ?_, fun j q hq => ?_⟩
  · obtain ⟨q', hq'⟩ := hback j q hq
    exact hw.packageIds j q' hq'
  · obtain ⟨hnodup, hlisted⟩ := hw.members id c hc
    refine ⟨hnodup, fun j hj => ?_⟩
    obtain ⟨q, hq, hlink⟩ := hlisted j hj
    by_cases hjk : j = k
    · rw [hjk, hp, Option.some.injEq] at hq
      exact ⟨p', hjk ▸ Pool.get?_set_self .., by rw [hl, hq, hlink]⟩
    · exact ⟨q, (Pool.get?_set_ne hjk).trans hq, hlink⟩
  · obtain ⟨q', hq'⟩ := hback j q hq
    exact hw.packagesOwned j q' hq'

/-- A package replaced by a later state with the same handle and container. -/
theorem Reaches.setPackage {d : Debts} {k : PackageId} {p p' : Package} (hw : Sound calm w d)
    (hp : w.packages.get? k = some p) (hh : p'.handle = p.handle) (hl : p'.link = p.link) :
    Reaches calm T 0 w { w with packages := w.packages.set k p' } d := by
  have hmap : ∀ j, ((w.packages.set k p').get? j).map Package.handle
      = (w.packages.get? j).map Package.handle := by
    intro j
    rw [Pool.get?_set]
    split
    · next h => rw [h, hp]; simp [hh]
    · rfl
  have hheld : ∀ pl, held { w with packages := w.packages.set k p' } pl = w.held pl := by
    intro pl
    cases pl with
    | container id => rfl
    | package j => exact hmap j
    | slot m => rfl
  obtain ⟨hids, hmembers, howned⟩ := hw.packages_set hp hl
  refine ⟨⟨hw.ledger.congr hheld, fun pl x hx => hw.kinds pl x (hheld pl ▸ hx), hw.slots,
    hw.containerIds, hids, hmembers, ?_, hw.containersOwned, howned, hw.fetches, hw.calm⟩, [],
    .of_same rfl rfl ?_ (fun _ _ => rfl) rfl rfl⟩
  · intro j q' hq
    rcases Pool.get?_set_eq_some.mp hq with ⟨rfl, rfl⟩ | ⟨-, hq⟩
    · rw [hh, hl]
      exact hw.linked j p hp
    · exact hw.linked j q' hq
  · intro j
    show ((w.packages.set k p').get? j).bind _ = (w.packages.get? j).bind _
    have hj := congrArg (fun o => o.bind OwnedHandle.get?) (hmap j)
    simpa [Option.bind_map, Function.comp_def] using hj

end EpubAccess.Host
