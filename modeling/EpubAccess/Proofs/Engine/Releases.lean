/-
  EpubAccess.Proofs.Engine.Releases
  ────────────────────────────────
  Several handles given back, in whatever order.

  `Engine.GaveBack hs e e'` says what becomes of an engine to which the handles
  `hs` are given back one after the other, while none of them is a package whose
  container is live: what was live under them is gone, each live one is noted as
  released once more, and all other attempts count as double releases.  It is
  closed under sequencing (`GaveBack.trans`).

  Two orders of the same handles lead to the same books but for the order of
  the notes (`GaveBack.perm`).
-/
import EpubAccess.Proofs.Ownership.Ledger

namespace EpubAccess.Engine

variable {e e' e'' e₁ e₂ : Engine} {hs hs' : List Handle}

/-- The handles were given back, each of them once for each time it is listed, and
the engine warned of none. -/
structure GaveBack (hs : List Handle) (e e' : Engine) : Prop where
  archives : e'.archives = e.archives
  issued : e'.issued = e.issued
  live : ∀ h : Handle, e'.live[h]? = if h ∈ hs then none else e.live[h]?
  released : ∀ h, e'.released.toList.count h
    = e.released.toList.count h + if h ∈ hs ∧ h ∈ e.live then 1 else 0
  /-- Every attempt is noted or counted. -/
  attempts : e'.released.toList.length + e'.doubleReleases
    = e.released.toList.length + e.doubleReleases + hs.length
  danglingUses : e'.danglingUses = e.danglingUses
  registryWarnings : e'.registryWarnings = e.registryWarnings

/-- The books agree but for the calls that are recorded and the order in which
handles were taken back. -/
structure SameBooks (e e' : Engine) : Prop where
  archives : e'.archives = e.archives
  issued : e'.issued = e.issued
  live : e'.live = e.live
  released : e'.released.toList.Perm e.released.toList
  doubleReleases : e'.doubleReleases = e.doubleReleases
  danglingUses : e'.danglingUses = e.danglingUses
  registryWarnings : e'.registryWarnings = e.registryWarnings

theorem mem_live_iff {h : Handle} : h ∈ e.live ↔ e.live[h]? ≠ none := by
  rw [Std.ExtTreeMap.mem_iff_isSome_getElem?, Option.isSome_iff_ne_none]

/-- No package of a live container is live under the handle. -/
def Free (e : Engine) (h : Handle) : Prop :=
  ∀ q a i, e.live[h]? = some (.package q a i) → q ∉ e.live

/-- A handle that is free, given back. -/
theorem takeBack_gaveBack (c : Call) (h : Handle) (hfree : e.Free h) :
    GaveBack [h] e ((e.record c).takeBack h).2 := by
  have herase : ∀ x : Handle, (e.live.erase h)[x]? = if x ∈ [h] then none else e.live[x]? := by
    intro x
    rw [Std.ExtTreeMap.getElem?_erase]
    by_cases hx : x = h
    · simp [hx]
    · simp [hx, Ne.symm hx]
  unfold takeBack
  rw [show (e.record c).live = e.live from rfl]
  cases ho : e.live[h]? with
  | none =>
    -- an attempt that is counted; nothing was live there
    refine ⟨rfl, rfl, fun x => ?_, fun x => ?_, Nat.add_assoc .. |>.symm, rfl, rfl⟩
    · by_cases hx : x = h
      · simp [hx, ho]
      · simp [hx]
    · have hnot : ¬ (x ∈ [h] ∧ x ∈ e.live) := by
        rintro ⟨hx, hl⟩
        rw [List.mem_singleton.mp hx, mem_live_iff] at hl
        exact hl ho
      rw [if_neg hnot]
      rfl
  | some o =>
    have hlive : h ∈ e.live := by
      rw [mem_live_iff, ho]
      simp
    have hcount : ∀ x, (e.released.push h).toList.count x
        = e.released.toList.count x + if x ∈ [h] ∧ x ∈ e.live then 1 else 0 := by
      intro x
      rw [Array.toList_push, List.count_append]
      by_cases hx : x = h
      · simp [hx, hlive]
      · simp [hx, Ne.symm hx]
    have hlength : (e.released.push h).toList.length + e.doubleReleases
        = e.released.toList.length + e.doubleReleases + 1 := by
      rw [Array.toList_push, List.length_append, List.length_singleton]
      omega
    have hgone : GaveBack [h] e { e.record c with
        live := e.live.erase h, released := e.released.push h } :=
      ⟨rfl, rfl, herase, hcount, hlength, rfl, rfl⟩
    cases o with
    | container a => exact hgone
    | stream s => exact hgone
    | package q a i =>
      have hq : q ∉ e.live.erase h := fun hq =>
        hfree q a i ho (Std.ExtTreeMap.mem_of_mem_erase hq)
      dsimp only
      rw [if_neg hq]
      exact hgone

namespace GaveBack

theorem refl (e : Engine) : GaveBack [] e e :=
  ⟨rfl, rfl, fun _ => by simp, fun _ => by simp, rfl, rfl, rfl⟩

theorem mem_live (h : GaveBack hs e e') {x : Handle} : x ∈ e'.live ↔ x ∉ hs ∧ x ∈ e.live := by
  rw [mem_live_iff, mem_live_iff, h.live]
  by_cases hx : x ∈ hs <;> simp [hx]

/-- What is live afterwards was live before. -/
theorem of_live (h : GaveBack hs e e') {x : Handle} {o : LiveObject} (ho : e'.live[x]? = some o) :
    e.live[x]? = some o := by
  rw [h.live] at ho
  split at ho
  · exact absurd ho (by simp)
  · exact ho

/-- What was free stays so. -/
theorem free (h : GaveBack hs e e') {x : Handle} (hx : e.Free x) : e'.Free x :=
  fun q a i hlive hq => hx q a i (h.of_live hlive) (h.mem_live.mp hq).2

theorem trans (h : GaveBack hs e e') (h' : GaveBack hs' e' e'') : GaveBack (hs ++ hs') e e'' := by
  refine ⟨h'.archives.trans h.archives, h'.issued.trans h.issued, fun x => ?_, fun x => ?_, ?_,
    h'.danglingUses.trans h.danglingUses, h'.registryWarnings.trans h.registryWarnings⟩
  · rw [h'.live, h.live]
    by_cases hx : x ∈ hs <;> by_cases hx' : x ∈ hs' <;> simp [hx, hx']
  · -- what was given back first is not live for the second time
    rw [h'.released, h.released, Nat.add_assoc]
    congr 1
    by_cases hx : x ∈ hs <;> by_cases hx' : x ∈ hs' <;> simp [h.mem_live, hx, hx']
  · have hfirst := h.attempts
    have hsecond := h'.attempts
    rw [List.length_append]
    omega

/-- **The order of releases does not matter.** -/
theorem perm (h₁ : GaveBack hs e e₁) (h₂ : GaveBack hs' e e₂) (hp : hs.Perm hs') :
    SameBooks e₁ e₂ := by
  have hreleased : e₂.released.toList.Perm e₁.released.toList := by
    refine List.perm_iff_count.mpr fun x => ?_
    rw [h₂.released, h₁.released]
    simp only [hp.mem_iff]
  refine ⟨h₂.archives.trans h₁.archives.symm, h₂.issued.trans h₁.issued.symm, ?_, hreleased, ?_,
    h₂.danglingUses.trans h₁.danglingUses.symm, h₂.registryWarnings.trans h₁.registryWarnings.symm⟩
  · refine Std.ExtTreeMap.ext_getElem? fun x => ?_
    rw [h₂.live, h₁.live]
    simp only [hp.mem_iff]
  · have hfirst := h₁.attempts
    have hsecond := h₂.attempts
    have hlength := hreleased.length_eq
    have hsame := hp.length_eq
    omega

end GaveBack

end EpubAccess.Engine
