/-
  EpubAccess.Proofs.Fetches.Tidying
  ────────────────────────────────
  Work that brings no stream into a slot.

  `Host.Tidy w w'` says that `w'` came out of `w` by work that emptied slots of
  their streams at most.  It is a preorder that allows whatever goes on inside
  the library and most of what a host is asked for (`Host.tidy_outward`);
  requests for navigation tables and requests to the engine itself are tidy as
  well, and so are containers and packages that are opened.
-/
import EpubAccess.Proofs.Engine.Registry
import EpubAccess.Proofs.Walks

namespace EpubAccess

open Stateful Gateway

/-- Requests keep the engine in order. -/
theorem Engine.Served.inOrder {e e' : Engine} (h : e.Served e') (he : e.InOrder) : e'.InOrder := by
  obtain ⟨rs, -, rfl⟩ := h
  induction rs generalizing e with
  | nil => exact he
  | cons r rs ih => exact ih ((perform_outcome he r).inOrder he)

namespace Host

variable {w w' w'' : Host} {slot dest : String}

/-! ## §1. The relation. -/

/-- Work that brought no stream into a slot. -/
structure Tidy (w w' : Host) : Prop where
  engine : w.gateway.engine.InOrder → w'.gateway.engine.InOrder
  issued : w.gateway.engine.issued ≤ w'.gateway.engine.issued
  slots : ∀ m, w'.openAt m = w.openAt m ∨ w'.openAt m = none

namespace Tidy

theorem refl (w : Host) : Tidy w w := ⟨id, Nat.le_refl _, fun _ => .inl rfl⟩

theorem trans (h : Tidy w w') (h' : Tidy w' w'') : Tidy w w'' := by
  refine ⟨h'.engine ∘ h.engine, Nat.le_trans h.issued h'.issued, fun m => ?_⟩
  rcases h'.slots m with hsame | hnone
  · exact (h.slots m).imp hsame.trans hsame.trans
  · exact .inr hnone

instance : IsPreorder Host Tidy where
  refl := refl
  trans _ _ _ := trans

/-- Work on whatever is no slot and leaves the engine alone. -/
theorem same (he : w'.gateway.engine = w.gateway.engine) (hs : w'.slots = w.slots) : Tidy w w' := by
  refine ⟨fun h => he ▸ h, Nat.le_of_eq (congrArg Engine.issued he.symm), fun m => .inl ?_⟩
  exact openAt_congr (congrArg (fun slots => slots[m]?) hs)

/-- An object without an open stream put into a slot. -/
theorem put {o : Holding} (ho : o.openHandle? = none) (m : String) (w : Host) :
    Tidy w { w with slots := w.slots.insert m o } := by
  refine ⟨id, Nat.le_refl _, fun l => ?_⟩
  by_cases hl : l = m
  · exact .inr (hl ▸ (openAt_of_slot (insert_self _ _ _)).trans ho)
  · exact .inl (openAt_congr (by simp [Std.ExtTreeMap.getElem?_insert, Ne.symm hl]))

theorem erased (m : String) (w : Host) : Tidy w { w with slots := w.slots.erase m } := by
  refine ⟨id, Nat.le_refl _, fun l => ?_⟩
  by_cases hl : l = m
  · exact .inr (openAt_of_empty (by simp [hl]))
  · exact .inl (openAt_congr (by simp [Std.ExtTreeMap.getElem?_erase, Ne.symm hl]))

/-- A request to the engine reaches no slot. -/
theorem perform {g : Gateway} (w : Host) (r : Request)
    (hg : g.engine = (w.gateway.engine.perform r).2) : Tidy w { w with gateway := g } := by
  refine ⟨fun he => ?_, ?_, fun _ => .inl rfl⟩
  · show g.engine.InOrder
    rw [hg]
    exact (Engine.perform_outcome he r).inOrder he
  · show w.gateway.engine.issued ≤ g.engine.issued
    rw [hg]
    exact w.gateway.engine.issued_perform_le r

end Tidy

/-- Work that is tidy wherever it starts. -/
abbrev Tidying {α : Type} (m : StateM Host α) : Prop := Along Tidy m

theorem through_tidying {α : Type} {post : α → Prop} {m : StateM Gateway α}
    (hm : Gateway.Forward post m) : Tidying (through m) := fun w =>
  ⟨(hm w.gateway).1.served.inOrder, (hm w.gateway).1.issued_le, fun _ => .inl rfl⟩

theorem tidy_poolwise : Poolwise Tidy where
  through := through_tidying
  rest _ _ hg hs := .same (congrArg Gateway.engine hg) hs

/-- **What goes on inside a host is tidy**, and so is most of what it is asked for. -/
theorem tidy_outward : Outward Tidy where
  through := through_tidying
  closePackage := tidy_poolwise.closePackage
  removePackage _ _ := .same rfl rfl
  put slot _ ho := .put ho slot
  erase w slot := .erased slot w
  rest _ _ hg _ hs _ := .same (congrArg Gateway.engine hg) hs

/-! ## §2. Requests and packages. -/

theorem runRequest_tidying (r : Request) : Tidying (runRequest r) := by
  intro w
  have hperform : Tidy w (through (Gateway.call fun e => e.perform r) w).2 := .perform w r rfl
  unfold runRequest
  rw [bind_apply]
  generalize through (Gateway.call fun e => e.perform r) w = x at hperform ⊢
  obtain ⟨reply, w1⟩ := x
  cases reply with
  | released notice => exact hperform.trans (through_tidying (.emit? notice) w1)
  | _ => exact hperform

/-- A navigation table is the one request of a package that is told apart. -/
theorem navigation_tidy (w : Host) (p : Package) (kind : NavKind) :
    Tidy w (through (p.navigation kind) w).2 := by
  rw [through_apply]
  unfold Package.navigation Package.live
  cases p.handle.get? with
  | none => exact .same rfl rfl
  | some h =>
    dsimp only
    rw [bind_apply, pure_apply]
    dsimp only
    cases p.navigationCache kind with
    | some known => exact .refl w
    | none => exact .perform w (.navigation h kind) rfl

theorem runPackage_tidying (op : PackageOp) : Tidying (runPackage slot op) := by
  intro w
  cases op with
  | navigation kind =>
    refine withPackage_keeps (.refl w) fun k p _ _ => ?_
    exact (navigation_tidy w p kind).trans (.same rfl rfl)
  | setRootUrls urls => exact withPackage_keeps (.refl w) fun _ _ _ _ => .same rfl rfl
  | _ => exact tidy_outward.runPackage _ (by simp) (by simp) w

end Host

end EpubAccess
