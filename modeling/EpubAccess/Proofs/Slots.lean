/-
  EpubAccess.Proofs.Slots
  ────────────────────────────────
  Work with what a slot holds.

  Such work goes on with the object that is found (`Host.withContainer_some`
  and its like), and leaves a host alone that has no such object in the slot.
  So whatever holds of the host before, and after the work on each object that
  might be found, holds afterwards (`Host.withContainer_keeps` and its like).

  Of the streams in slots `Host.openAt` tells the handle, while they are open.
-/
import EpubAccess.Host.Step

namespace EpubAccess

open Stateful

namespace Host

variable {w : Host} {slot : String}

/-! ## §1. The object that is found. -/

theorem withContainer_some {f : ContainerId → Container → StateM Host Answer} {id : ContainerId}
    {c : Container} (ho : w.slots[slot]? = some (.container id))
    (hc : w.containers.get? id = some c) : withContainer slot f w = f id c w := by
  unfold withContainer
  rw [get_bind_apply]
  simp only [ho, hc]

theorem withPackage_some {f : PackageId → Package → StateM Host Answer} {k : PackageId}
    {p : Package} (ho : w.slots[slot]? = some (.package k)) (hp : w.packages.get? k = some p) :
    withPackage slot f w = f k p w := by
  unfold withPackage
  rw [get_bind_apply]
  simp only [ho, hp]

/-- Without an object in the slot nothing happens. -/
theorem withPackage_none {f : PackageId → Package → StateM Host Answer}
    (h : ∀ k, w.slots[slot]? = some (.package k) → w.packages.get? k = none) :
    withPackage slot f w = (.noSlot, w) := by
  unfold withPackage
  rw [get_bind_apply]
  cases ho : w.slots[slot]? with
  | none => rfl
  | some o =>
    cases o with
    | package k =>
      simp only [h k ho]
      rfl
    | _ => rfl

theorem withStream_some {f : ContentStream → StateM Host Answer} {s : ContentStream}
    (ho : w.slots[slot]? = some (.stream s)) : withStream slot f w = f s w := by
  unfold withStream
  rw [get_bind_apply]
  simp only [ho]

/-- An operation of the stream that is found. -/
theorem run_stream {s : ContentStream} (ho : w.slots[slot]? = some (.stream s)) (op : StreamOp) :
    run (.stream slot op) w
      = (.streamReply (op.run s w.gateway).1.1 (op.run s w.gateway).1.2,
          { w with
            gateway := (op.run s w.gateway).2
            slots := w.slots.insert slot (.stream (op.run s w.gateway).1.2) }) :=
  withStream_some ho

theorem withFetch_some {f : Fetch → Package → StateM Host Answer} {x : Fetch} {p : Package}
    (ho : w.slots[slot]? = some (.fetch x)) (hp : w.packages.get? x.package = some p) :
    withFetch slot f w = f x p w := by
  unfold withFetch
  rw [get_bind_apply]
  simp only [ho, hp]

theorem withLibrary_some {f : Library → StateM Host Answer} {l : Library}
    (hl : w.slots[slot]? = some (.library l)) : withLibrary slot f w = f l w := by
  unfold withLibrary
  rw [get_bind_apply]
  simp only [hl]

/-! ## §2. What the work keeps. -/

variable {P : Host → Prop} (hw : P w)

include hw

theorem withOwned_keeps {f : OwnedHandle → StateM Host Answer}
    (hf : ∀ x, w.slots[slot]? = some (.owned x) → P (f x w).2) : P (withOwned slot f w).2 := by
  unfold withOwned
  rw [get_bind_apply]
  cases ho : w.slots[slot]? with
  | none => exact hw
  | some o =>
    cases o with
    | owned x => exact hf x ho
    | _ => exact hw

theorem withContainer_keeps {f : ContainerId → Container → StateM Host Answer}
    (hf : ∀ id c, w.slots[slot]? = some (.container id) → w.containers.get? id = some c →
      P (f id c w).2) : P (withContainer slot f w).2 := by
  unfold withContainer
  rw [get_bind_apply]
  cases ho : w.slots[slot]? with
  | none => exact hw
  | some o =>
    cases o with
    | container id =>
      dsimp only
      cases hc : w.containers.get? id with
      | none => exact hw
      | some c => exact hf id c ho hc
    | _ => exact hw

/-- A selection comes to a package of the container's list, or to none. -/
theorem runSelect_keeps {index : Option Nat} {dest : String}
    (hstore : ∀ id c k, w.containers.get? id = some c → k ∈ c.packages →
      P (store dest (.package k) w).2) : P (runSelect slot index dest w).2 := by
  refine withContainer_keeps hw fun id c _ hc => ?_
  rw [get_bind_apply]
  cases index with
  | none =>
    dsimp only
    cases hk : c.defaultPackage? with
    | none => exact hw
    | some k => exact hstore id c k hc (List.mem_of_mem_head? hk)
  | some i =>
    dsimp only
    cases hk : c.packages[i]? with
    | none => exact hw
    | some k => exact hstore id c k hc (List.mem_of_getElem? hk)

theorem withPackage_keeps {f : PackageId → Package → StateM Host Answer}
    (hf : ∀ k p, w.slots[slot]? = some (.package k) → w.packages.get? k = some p →
      P (f k p w).2) : P (withPackage slot f w).2 := by
  unfold withPackage
  rw [get_bind_apply]
  cases ho : w.slots[slot]? with
  | none => exact hw
  | some o =>
    cases o with
    | package k =>
      dsimp only
      cases hp : w.packages.get? k with
      | none => exact hw
      | some p => exact hf k p ho hp
    | _ => exact hw

theorem withStream_keeps {f : ContentStream → StateM Host Answer}
    (hf : ∀ s, w.slots[slot]? = some (.stream s) → P (f s w).2) : P (withStream slot f w).2 := by
  unfold withStream
  rw [get_bind_apply]
  cases ho : w.slots[slot]? with
  | none => exact hw
  | some o =>
    cases o with
    | stream s => exact hf s ho
    | _ => exact hw

theorem withFetch_keeps {f : Fetch → Package → StateM Host Answer}
    (hf : ∀ x p, w.slots[slot]? = some (.fetch x) → w.packages.get? x.package = some p →
      P (f x p w).2) : P (withFetch slot f w).2 := by
  unfold withFetch
  rw [get_bind_apply]
  cases ho : w.slots[slot]? with
  | none => exact hw
  | some o =>
    cases o with
    | fetch x =>
      dsimp only
      cases hp : w.packages.get? x.package with
      | none => exact hw
      | some p => exact hf x p ho hp
    | _ => exact hw

theorem withLibrary_keeps {f : Library → StateM Host Answer}
    (hf : ∀ l, w.slots[slot]? = some (.library l) → P (f l w).2) : P (withLibrary slot f w).2 := by
  unfold withLibrary
  rw [get_bind_apply]
  cases ho : w.slots[slot]? with
  | none => exact hw
  | some o =>
    cases o with
    | library l => exact hf l ho
    | _ => exact hw

end Host

/-! ## §3. Open streams. -/

/-- The handle of the stream that is held, if it is open. -/
def Fetch.openHandle? (f : Fetch) : Option Handle := f.stream.bind fun s => s.handle.get?

theorem Fetch.openHandle?_of_some {f : Fetch} {s : ContentStream} (hs : f.stream = some s) :
    f.openHandle? = s.handle.get? := by
  unfold openHandle?
  rw [hs]
  rfl

theorem Fetch.openHandle?_of_none {f : Fetch} (hs : f.stream = none) : f.openHandle? = none := by
  unfold openHandle?
  rw [hs]
  rfl

/-- The handle of the stream that is held, itself or in a fetch, if it is open. -/
def Holding.openHandle? : Holding → Option Handle
  | .stream s => s.handle.get?
  | .fetch f => f.openHandle?
  | _ => none

namespace Host

/-- The handle of the open stream that a slot holds, itself or in a fetch. -/
def openAt (w : Host) (m : String) : Option Handle := (w.slots[m]?).bind Holding.openHandle?

variable {w w' : Host} {m : String}

theorem insert_self (slots : Std.ExtTreeMap String Holding) (m : String) (o : Holding) :
    (slots.insert m o)[m]? = some o := by
  simp

theorem openAt_congr (h : w'.slots[m]? = w.slots[m]?) : w'.openAt m = w.openAt m :=
  congrArg (fun o => Option.bind o Holding.openHandle?) h

theorem openAt_of_slot {o : Holding} (h : w.slots[m]? = some o) : w.openAt m = o.openHandle? := by
  unfold openAt
  rw [h]
  rfl

theorem openAt_of_empty (h : w.slots[m]? = none) : w.openAt m = none := by
  unfold openAt
  rw [h]
  rfl

end Host

end EpubAccess
