/-
  EpubAccess.Proofs.Libraries.ClosingOrder
  ────────────────────────────────
  A library closed, in whatever order its containers are taken.

  Closing drains the registered containers while the library still holds the
  packages at its entries, and then lets go of those
  (`Host.closeLibraryIn_drained`).  A container is registered under one path, so
  each is drained once (`Backed.nodup_containerIds`), and draining them in another
  order leaves the same behind (`Host.closing_order_irrelevant`).
-/
import EpubAccess.Proofs.Libraries.Backing
import EpubAccess.Proofs.Libraries.Documents
import EpubAccess.Proofs.Lifetimes.Draining

namespace EpubAccess.Host

open Stateful Engine

variable {w v : Host} {slot : String} {l : Library} {order order' : List ContainerId}
  {id : ContainerId} {k : PackageId}

/-- No container is registered twice. -/
theorem Backed.nodup_containerIds (h : Backed w l) : l.containerIds.Nodup :=
  OrderedMap.nodup_values l.containers fun _ _ _ ha hb => h.path_unique ha hb

/-- A package at an entry is listed by a registered container. -/
theorem Backed.lists_of_mem (h : Backed w l) (hk : k ∈ l.packageIds) :
    ∃ id ∈ l.containerIds, w.Lists id k := by
  obtain ⟨u, e, he, hek⟩ := Library.mem_packageIds.mp hk
  obtain ⟨id, c, hid, hc, hmem⟩ := h.listed u e k he hek
  exact ⟨id, Library.mem_containerIds.mpr ⟨e.path, hid⟩, c, hc, hmem⟩

/-- The host once its library gave up the containers and before one of them is
closed. -/
def releasing (slot : String) (l : Library) (w : Host) : Host :=
  { w with
    libraryClosed := true
    slots := w.slots.insert slot (.library l.forgetContainers) }

theorem Regular.releasing (hw : Regular w) (hl : w.slots[slot]? = some (.library l)) :
    Regular (releasing slot l w) := by
  have hnoted : Later .any w { w with libraryClosed := true } := .same hw.consistent (Nat.le_refl _)
  have hforgotten : Later .any _ (update slot (.library l.forgetContainers)
      { w with libraryClosed := true }).2 :=
    .updateLibrary hnoted.after (hw.consistent.stocked hl).forgetContainers trivial
  exact hw.later (hnoted.trans hforgotten) (.same rfl) rfl rfl

/-- **What closing a library does**: the containers are drained in the order given,
and then the library lets go of the packages that it still holds. -/
theorem closeLibraryIn_drained (hw : Regular w) (hb : Backed w l)
    (hl : w.slots[slot]? = some (.library l)) (ho : order.Perm l.containerIds) :
    ∃ v, Drained order (releasing slot l w) v
      ∧ PackagesGone l.packageIds { v with slots := v.slots.insert slot (.library l.forgetObjects) }
          (closeLibraryIn order slot l w).2 := by
  have hregular := hw.releasing hl
  have hdrained : Drained order (releasing slot l w) _ :=
    closeAndDropAll_drained order (ho.nodup_iff.mpr hb.nodup_containerIds) hregular
  refine ⟨_, hdrained, dropPackages_gone l.packageIds fun k hk p hp => ?_⟩
  -- a package at an entry was closed with the container that lists it
  obtain ⟨id, hid, hlists⟩ := hb.lists_of_mem hk
  exact (hdrained.shut hregular.consistent (ho.mem_iff.mpr hid) hlists).2 p hp

/-- The library in the slot was closed: it knows its publications by their paths
only, the containers that it registered are closed or gone with their packages, and
the engine got back what was open of them. -/
structure LibraryShut (slot : String) (l : Library) (order : List ContainerId)
    (w v : Host) : Prop where
  library : ∃ l', v.slots[slot]? = some (.library l') ∧ l.Restored l'
  containers : ∀ id ∈ l.containerIds, ∃ c, w.containers.get? id = some c ∧ v.Gone id
    ∧ ∀ k ∈ c.packages, v.Shut k
  engine : GaveBack (order.flatMap w.handlesOf) w.gateway.engine v.gateway.engine

theorem closeLibraryIn_shut (hw : Regular w) (hb : Backed w l)
    (hl : w.slots[slot]? = some (.library l)) (ho : order.Perm l.containerIds) :
    LibraryShut slot l order w (closeLibraryIn order slot l w).2 := by
  obtain ⟨v, hdrained, hgone⟩ := closeLibraryIn_drained hw hb hl ho
  have hconsistent := (hw.releasing hl).consistent
  refine ⟨⟨l.forgetObjects, ?_, l.restored_forgetObjects⟩, fun id hid => ?_, ?_⟩
  · rw [hgone.rest]
    exact Std.ExtTreeMap.getElem?_insert_self
  · obtain ⟨c, hc⟩ := (hw.consistent.stocked hl).1 id hid
    have hid' := ho.mem_iff.mpr hid
    refine ⟨c, hc, ?_, fun k hk => hgone.shut (hdrained.shut hconsistent hid' ⟨c, hc, hk⟩)⟩
    rw [hgone.rest]
    exact hdrained.gone hconsistent hid' hc
  · rw [hgone.rest]
    exact hdrained.engine

/-- **The order in which a library closes its containers does not matter.**  After
any run that loads no package alone, close the containers of a library in any two
orders.  All that the host holds is the same afterwards: slots with libraries,
containers, packages and whether they are closed.  The engine has the same live
objects, released the same handles equally often, and counted the same double
releases, dangling uses and warnings.  The library is shut either way, and closing
it by command is taking one such order. -/
theorem closing_order_irrelevant (cs : List Command) (hcs : ∀ c ∈ cs, c.loadsAlone = false)
    (slot : String) (l : Library) (hl : (after cs fresh).slots[slot]? = some (.library l))
    (order order' : List ContainerId) (ho : order.Perm l.containerIds)
    (ho' : order'.Perm l.containerIds) :
    let w := after cs fresh
    let v := (closeLibraryIn order slot l w).2
    let v' := (closeLibraryIn order' slot l w).2
    v' = { v with gateway := v'.gateway }
      ∧ v.gateway.engine.SameBooks v'.gateway.engine
      ∧ LibraryShut slot l order w v
      ∧ run (.closeLibrary slot) w = (.done, (closeLibraryIn l.containerIds slot l w).2) := by
  intro w v v'
  have hw : Regular w := regular_after cs hcs
  have hb : Backed w l := librariesBacked_after cs slot l hl
  obtain ⟨u, hdrained, hgone⟩ := closeLibraryIn_drained hw hb hl ho
  obtain ⟨u', hdrained', hgone'⟩ := closeLibraryIn_drained hw hb hl ho'
  obtain ⟨hsame, hbooks⟩ := hdrained.determined hdrained' (ho.trans ho'.symm)
  refine ⟨hgone.determined hgone' ?_, ?_, closeLibraryIn_shut hw hb hl ho,
    run_closeLibrary_apply hl⟩
  · rw [hsame]
  · show SameBooks (closeLibraryIn order slot l w).2.gateway.engine
      (closeLibraryIn order' slot l w).2.gateway.engine
    rw [hgone.rest, hgone'.rest]
    exact hbooks

/-- A library with two containers. -/
def sampleShelf : List Command :=
  sampleLibrary ++ [.register "b" (identifiedArchive "v"), .openContainer "b" .default "second",
    .addToLibrary "library" "second"]

/-- Two orders that release the same handles, and note them in different orders. -/
theorem closing_order_irrelevant_sample :
    let w := after sampleShelf fresh
    ∃ l, w.slots["library"]? = some (.library l) ∧ l.containerIds = [0, 1]
      ∧ (let v := (closeLibraryIn [0, 1] "library" l w).2
         let v' := (closeLibraryIn [1, 0] "library" l w).2
         v' = { v with gateway := v'.gateway }
           ∧ v.gateway.engine.SameBooks v'.gateway.engine
           ∧ v.gateway.engine.released.toList = [0, 1, 2, 3].map Handle.issuedAfter
           ∧ v'.gateway.engine.released.toList = [2, 3, 0, 1].map Handle.issuedAfter) := by
  have horders := closing_order_irrelevant sampleShelf (by decide) "library"
  have hshelf : ((after sampleShelf fresh).slots["library"]?.bind Holding.library?).map (fun l =>
      (l.containerIds,
        (closeLibraryIn [0, 1] "library" l
          (after sampleShelf fresh)).2.gateway.engine.released.toList,
        (closeLibraryIn [1, 0] "library" l
          (after sampleShelf fresh)).2.gateway.engine.released.toList))
      = some ([0, 1], [0, 1, 2, 3].map Handle.issuedAfter,
        [2, 3, 0, 1].map Handle.issuedAfter) := by
    decide +kernel
  generalize after sampleShelf fresh = w at horders hshelf ⊢
  obtain ⟨l, hl, hruns⟩ := Option.map_eq_some_iff.mp hshelf
  have hl := Holding.eq_library hl
  simp only [Prod.mk.injEq] at hruns
  obtain ⟨hids, hreleased, hreleased'⟩ := hruns
  obtain ⟨hsame, hbooks, -, -⟩ := horders l hl [0, 1] [1, 0] (by rw [hids]) (by rw [hids]; decide)
  exact ⟨l, hl, hids, hsame, hbooks, hreleased, hreleased'⟩

end EpubAccess.Host
