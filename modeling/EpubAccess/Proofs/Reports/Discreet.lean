/-
  EpubAccess.Proofs.Reports.Discreet
  ────────────────────────────────
  Work inside a host that leaves no error in the log.

  `Host.Notes r w w'` says that `w'` came out of `w` with the remark `r`, or
  none, and that no package was added meanwhile.  `Host.Discreet m` says of the
  work `m` that it makes no remark wherever it starts.

  What goes on inside the library is discreet, in whatever state the objects are
  (`Host.notes_inward`), for it asks first whether the object is open.
-/
import EpubAccess.Proofs.Reports.Remarks
import EpubAccess.Proofs.Walks

namespace EpubAccess

open Stateful Gateway

namespace Host

variable {w w' w'' : Host} {slot dest : String} {r : Option Event}

/-! ## §1. Work that makes a remark. -/

/-- The host `w'` came out of `w`, with one remark or none, and no package was
added. -/
structure Notes (r : Option Event) (w w' : Host) : Prop where
  remarks : w.gateway.Remarks r w'.gateway
  packages : w'.packages.next = w.packages.next

namespace Notes

theorem same (hg : w'.gateway.events = w.gateway.events) (hp : w'.packages.next = w.packages.next) :
    Notes none w w' := ⟨.same hg, hp⟩

theorem refl (w : Host) : Notes none w w := same rfl rfl

/-- The remark comes first. -/
theorem before (h : Notes r w w') (h' : Notes none w' w'') : Notes r w w'' :=
  ⟨h.remarks.before h'.remarks, h'.packages.trans h.packages⟩

theorem through {α : Type} {post : α → Prop} {m : StateM Gateway α} (hm : Remarking r post m)
    (w : Host) : Notes r w (Host.through m w).2 := ⟨(hm w.gateway).1, rfl⟩

end Notes

instance : IsPreorder Host (Notes none) where
  refl := Notes.refl
  trans _ _ _ := Notes.before

/-- Work that makes no remark and adds no package. -/
abbrev Discreet {α : Type} (m : StateM Host α) : Prop := Along (Notes none) m

theorem through_discreet {α : Type} {post : α → Prop} {m : StateM Gateway α}
    (hm : Remarking none post m) : Discreet (through m) := fun w => Notes.through hm w

/-! ## §2. Objects that are closed or go away. -/

theorem closePackage_notes {k : PackageId} {p : Package} (hp : w.packages.get? k = some p) :
    Notes p.handle.misuse? w (closePackage k w).2 := by
  have hclose := Notes.through p.close_remarking w
  unfold closePackage
  rw [get_bind_apply]
  simp only [hp]
  exact hclose.before (.same rfl rfl)

/-- Events about containers and libraries are no remarks. -/
theorem isRemark_of_isInside {e : Event} (h : e.isInside = true) : e.isRemark = false := by
  cases e <;> first | rfl | exact absurd h (by simp [Event.isInside])

/-- **What goes on inside the library makes no remark.** -/
theorem notes_inward : Inward (Notes none) where
  emit _ he := through_discreet (.emit_plain (isRemark_of_isInside he))
  release x hx w := by
    have hrelease := Notes.through x.release_remarking w
    unfold OwnedHandle.misuse? at hrelease
    rw [hx] at hrelease
    exact hrelease
  drop x := through_discreet x.drop_unremarked
  closePackage w k p hp hc := by
    have hclose := closePackage_notes hp
    unfold OwnedHandle.misuse? at hclose
    rw [show p.handle.released = false from hc] at hclose
    exact hclose
  removePackage _ _ := .same rfl rfl
  library _ _ _ := .same rfl rfl
  rest _ _ hg hp _ _ := .same (congrArg Gateway.events hg) (congrArg Pool.next hp)

/-- **A container reports a second request to close it**, and its packages,
which are closed with it, report nothing. -/
theorem closeContainer_notes {id : ContainerId} {c : Container}
    (hc : w.containers.get? id = some c) : Notes c.handle.misuse? w (closeContainer id w).2 := by
  have hrelease := Notes.through (c.handle.release_remarking) w
  unfold closeContainer
  rw [get_bind_apply]
  simp only [hc]
  rw [bind_apply]
  generalize through c.handle.release w = r at hrelease ⊢
  obtain ⟨⟨done, handle⟩, w1⟩ := r
  refine hrelease.before ?_
  have hrest : Discreet (do
      modify fun w : Host => { w with containers := w.containers.set id { c with handle } }
      if done then
        c.packages.forM closePackageIfOpen
        through (Gateway.emit (.containerClosed c.path c.handle.handle))
        pure true
      else pure false : StateM Host Bool) := by
    refine .bind (.modify fun _ => .same rfl rfl) fun _ => ?_
    cases done with
    | true =>
      exact .bind (.forM notes_inward.closePackageIfOpen _) fun _ =>
        .bind (notes_inward.emit _ rfl) fun _ => .pure _
    | false => exact .pure _
  exact hrest w1

theorem through_slots {α : Type} (m : StateM Gateway α) (w : Host) :
    (through m w).2.slots = w.slots := rfl

/-- Every fetch in a slot holds an open stream, or none. -/
def FetchesFresh (w : Host) : Prop :=
  ∀ (slot : String) (f : Fetch), w.slots[slot]? = some (.fetch f) → f.Fresh

/-- **What a slot held goes away without an error**, whatever it was. -/
theorem dropHolding_discreet {o : Holding} (ho : ∀ f, o = .fetch f → f.Fresh) :
    Discreet (dropHolding o) :=
  notes_inward.dropHolding fun f hf => through_discreet (Fetch.close_unremarked (ho f hf))

theorem store_notes (hw : w.FetchesFresh) (slot : String) (o : Holding) :
    Notes none w (store slot o w).2 := by
  have hput : Notes none w { w with slots := w.slots.insert slot o } := .same rfl rfl
  unfold store
  rw [get_bind_apply]
  cases hold : w.slots[slot]? with
  | none => exact hput
  | some old =>
    refine hput.before (dropHolding_discreet ?_ _)
    rintro f rfl
    exact hw slot f hold

theorem storeStream_notes (hw : w.FetchesFresh) (dest : String) (s : Option ContentStream) :
    Notes none w (storeStream dest s w).2 := by
  cases s with
  | none => exact .refl w
  | some s => exact store_notes hw dest _

theorem clear_notes (hw : w.FetchesFresh) (slot : String) : Notes none w (clear slot w).2 := by
  have herase : Notes none w { w with slots := w.slots.erase slot } := .same rfl rfl
  unfold clear
  rw [get_bind_apply]
  cases hold : w.slots[slot]? with
  | none => exact .refl w
  | some o =>
    refine herase.before (dropHolding_discreet ?_ _)
    rintro f rfl
    exact hw slot f hold

/-- Reading a library from a file touches no slot. -/
theorem loadLibrary_slots (file : String) (w : Host) : (loadLibrary file w).2.slots = w.slots := by
  unfold loadLibrary
  rw [get_bind_apply]
  cases w.files.read file with
  | error e => rfl
  | ok bytes =>
    dsimp only
    cases Library.ofBytes? bytes <;> rfl

/-! ## §3. Objects that are opened. -/

theorem loadPackages_remarks (link : ContainerLink) (config : Config) (hs : List Handle) :
    ∀ w : Host, w.gateway.Remarks none (loadPackages link config hs w).2.gateway
      ∧ (loadPackages link config hs w).2.slots = w.slots := by
  induction hs with
  | nil =>
    intro w
    exact ⟨.refl _, rfl⟩
  | cons h hs ih =>
    intro w
    have hload := (Package.load_unremarked h config w.gateway).1
    unfold loadPackages
    simp only [bind_apply, through_apply, get_apply, set_apply, pure_apply]
    generalize Package.load h config w.gateway = r at hload ⊢
    obtain ⟨hrest, hslots⟩ := ih { w with
      gateway := r.2, packages := (w.packages.add { r.1 with link := some link }).2 }
    exact ⟨hload.before hrest, hslots⟩

theorem openContainer_remarks (path : String) (config : Config) (w : Host) :
    w.gateway.Remarks none (openContainer path config w).2.gateway
      ∧ (openContainer path config w).2.slots = w.slots := by
  have hopen : w.gateway.Remarks none (through (Gateway.openArchive path) w).2.gateway :=
    (openArchive_unremarked path w.gateway).1
  have hslots := through_slots (Gateway.openArchive path) w
  unfold openContainer
  rw [bind_apply]
  generalize through (Gateway.openArchive path) w = r at hopen hslots ⊢
  obtain ⟨_ | h, w1⟩ := r
  · exact ⟨hopen, hslots⟩
  simp only [bind_apply, get_apply, set_apply, pure_apply]
  have hversion := Notes.through (containerVersion_unremarked h) w1
  have hslots1 := through_slots (Gateway.containerVersion h) w1
  generalize through (Gateway.containerVersion h) w1 = r1 at hversion hslots1 ⊢
  have hpackages := Notes.through (packages_unremarked h) r1.2
  have hslots2 := through_slots (Gateway.packages h) r1.2
  generalize through (Gateway.packages h) r1.2 = r2 at hpackages hslots2 ⊢
  obtain ⟨hload, hslots3⟩ := loadPackages_remarks { container := r2.2.containers.next, path } config
    r2.1 r2.2
  generalize loadPackages { container := r2.2.containers.next, path } config r2.1 r2.2 = r3
    at hload hslots3 ⊢
  have hemit := (Remarking.emit_plain (e := .containerOpened path h r3.1.length) rfl r3.2.gateway).1
  refine ⟨?_, hslots3.trans (hslots2.trans (hslots1.trans hslots))⟩
  exact (((hopen.before hversion.remarks).before hpackages.remarks).before hload).before hemit

/-- A package that is attached already is reported. -/
theorem addPackage_notes {id : ContainerId} {c : Container} {k : PackageId} {p : Package}
    (hc : w.containers.get? id = some c) (hp : w.packages.get? k = some p) :
    Notes p.attachMisuse? w (addPackage id k w).2 := by
  unfold addPackage Package.attach? Package.attachMisuse?
  rw [get_bind_apply]
  simp only [hc, hp]
  cases p.link with
  | some link => exact Notes.through (.emit rfl) w
  | none => exact .same rfl rfl

end Host

end EpubAccess
