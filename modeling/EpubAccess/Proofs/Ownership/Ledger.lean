/-
  EpubAccess.Proofs.Ownership.Ledger
  ────────────────────────────────
  The balance between an engine and those who hold its handles.

  `Ledger e held loose` says that the live objects of `e` are exactly those
  whose handle is held: at one of the places that `held` looks up, or loose,
  in the hands of work in progress.  No handle is held twice, none was given
  back twice or used after it was given back, and the record of the calls
  shows it (`order`).

  Every way in which the engine moves keeps the balance: calls about a live
  handle (`uses`), a new object (`issue`), a handle given back (`giveBack`),
  and handles that change hands (`takeOut`, `moveIn`, `forget`).
  `Engine.Frame` says what such a move leaves to those at their places.
-/
import Mathlib.Data.List.Nodup
import EpubAccess.Proofs.Ownership.Uses

namespace EpubAccess

/-! ## §1. The record. -/

/-- The later call `d` is not about a handle that `c` gave back. -/
def Call.LeavesTo (c d : Call) : Prop := c.isRelease = true → d.handle? ≠ c.handle?

/-- A call that gives something back is about a handle. -/
theorem Call.handle?_of_isRelease {c : Call} (h : c.isRelease = true) :
    ∃ x, c.handle? = some x := by
  cases c <;> simp_all [isRelease, handle?]

theorem Handle.issuedAfter_injective {i j : Nat}
    (h : Handle.issuedAfter i = Handle.issuedAfter j) : i = j := by
  have hnumber : (Handle.issuedAfter i).number = (Handle.issuedAfter j).number := by rw [h]
  simpa [Handle.issuedAfter] using hnumber

namespace Engine

/-- The handle was issued by now. -/
def Issued (e : Engine) (h : Handle) : Prop := ∃ n < e.issued, h = Handle.issuedAfter n

/-- The next handle was not issued yet. -/
theorem not_issued_next (e : Engine) : ¬ e.Issued (Handle.issuedAfter e.issued) := by
  rintro ⟨n, hn, he⟩
  simp only [Handle.issuedAfter, Handle.mk.injEq] at he
  omega

theorem Issued.mono {e e' : Engine} {h : Handle} (hi : e.Issued h) (hle : e.issued ≤ e'.issued) :
    e'.Issued h := by
  obtain ⟨n, hn, rfl⟩ := hi
  exact ⟨n, by omega, rfl⟩

/-! ## §2. A handle taken back. -/

/-- A live handle taken back: the object goes, and all else stays but the
count of packages that came before their container. -/
theorem takeBack_live {e : Engine} {h : Handle} {o : LiveObject} (ho : e.live[h]? = some o) :
    (e.takeBack h).2.live = e.live.erase h ∧ (e.takeBack h).2.issued = e.issued
      ∧ (e.takeBack h).2.calls = e.calls ∧ (e.takeBack h).2.archives = e.archives
      ∧ (e.takeBack h).2.doubleReleases = e.doubleReleases
      ∧ (e.takeBack h).2.danglingUses = e.danglingUses
      ∧ (o.kind ≠ .package → (e.takeBack h).2.registryWarnings = e.registryWarnings) := by
  unfold takeBack
  rw [ho]
  cases o with
  | container a => exact ⟨rfl, rfl, rfl, rfl, rfl, rfl, fun _ => rfl⟩
  | stream c => exact ⟨rfl, rfl, rfl, rfl, rfl, rfl, fun _ => rfl⟩
  | package c a i =>
    dsimp only
    split <;> exact ⟨rfl, rfl, rfl, rfl, rfl, rfl, fun hk => absurd rfl hk⟩

/-- A package taken back counts a warning exactly if its container is live. -/
theorem takeBack_package_warnings {e : Engine} {h c : Handle} {a : String} {i : Nat}
    (ho : e.live[h]? = some (.package c a i)) (hc : c ≠ h) :
    (e.takeBack h).2.registryWarnings
      = e.registryWarnings + if c ∈ e.live then 1 else 0 := by
  unfold takeBack
  rw [ho]
  have hmem : c ∈ e.live.erase h ↔ c ∈ e.live := by
    simp [Std.ExtTreeMap.mem_erase, Ne.symm hc]
  by_cases hl : c ∈ e.live
  · simp [hmem, hl]
  · simp [hmem, hl]

end Engine

/-! ## §3. The balance. -/

/-- The owned handle is at some place, or loose. -/
def Holds {ι : Type} (held : ι → Option OwnedHandle) (loose : List OwnedHandle) (x : OwnedHandle) :
    Prop :=
  (∃ i, held i = some x) ∨ x ∈ loose

/-- The live objects of the engine are exactly those whose handle is held,
each by one holder, and no call went wrong. -/
structure Ledger {ι : Type} (e : Engine) (held : ι → Option OwnedHandle)
    (loose : List OwnedHandle) : Prop where
  live : ∀ x, Holds held loose x → x.released = false →
    (e.live[x.handle]?).map LiveObject.kind = some x.kind
  owned : ∀ (h : Handle) o, e.live[h]? = some o →
    ∃ x, Holds held loose x ∧ x.released = false ∧ x.handle = h
  issued : ∀ x, Holds held loose x → e.Issued x.handle
  apart : ∀ i j x y, held i = some x → held j = some y → x.handle = y.handle → i = j
  looseApart : ∀ i x y, held i = some x → y ∈ loose → x.handle ≠ y.handle
  looseNodup : (loose.map OwnedHandle.handle).Nodup
  order : e.log.Pairwise Call.LeavesTo
  spent : ∀ c ∈ e.log, c.isRelease = true → ∀ h : Handle, c.handle? = some h →
    e.Issued h ∧ e.live[h]? = none
  ended : ∀ h : Handle, e.Issued h → e.live[h]? = none →
    ∃ c ∈ e.log, c.isRelease = true ∧ c.handle? = some h
  doubleReleases : e.doubleReleases = 0
  danglingUses : e.danglingUses = 0

namespace Ledger

variable {ι : Type} {e e' : Engine} {held held' : ι → Option OwnedHandle}
  {loose loose' : List OwnedHandle} {x y : OwnedHandle}

/-- A fresh engine that nobody holds anything of. -/
theorem empty (hh : ∀ i, held i = none) : Ledger Engine.empty held [] := by
  refine ⟨?_, ?_, ?_, ?_, ?_, by simp, ?_, ?_, ?_, rfl, rfl⟩
  · rintro x (⟨i, hi⟩ | hx)
    · simp [hh] at hi
    · simp at hx
  · intro h o ho
    simp [Engine.empty] at ho
  · rintro x (⟨i, hi⟩ | hx)
    · simp [hh] at hi
    · simp at hx
  · intro i j x y hx
    simp [hh] at hx
  · intro i x y hx
    simp [hh] at hx
  · simp [Engine.log, Engine.empty]
  · intro c hc
    simp [Engine.log, Engine.empty] at hc
  · rintro h ⟨n, hn, -⟩
    exact absurd hn (Nat.not_lt_zero n)

/-- Two holders of one handle are one. -/
theorem unique (l : Ledger e held loose) (hx : Holds held loose x) (hy : Holds held loose y)
    (h : x.handle = y.handle) : x = y := by
  rcases hx with ⟨i, hi⟩ | hx <;> rcases hy with ⟨j, hj⟩ | hy
  · obtain rfl := l.apart i j x y hi hj h
    exact Option.some.inj (hi.symm.trans hj)
  · exact absurd h (l.looseApart i x y hi hy)
  · exact absurd h.symm (l.looseApart j y x hj hx)
  · exact List.inj_on_of_nodup_map l.looseNodup hx hy h

/-- The object behind a handle that is held. -/
theorem object (l : Ledger e held loose) (hx : Holds held loose x) (hr : x.released = false) :
    ∃ o, e.live[x.handle]? = some o ∧ o.kind = x.kind := by
  simpa using l.live x hx hr

/-- What was given back is not live. -/
theorem not_live (l : Ledger e held loose) (hx : Holds held loose x) (hr : x.released = true) :
    e.live[x.handle]? = none := by
  -- were it live, an unreleased holder would hold the same handle
  cases ho : e.live[x.handle]? with
  | none => rfl
  | some o =>
    obtain ⟨y, hy, hyr, hyh⟩ := l.owned _ o ho
    rw [l.unique hy hx hyh, hr] at hyr
    exact absurd hyr (by simp)

/-- A live handle has been issued. -/
theorem issued_of_live (l : Ledger e held loose) {h : Handle} {o : LiveObject}
    (ho : e.live[h]? = some o) : e.Issued h := by
  obtain ⟨x, hx, -, rfl⟩ := l.owned h o ho
  exact l.issued x hx

/-- A handle that is held serves the calls about it. -/
theorem serves {g : Gateway} (l : Ledger g.engine held loose) (hx : Holds held loose x)
    {k : HandleKind} (hk : x.kind = k) : g.Serves k x.get? := by
  intro h hh
  unfold OwnedHandle.get? at hh
  split at hh
  · exact absurd hh (by simp)
  · next hr =>
    cases hh
    rw [← hk]
    exact l.live x hx (by simpa using hr)

/-! ### Moves of the engine. -/

/-- Calls about a live handle keep the balance. -/
theorem uses (l : Ledger e held loose) {h? : Option Handle} (hu : e.Uses h? e')
    (hl : ∀ h, h? = some h → (e.live[h]?).isSome = true) : Ledger e' held loose := by
  obtain ⟨new, hlog, hnew⟩ := hu.log
  have hissued : ∀ h, e.Issued h → e'.Issued h := fun h hi =>
    hi.mono (Nat.le_of_eq hu.issued.symm)
  have hnone : ∀ h : Handle, e.live[h]? = none → e'.live[h]? = none := by
    intro h hn
    simpa [hn] using hu.shape h
  refine ⟨?_, ?_, fun x hx => hissued _ (l.issued x hx), l.apart, l.looseApart,
    l.looseNodup, ?_, ?_,
    ?_, hu.doubleReleases.trans l.doubleReleases, hu.danglingUses.trans l.danglingUses⟩
  · intro x hx hr
    rw [hu.kind, l.live x hx hr]
  · intro h o ho
    cases hb : e.live[h]? with
    | none => rw [hnone h hb] at ho; exact absurd ho (by simp)
    | some o' => exact l.owned h o' hb
  -- only a live handle is called about, and none that was given back is live
  · rw [hlog, List.pairwise_append]
    refine ⟨l.order, ?_, ?_⟩
    · refine List.pairwise_of_forall_mem_list fun c hc d _ hr => ?_
      rw [(hnew c hc).1] at hr
      exact absurd hr (by simp)
    · intro c hc d hd hr he
      obtain ⟨x, hx⟩ := Call.handle?_of_isRelease hr
      have hlive := hl x (by rw [← (hnew d hd).2, he, hx])
      rw [(l.spent c hc hr x hx).2] at hlive
      exact absurd hlive (by simp)
  · intro c hc hr h hh
    rw [hlog, List.mem_append] at hc
    rcases hc with hc | hc
    · obtain ⟨hi, hn⟩ := l.spent c hc hr h hh
      exact ⟨hissued h hi, hnone h hn⟩
    · rw [(hnew c hc).1] at hr
      exact absurd hr (by simp)
  · intro h hi hn
    have hn' : e.live[h]? = none := by
      simpa [hn] using (hu.shape h).symm
    obtain ⟨c, hc, hr⟩ := l.ended h (hi.mono (Nat.le_of_eq hu.issued)) hn'
    exact ⟨c, by rw [hlog]; exact List.mem_append_left _ hc, hr⟩

/-- A new object, its handle in hand. -/
theorem issue (l : Ledger e held loose) (o : LiveObject) :
    Ledger (e.allocate o).2 held (OwnedHandle.take (e.allocate o).1 o.kind :: loose) := by
  -- the next handle is new: whatever is held or live was issued before it
  have hnext : e.live[Handle.issuedAfter e.issued]? = none := by
    cases hb : e.live[Handle.issuedAfter e.issued]? with
    | none => rfl
    | some o' => exact absurd (l.issued_of_live hb) e.not_issued_next
  have hne : ∀ x, Holds held loose x → x.handle ≠ Handle.issuedAfter e.issued := fun x hx he =>
    e.not_issued_next (he ▸ l.issued x hx)
  have hmono : ∀ h, e.Issued h → (e.allocate o).2.Issued h := fun h hi => hi.mono (by
    show e.issued ≤ e.issued + 1
    omega)
  have hself : (e.allocate o).2.live[(e.allocate o).1]? = some o := by
    simp [Engine.allocate]
  have hother : ∀ h : Handle, h ≠ Handle.issuedAfter e.issued →
      (e.allocate o).2.live[h]? = e.live[h]? := by
    intro h hh
    simp [Engine.allocate, Std.ExtTreeMap.getElem?_insert, Ne.symm hh]
  have hsplit : ∀ x, Holds held (OwnedHandle.take (e.allocate o).1 o.kind :: loose) x →
      x = OwnedHandle.take (e.allocate o).1 o.kind ∨ Holds held loose x := by
    rintro x (hx | hx)
    · exact .inr (.inl hx)
    · exact (List.mem_cons.mp hx).imp id .inr
  refine ⟨?_, ?_, ?_, l.apart, ?_, ?_, l.order, ?_, ?_, l.doubleReleases, l.danglingUses⟩
  · intro x hx hr
    rcases hsplit x hx with rfl | hx
    · show Option.map _ ((e.allocate o).2.live[(e.allocate o).1]?) = _
      rw [hself]
      rfl
    · rw [hother _ (hne x hx), l.live x hx hr]
  · intro h o' ho
    by_cases hh : h = Handle.issuedAfter e.issued
    · exact ⟨_, .inr (List.mem_cons_self ..), rfl, hh.symm⟩
    · rw [hother h hh] at ho
      obtain ⟨x, hx, hr, hxh⟩ := l.owned h o' ho
      exact ⟨x, hx.imp id (List.mem_cons_of_mem _), hr, hxh⟩
  · intro x hx
    rcases hsplit x hx with rfl | hx
    · exact ⟨e.issued, Nat.lt_succ_self _, rfl⟩
    · exact hmono _ (l.issued x hx)
  · intro i x y hx hy
    rcases List.mem_cons.mp hy with rfl | hy
    · exact hne x (.inl ⟨i, hx⟩)
    · exact l.looseApart i x y hx hy
  · rw [List.map_cons, List.nodup_cons]
    refine ⟨fun hm => ?_, l.looseNodup⟩
    obtain ⟨y, hy, hyh⟩ := List.mem_map.mp hm
    exact hne y (.inr hy) hyh
  · intro c hc hr h hh
    obtain ⟨hi, hn⟩ := l.spent c hc hr h hh
    exact ⟨hmono h hi, (hother h fun he => e.not_issued_next (he ▸ hi)).trans hn⟩
  -- a handle issued by now is the new one, which is live, or one issued before
  · rintro h ⟨n, hn, rfl⟩ hl
    by_cases he : n = e.issued
    · rw [he] at hl
      exact absurd (hself.symm.trans hl) (by simp)
    · have hlt : n < e.issued := by
        have hn' : n < e.issued + 1 := hn
        omega
      have hne' : Handle.issuedAfter n ≠ Handle.issuedAfter e.issued := fun h =>
        e.not_issued_next (h ▸ ⟨n, hlt, rfl⟩)
      exact l.ended _ ⟨n, hlt, rfl⟩ ((hother _ hne').symm.trans hl)

/-- A handle in hand given back. -/
theorem giveBack (l : Ledger e held (x :: loose)) (hr : x.released = false) {c : Call}
    (hc : c.isRelease = true) (hh : c.handle? = some x.handle) :
    Ledger ((e.record c).takeBack x.handle).2 held loose := by
  have hx : Holds held (x :: loose) x := .inr (List.mem_cons_self ..)
  obtain ⟨o, ho, -⟩ := l.object hx hr
  obtain ⟨hlive, hissued, hcalls, -, hdouble, hdangling, -⟩ :=
    Engine.takeBack_live (e := e.record c) (h := x.handle) ho
  have hlog : ((e.record c).takeBack x.handle).2.log = e.log ++ [c] := by
    rw [← e.log_record c]
    simp only [Engine.log, hcalls]
  -- those who are left hold other handles
  have hsub : ∀ y, Holds held loose y → Holds held (x :: loose) y ∧ y.handle ≠ x.handle := by
    rintro y (⟨i, hi⟩ | hy)
    · exact ⟨.inl ⟨i, hi⟩, l.looseApart i y x hi (List.mem_cons_self ..)⟩
    · refine ⟨.inr (List.mem_cons_of_mem _ hy), fun he => ?_⟩
      have hn := l.looseNodup
      rw [List.map_cons, List.nodup_cons] at hn
      exact hn.1 (List.mem_map.mpr ⟨y, hy, he⟩)
  have hother : ∀ h : Handle, h ≠ x.handle →
      ((e.record c).takeBack x.handle).2.live[h]? = e.live[h]? := by
    intro h hne
    rw [hlive, Std.ExtTreeMap.getElem?_erase]
    simp [Ne.symm hne, Engine.record]
  have hself : ((e.record c).takeBack x.handle).2.live[x.handle]? = none := by
    rw [hlive]
    simp
  have hmono : ∀ h, e.Issued h → ((e.record c).takeBack x.handle).2.Issued h :=
    fun h hi => hi.mono (Nat.le_of_eq hissued.symm)
  refine ⟨?_, ?_, fun y hy => hmono _ (l.issued y (hsub y hy).1), l.apart, ?_, ?_, ?_, ?_, ?_,
    hdouble.trans l.doubleReleases, hdangling.trans l.danglingUses⟩
  · intro y hy hyr
    obtain ⟨hy', hne⟩ := hsub y hy
    rw [hother _ hne, l.live y hy' hyr]
  · intro h o' ho'
    by_cases he : h = x.handle
    · rw [he, hself] at ho'
      exact absurd ho' (by simp)
    · rw [hother h he] at ho'
      obtain ⟨y, hy, hyr, rfl⟩ := l.owned h o' ho'
      refine ⟨y, hy.imp id fun hm => ?_, hyr, rfl⟩
      exact (List.mem_cons.mp hm).resolve_left fun hyx => he (by rw [hyx])
  · exact fun i y z hy hz => l.looseApart i y z hy (List.mem_cons_of_mem _ hz)
  · exact (List.nodup_cons.mp l.looseNodup).2
  · rw [hlog, List.pairwise_append]
    refine ⟨l.order, List.pairwise_singleton _ _, ?_⟩
    intro d hd c' hc' hdr he
    rw [List.mem_singleton.mp hc', hh] at he
    -- an earlier release of this handle would have ended its life
    rw [(l.spent d hd hdr x.handle he.symm).2] at ho
    exact absurd ho (by simp)
  · intro d hd hdr h hdh
    rw [hlog, List.mem_append, List.mem_singleton] at hd
    rcases hd with hd | rfl
    · obtain ⟨hi, hn⟩ := l.spent d hd hdr h hdh
      refine ⟨hmono h hi, ?_⟩
      by_cases he : h = x.handle
      · rw [he, hself]
      · rw [hother h he, hn]
    · rw [hh, Option.some.injEq] at hdh
      exact ⟨hmono h (hdh ▸ l.issued x hx), hdh ▸ hself⟩
  · intro h hi hn
    by_cases he : h = x.handle
    · exact ⟨c, by rw [hlog]; simp, hc, he ▸ hh⟩
    · rw [hother h he] at hn
      obtain ⟨d, hd, hr⟩ := l.ended h (hi.mono (Nat.le_of_eq hissued)) hn
      exact ⟨d, by rw [hlog]; exact List.mem_append_left _ hd, hr⟩

/-! ### Handles that change hands. -/

/-- What was given back need not be kept. -/
theorem forget (l : Ledger e held (x :: loose)) (hr : x.released = true) : Ledger e held loose := by
  have hsub : ∀ y, Holds held loose y → Holds held (x :: loose) y :=
    fun y hy => hy.imp id (List.mem_cons_of_mem _)
  refine ⟨fun y hy => l.live y (hsub y hy), ?_, fun y hy => l.issued y (hsub y hy), l.apart, ?_, ?_,
    l.order, l.spent, l.ended, l.doubleReleases, l.danglingUses⟩
  · intro h o ho
    obtain ⟨y, hy, hyr, hyh⟩ := l.owned h o ho
    refine ⟨y, hy.imp id fun hm => (List.mem_cons.mp hm).resolve_left fun hyx => ?_, hyr, hyh⟩
    rw [hyx, hr] at hyr
    exact absurd hyr (by simp)
  · exact fun i y z hy hz => l.looseApart i y z hy (List.mem_cons_of_mem _ hz)
  · exact (List.nodup_cons.mp l.looseNodup).2

/-- A handle in hand may be kept as given back, once it is. -/
theorem keep (l : Ledger e held loose) (hr : x.released = true) (hi : e.Issued x.handle)
    (hn : ∀ y, Holds held loose y → y.handle ≠ x.handle) : Ledger e held (x :: loose) := by
  have hsplit : ∀ y, Holds held (x :: loose) y → y = x ∨ Holds held loose y := by
    rintro y (hy | hy)
    · exact .inr (.inl hy)
    · exact (List.mem_cons.mp hy).imp id .inr
  refine ⟨?_, ?_, ?_, l.apart, ?_, ?_, l.order, l.spent, l.ended, l.doubleReleases, l.danglingUses⟩
  · intro y hy hyr
    rcases hsplit y hy with rfl | hy
    · rw [hr] at hyr
      exact absurd hyr (by simp)
    · exact l.live y hy hyr
  · intro h o ho
    obtain ⟨y, hy, hyr, hyh⟩ := l.owned h o ho
    exact ⟨y, hy.imp id (List.mem_cons_of_mem _), hyr, hyh⟩
  · intro y hy
    rcases hsplit y hy with rfl | hy
    · exact hi
    · exact l.issued y hy
  · intro i y z hy hz
    rcases List.mem_cons.mp hz with rfl | hz
    · exact hn y (.inl ⟨i, hy⟩)
    · exact l.looseApart i y z hy hz
  · rw [List.map_cons, List.nodup_cons]
    refine ⟨fun hm => ?_, l.looseNodup⟩
    obtain ⟨y, hy, hyh⟩ := List.mem_map.mp hm
    exact hn y (.inr hy) hyh

/-- Loose handles may be told over in another order. -/
theorem perm (l : Ledger e held loose) (h : loose.Perm loose') : Ledger e held loose' := by
  have hsub : ∀ y, Holds held loose' y → Holds held loose y := fun y hy => hy.imp id h.mem_iff.mpr
  have hsub' : ∀ y, Holds held loose y → Holds held loose' y := fun y hy => hy.imp id h.mem_iff.mp
  refine ⟨fun y hy => l.live y (hsub y hy), ?_, fun y hy => l.issued y (hsub y hy), l.apart, ?_, ?_,
    l.order, l.spent, l.ended, l.doubleReleases, l.danglingUses⟩
  · intro h o ho
    obtain ⟨y, hy, hr⟩ := l.owned h o ho
    exact ⟨y, hsub' y hy, hr⟩
  · exact fun i y z hy hz => l.looseApart i y z hy (h.mem_iff.mpr hz)
  · exact (h.map _).nodup_iff.mp l.looseNodup

/-- A handle in hand put at an empty place. -/
theorem moveIn (l : Ledger e held (x :: loose)) {i : ι} (hi : held i = none)
    (hi' : held' i = some x) (ho : ∀ j, j ≠ i → held' j = held j) : Ledger e held' loose := by
  have hiff : ∀ y, Holds held' loose y ↔ Holds held (x :: loose) y := by
    intro y
    constructor
    · rintro (⟨j, hj⟩ | hy)
      · by_cases h : j = i
        · rw [h, hi', Option.some.injEq] at hj
          exact .inr (hj ▸ List.mem_cons_self ..)
        · exact .inl ⟨j, (ho j h).symm.trans hj⟩
      · exact .inr (List.mem_cons_of_mem _ hy)
    · rintro (⟨j, hj⟩ | hy)
      · have h : j ≠ i := fun h => by rw [h, hi] at hj; exact absurd hj (by simp)
        exact .inl ⟨j, (ho j h).trans hj⟩
      · rcases List.mem_cons.mp hy with rfl | hy
        · exact .inl ⟨i, hi'⟩
        · exact .inr hy
  have hplace : ∀ j y, held' j = some y → (j = i ∧ y = x) ∨ (j ≠ i ∧ held j = some y) := by
    intro j y hj
    by_cases h : j = i
    · rw [h, hi', Option.some.injEq] at hj
      exact .inl ⟨h, hj.symm⟩
    · exact .inr ⟨h, (ho j h).symm.trans hj⟩
  have hself : x ∈ x :: loose := List.mem_cons_self ..
  refine ⟨fun y hy => l.live y ((hiff y).mp hy), ?_,
    fun y hy => l.issued y ((hiff y).mp hy), ?_, ?_,
    (List.nodup_cons.mp l.looseNodup).2, l.order, l.spent, l.ended, l.doubleReleases,
    l.danglingUses⟩
  · intro h o hb
    obtain ⟨y, hy, hr⟩ := l.owned h o hb
    exact ⟨y, (hiff y).mpr hy, hr⟩
  · intro j k y z hj hk h
    rcases hplace j y hj with ⟨rfl, rfl⟩ | ⟨_, hj⟩ <;>
      rcases hplace k z hk with ⟨rfl, rfl⟩ | ⟨_, hk⟩
    · rfl
    · exact absurd h.symm (l.looseApart k z y hk hself)
    · exact absurd h (l.looseApart j y z hj hself)
    · exact l.apart j k y z hj hk h
  · intro j y z hj hz he
    have hn := List.nodup_cons.mp l.looseNodup
    rcases hplace j y hj with ⟨-, rfl⟩ | ⟨_, hj⟩
    · exact hn.1 (List.mem_map.mpr ⟨z, hz, he.symm⟩)
    · exact l.looseApart j y z hj (List.mem_cons_of_mem _ hz) he

/-- A handle taken from its place. -/
theorem takeOut (l : Ledger e held loose) {i : ι} (hi : held i = some x) (hi' : held' i = none)
    (ho : ∀ j, j ≠ i → held' j = held j) : Ledger e held' (x :: loose) := by
  have hplace : ∀ j y, held' j = some y → j ≠ i ∧ held j = some y := by
    intro j y hj
    have h : j ≠ i := fun h => by rw [h, hi'] at hj; exact absurd hj (by simp)
    exact ⟨h, (ho j h).symm.trans hj⟩
  have hiff : ∀ y, Holds held' (x :: loose) y ↔ Holds held loose y := by
    intro y
    constructor
    · rintro (⟨j, hj⟩ | hy)
      · exact .inl ⟨j, (hplace j y hj).2⟩
      · rcases List.mem_cons.mp hy with rfl | hy
        · exact .inl ⟨i, hi⟩
        · exact .inr hy
    · rintro (⟨j, hj⟩ | hy)
      · by_cases h : j = i
        · rw [h, hi, Option.some.injEq] at hj
          exact .inr (hj ▸ List.mem_cons_self ..)
        · exact .inl ⟨j, (ho j h).trans hj⟩
      · exact .inr (List.mem_cons_of_mem _ hy)
  refine ⟨fun y hy => l.live y ((hiff y).mp hy), ?_,
    fun y hy => l.issued y ((hiff y).mp hy), ?_, ?_, ?_,
    l.order, l.spent, l.ended, l.doubleReleases, l.danglingUses⟩
  · intro h o hb
    obtain ⟨y, hy, hr⟩ := l.owned h o hb
    exact ⟨y, (hiff y).mpr hy, hr⟩
  · exact fun j k y z hj hk => l.apart j k y z (hplace j y hj).2 (hplace k z hk).2
  · intro j y z hj hz he
    obtain ⟨hne, hj⟩ := hplace j y hj
    rcases List.mem_cons.mp hz with rfl | hz
    · exact hne (l.apart j i y z hj hi he)
    · exact l.looseApart j y z hj hz he
  · rw [List.map_cons, List.nodup_cons]
    refine ⟨fun hm => ?_, l.looseNodup⟩
    obtain ⟨y, hy, hyh⟩ := List.mem_map.mp hm
    exact l.looseApart i x y hi hy hyh.symm

/-- Only what the places hold matters. -/
theorem congr (l : Ledger e held loose) (h : ∀ i, held' i = held i) : Ledger e held' loose := by
  rw [show held' = held from funext h]
  exact l

/-- A handle at a place given back, and kept there as such. -/
theorem spend (l : Ledger e held loose) {i : ι} (hi : held i = some x) (hr : x.released = false)
    {c : Call} (hc : c.isRelease = true) (hh : c.handle? = some x.handle)
    (hi' : held' i = some { x with released := true }) (ho : ∀ j, j ≠ i → held' j = held j) :
    Ledger ((e.record c).takeBack x.handle).2 held' loose := by
  classical
  -- in between the place is empty and the handle in hand
  have hself : (fun j => if j = i then none else held j) i = none := by simp
  have hother : ∀ j, j ≠ i → (fun j => if j = i then none else held j) j = held j := by
    intro j hj
    simp [hj]
  have hback := (l.takeOut hi hself hother).giveBack hr hc hh
  refine (hback.keep (x := { x with released := true }) rfl ?_ ?_).moveIn hself hi' ?_
  · obtain ⟨o, hlive, -⟩ := l.object (.inl ⟨i, hi⟩) hr
    obtain ⟨-, hissued, -⟩ := Engine.takeBack_live (e := e.record c) (h := x.handle) hlive
    exact (l.issued x (.inl ⟨i, hi⟩)).mono (Nat.le_of_eq hissued.symm)
  · rintro y (⟨j, hj⟩ | hy) he
    · by_cases hji : j = i
      · rw [hji, hself] at hj
        exact absurd hj (by simp)
      · exact hji (l.apart j i y x ((hother j hji).symm.trans hj) hi he)
    · exact l.looseApart i x y hi hy he.symm
  · intro j hj
    exact (ho j hj).trans (hother j hj).symm

end Ledger

end EpubAccess
