/-
  EpubAccess.Proofs.OrderedMap
  ────────────────────────────────
  What the registries answer after an update, by lookup.

  `any_iff` and `mem_values` say what a search through a whole ordered map
  finds; the `Pool` lemmas say what a pool answers after each operation.
  Later modules look registries up and never open them.
-/
import EpubAccess.Pool

namespace EpubAccess

/-! ## §1. Searching an ordered map. -/

namespace OrderedMap

variable {α β : Type} {cmp : α → α → Ordering} [Std.TransCmp cmp]

theorem find_eq_any (p : α → β → Bool) (l : List (α × β)) :
    (Id.run do
      for ⟨a, b⟩ in l do
        if p a b then return true
      return false : Bool) = l.any fun (a, b) => p a b := by
  induction l with
  | nil => rfl
  | cons x l ih => cases h : p x.1 x.2 <;> simp_all

theorem any_eq_any_toList (t : Std.ExtTreeMap α β cmp) (p : α → β → Bool) :
    t.any p = t.toList.any fun (a, b) => p a b := by
  rw [← find_eq_any, ← Std.ExtTreeMap.forIn_eq_forIn_toList]
  rcases t with ⟨⟨q⟩⟩
  induction q using Quotient.ind with
  | _ m => rfl

theorem values_eq_map_toList (t : Std.ExtTreeMap α β cmp) :
    t.values = t.toList.map Prod.snd := by
  rcases t with ⟨⟨q⟩⟩
  induction q using Quotient.ind with
  | _ m =>
    show m.inner.values = (Std.DTreeMap.Internal.Impl.Const.toList m.inner).map Prod.snd
    simp [Std.DTreeMap.Internal.Impl.values_eq_map_snd,
      Std.DTreeMap.Internal.Impl.Const.toList_eq_toListModel_map]

variable [Std.LawfulEqCmp cmp]

/-- A search succeeds exactly when some key has a fitting value. -/
theorem any_iff (t : Std.ExtTreeMap α β cmp) (p : α → β → Bool) :
    t.any p = true ↔ ∃ a b, t[a]? = some b ∧ p a b = true := by
  rw [any_eq_any_toList, List.any_eq_true]
  constructor
  · rintro ⟨⟨a, b⟩, h, hp⟩
    exact ⟨a, b, Std.ExtTreeMap.mem_toList_iff_getElem?_eq_some.mp h, hp⟩
  · rintro ⟨a, b, h, hp⟩
    exact ⟨(a, b), Std.ExtTreeMap.mem_toList_iff_getElem?_eq_some.mpr h, hp⟩

theorem mem_values (t : Std.ExtTreeMap α β cmp) (b : β) :
    b ∈ t.values ↔ ∃ a : α, t[a]? = some b := by
  rw [values_eq_map_toList, List.mem_map]
  constructor
  · rintro ⟨⟨a, _⟩, h, rfl⟩
    exact ⟨a, Std.ExtTreeMap.mem_toList_iff_getElem?_eq_some.mp h⟩
  · rintro ⟨a, h⟩
    exact ⟨(a, b), Std.ExtTreeMap.mem_toList_iff_getElem?_eq_some.mpr h, rfl⟩

/-- Every key occurs once. -/
theorem nodup_keys (t : Std.ExtTreeMap α β cmp) : (t.toList.map Prod.fst).Nodup := by
  rw [List.nodup_iff_pairwise_ne, List.pairwise_map]
  refine Std.ExtTreeMap.distinct_keys_toList.imp fun hne heq => hne ?_
  rw [heq]
  exact Std.ReflCmp.compare_self

/-- A value occurs once if it stands under one key. -/
theorem nodup_values (t : Std.ExtTreeMap α β cmp)
    (h : ∀ (a a' : α) b, t[a]? = some b → t[a']? = some b → a = a') : t.values.Nodup := by
  have hkeys := nodup_keys t
  rw [List.nodup_iff_pairwise_ne, List.pairwise_map] at hkeys
  rw [values_eq_map_toList, List.nodup_iff_pairwise_ne, List.pairwise_map]
  refine hkeys.imp_of_mem fun {x y} hx hy hne heq => hne ?_
  refine h x.1 y.1 x.2 (Std.ExtTreeMap.mem_toList_iff_getElem?_eq_some.mp hx) ?_
  rw [heq]
  exact Std.ExtTreeMap.mem_toList_iff_getElem?_eq_some.mp hy

end OrderedMap

/-! ## §2. Pools. -/

namespace Pool

variable {α : Type} (p : Pool α) (id id' : Nat) (a : α)

@[simp] theorem get?_set_self : (p.set id a).get? id = some a := by
  simp [Pool.get?, Pool.set]

theorem get?_set : (p.set id a).get? id' = if id' = id then some a else p.get? id' := by
  by_cases h : id' = id
  · simp [h]
  · simp [Pool.get?, Pool.set, Std.ExtTreeMap.getElem?_insert, h, Ne.symm h]

theorem get?_remove : (p.remove id).get? id' = if id' = id then none else p.get? id' := by
  by_cases h : id' = id
  · simp [Pool.get?, Pool.remove, h]
  · simp [Pool.get?, Pool.remove, Std.ExtTreeMap.getElem?_erase, h, Ne.symm h]

theorem get?_add : (p.add a).2.get? id' = if id' = p.next then some a else p.get? id' := by
  by_cases h : id' = p.next
  · simp [Pool.get?, Pool.add, h]
  · simp [Pool.get?, Pool.add, Std.ExtTreeMap.getElem?_insert, h, Ne.symm h]

theorem get?_set_ne {p : Pool α} {id j : Nat} {a : α} (h : j ≠ id) :
    (p.set id a).get? j = p.get? j := by
  rw [get?_set, if_neg h]

theorem get?_remove_ne {p : Pool α} {id j : Nat} (h : j ≠ id) :
    (p.remove id).get? j = p.get? j := by
  rw [get?_remove, if_neg h]

theorem get?_set_eq_some {p : Pool α} {id j : Nat} {a b : α} :
    (p.set id a).get? j = some b ↔ j = id ∧ b = a ∨ j ≠ id ∧ p.get? j = some b := by
  rw [get?_set]
  by_cases h : j = id <;> simp [h, eq_comm]

theorem get?_remove_eq_some {p : Pool α} {id j : Nat} {b : α} :
    (p.remove id).get? j = some b ↔ j ≠ id ∧ p.get? j = some b := by
  rw [get?_remove]
  by_cases h : j = id <;> simp [h]

theorem get?_add_eq_some {p : Pool α} {j : Nat} {a b : α} :
    (p.add a).2.get? j = some b ↔ j = p.next ∧ b = a ∨ j ≠ p.next ∧ p.get? j = some b := by
  rw [get?_add]
  by_cases h : j = p.next <;> simp [h, eq_comm]

/-- An object replaced by itself. -/
theorem set_self {p : Pool α} {id : Nat} {a : α} (h : p.get? id = some a) : p.set id a = p := by
  have hm : p.members.insert id a = p.members := by
    refine Std.ExtTreeMap.ext_getElem? fun j => ?_
    rw [Std.ExtTreeMap.getElem?_insert]
    split
    · next hj => rw [← Std.LawfulEqCmp.compare_eq_iff_eq.mp hj]; exact h.symm
    · rfl
  unfold Pool.set
  rw [hm]

/-- Pools that answer alike and hand out the same number next are one. -/
theorem ext {p q : Pool α} (hget : ∀ j, p.get? j = q.get? j) (hnext : p.next = q.next) : p = q := by
  obtain ⟨m, n⟩ := p
  obtain ⟨m', n'⟩ := q
  have hm : m = m' := Std.ExtTreeMap.ext_getElem? fun j => hget j
  rw [hm, show n = n' from hnext]

@[simp] theorem get?_empty : (Pool.empty : Pool α).get? id = none := by
  simp [Pool.get?, Pool.empty]

@[simp] theorem next_add : (p.add a).2.next = p.next + 1 := rfl

/-- Several new objects, under consecutive numbers. -/
def addAll (p : Pool α) : List α → List Nat × Pool α
  | [] => ([], p)
  | a :: as =>
    let rest := (p.add a).2.addAll as
    (p.next :: rest.1, rest.2)

/-- New objects stand where their numbers say, and all else as before. -/
theorem get?_addAll_eq (as : List α) : (p.addAll as).2.get? id'
    = if p.next ≤ id' ∧ id' < p.next + as.length then as[id' - p.next]? else p.get? id' := by
  induction as generalizing p with
  | nil =>
    rw [if_neg fun h => Nat.not_lt.mpr h.1 h.2]
    rfl
  | cons a as ih =>
    show ((p.add a).2.addAll as).2.get? id' = _
    rw [ih, next_add, get?_add, List.length_cons]
    by_cases h : id' = p.next
    · rw [if_neg (by omega), if_pos h, if_pos (by omega), h, Nat.sub_self]
      rfl
    · by_cases hin : p.next + 1 ≤ id' ∧ id' < p.next + 1 + as.length
      · have hsub : id' - p.next = (id' - (p.next + 1)) + 1 := by omega
        rw [if_pos hin, if_pos (by omega), hsub, List.getElem?_cons_succ]
      · rw [if_neg hin, if_neg h, if_neg (by omega)]

/-- If nothing stood under the numbers to come, only the new objects do. -/
theorem get?_addAll (as : List α) (hp : ∀ j, p.next ≤ j → p.get? j = none) :
    (p.addAll as).2.get? id' = if id' < p.next then p.get? id' else as[id' - p.next]? := by
  rw [get?_addAll_eq]
  by_cases hlt : id' < p.next
  · rw [if_neg (by omega), if_pos hlt]
  · rw [if_neg hlt]
    split
    · rfl
    · rw [hp id' (by omega), List.getElem?_eq_none (by omega)]

theorem addAll_fst (as : List α) : (p.addAll as).1 = List.range' p.next as.length := by
  induction as generalizing p with
  | nil => rfl
  | cons a as ih =>
    show p.next :: ((p.add a).2.addAll as).1 = _
    rw [ih, next_add, List.length_cons, List.range'_succ]

theorem next_addAll (as : List α) : (p.addAll as).2.next = p.next + as.length := by
  induction as generalizing p with
  | nil => rfl
  | cons a as ih =>
    show ((p.add a).2.addAll as).2.next = _
    rw [ih, next_add, List.length_cons]
    omega

theorem any_iff (test : α → Bool) :
    p.any test = true ↔ ∃ id a, p.get? id = some a ∧ test a = true :=
  OrderedMap.any_iff p.members fun _ a => test a

end Pool

end EpubAccess
