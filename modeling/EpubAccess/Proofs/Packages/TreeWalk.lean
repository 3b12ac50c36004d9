/-
  EpubAccess.Proofs.Packages.TreeWalk
  ────────────────────────────────
  A walk through a navigation tree lists its pre-order.

  An occurrence of a node is its path of child indexes together with the node
  found there; two equal subtrees occur at two paths.

    • `occurrencesList_eq_flatMap` — the occurrences under a node are those of
      its children's subtrees, one after the other,
    • `NavTable.mem_occurrences`, `NavTable.occurrences_ascending` — every
      descendant occurs, once, and the paths ascend,
    • `Walk.Pending` — what has been visited, and the roots of the subtrees
      that have not, which is what stands on the stack,
    • `walk_is_preorder` — the walk as a whole and after any number of steps.
-/
import EpubAccess.Navigation

namespace EpubAccess

/-! ## §1. Occurrences. -/

namespace NavNode

/-- The node at a path of child indexes; the empty path is the node itself. -/
def nodeAt? : List Nat → NavNode → Option NavNode
  | [], n => some n
  | i :: path, n => (n.children[i]?).bind (nodeAt? path)

mutual

/-- A node that stands at a path, and its descendants with their paths, every
node before its children. -/
def occurrences (path : List Nat) : NavNode → List (List Nat × NavNode)
  | table type t source cs => (path, table type t source cs) :: occurrencesList path 0 cs
  | point t c cs => (path, point t c cs) :: occurrencesList path 0 cs

/-- The trees among the children of the node at a path, from the `i`-th child
on, one tree after the other. -/
def occurrencesList (path : List Nat) (i : Nat) : List NavNode → List (List Nat × NavNode)
  | [] => []
  | n :: rest => n.occurrences (path ++ [i]) ++ occurrencesList path (i + 1) rest

end

/-- Children with their paths, from the `i`-th on. -/
def placed (path : List Nat) (i : Nat) : List NavNode → List (List Nat × NavNode)
  | [] => []
  | n :: rest => (path ++ [i], n) :: placed path (i + 1) rest

/-- The occurrences in the subtree under an occurrence. -/
def subtree (o : List Nat × NavNode) : List (List Nat × NavNode) := o.2.occurrences o.1

theorem occurrences_eq (path : List Nat) (n : NavNode) :
    n.occurrences path = (path, n) :: occurrencesList path 0 n.children := by
  cases n <;> rfl

theorem preorder_eq (n : NavNode) : n.preorder = n :: preorderList n.children := by
  cases n <;> rfl

/-- **The occurrences below a node are those of its children's subtrees.** -/
theorem occurrencesList_eq_flatMap (path : List Nat) (i : Nat) (cs : List NavNode) :
    occurrencesList path i cs = (placed path i cs).flatMap subtree := by
  induction cs generalizing i with
  | nil => rfl
  | cons n cs ih => rw [occurrencesList, ih, placed, List.flatMap_cons, subtree]

theorem map_snd_placed (path : List Nat) (i : Nat) (cs : List NavNode) :
    (placed path i cs).map Prod.snd = cs := by
  induction cs generalizing i with
  | nil => rfl
  | cons n cs ih => rw [placed, List.map_cons, ih]

/-- A child's path ends in an index that some child has. -/
theorem mem_placed {path : List Nat} {i : Nat} {cs : List NavNode} {o : List Nat × NavNode} :
    o ∈ placed path i cs ↔ ∃ k, cs[k]? = some o.2 ∧ o.1 = path ++ [i + k] := by
  induction cs generalizing i with
  | nil => simp [placed]
  | cons n cs ih =>
    rw [placed, List.mem_cons, ih]
    constructor
    · rintro (rfl | ⟨k, hk, hpath⟩)
      · exact ⟨0, rfl, rfl⟩
      · exact ⟨k + 1, hk, by rw [hpath]; congr 2; omega⟩
    · rintro ⟨k, hk, hpath⟩
      cases k with
      | zero => exact .inl (Prod.ext hpath (Option.some.inj hk).symm)
      | succ k => exact .inr ⟨k, hk, by rw [hpath]; congr 2; omega⟩

/-! ## §2. Induction over a tree and over its children. -/

/-- What follows for a node from its children holds of every node. -/
theorem children_induction {motive : NavNode → Prop}
    (step : ∀ n : NavNode, (∀ c ∈ n.children, motive c) → motive n) (n : NavNode) : motive n := by
  refine @NavNode.rec motive (fun cs => ∀ c ∈ cs, motive c) ?table ?point ?nil ?cons n
  case table => exact fun type t source cs ih => step (.table type t source cs) ih
  case point => exact fun t c cs ih => step (.point t c cs) ih
  case nil => exact fun c hc => absurd hc List.not_mem_nil
  case cons => exact fun n cs hn hcs => List.forall_mem_cons.mpr ⟨hn, hcs⟩

/-- The nodes that occur under several trees are those of their pre-orders. -/
theorem map_snd_flatMap {os : List (List Nat × NavNode)}
    (h : ∀ o ∈ os, (subtree o).map Prod.snd = o.2.preorder) :
    (os.flatMap subtree).map Prod.snd = preorderList (os.map Prod.snd) := by
  induction os with
  | nil => rfl
  | cons o os ih =>
    obtain ⟨ho, hos⟩ := List.forall_mem_cons.mp h
    rw [List.flatMap_cons, List.map_append, ho, ih hos]
    rfl

theorem map_snd_occurrences (n : NavNode) (path : List Nat) :
    (n.occurrences path).map Prod.snd = n.preorder := by
  induction n using children_induction generalizing path with
  | step n ih =>
    rw [occurrences_eq, List.map_cons, occurrencesList_eq_flatMap, preorder_eq]
    congr 1
    have hbelow : ∀ o ∈ placed path 0 n.children, (subtree o).map Prod.snd = o.2.preorder := by
      intro o ho
      obtain ⟨k, hk, -⟩ := mem_placed.mp ho
      exact ih o.2 (List.mem_of_getElem? hk) o.1
    rw [map_snd_flatMap hbelow, map_snd_placed]

theorem length_preorderList (cs : List NavNode) (h : ∀ c ∈ cs, c.preorder.length = c.weight) :
    (preorderList cs).length = weightList cs := by
  induction cs with
  | nil => rfl
  | cons n cs ih =>
    obtain ⟨hn, hcs⟩ := List.forall_mem_cons.mp h
    rw [preorderList, List.length_append, hn, ih hcs, weightList]

/-- The pre-order has as many nodes as the tree. -/
theorem length_preorder (n : NavNode) : n.preorder.length = n.weight := by
  induction n using children_induction with
  | step n ih =>
    rw [preorder_eq, List.length_cons, length_preorderList _ ih, weight_eq, Nat.add_comm]

theorem weightList_eq_zero (cs : List NavNode) : weightList cs = 0 ↔ cs = [] := by
  cases cs with
  | nil => simp [weightList]
  | cons n cs => simp [weightList, weight_eq]

theorem preorderList_append (l r : List NavNode) :
    preorderList (l ++ r) = preorderList l ++ preorderList r := by
  induction l with
  | nil => rfl
  | cons n l ih => rw [List.cons_append, preorderList, ih, preorderList, List.append_assoc]

/-! ## §3. Every node occurs, once, in the order of the paths. -/

/-- What occurs in the subtree at a path is what longer paths lead to. -/
theorem mem_occurrences (n : NavNode) (path : List Nat) (o : List Nat × NavNode) :
    o ∈ n.occurrences path ↔ ∃ q, o.1 = path ++ q ∧ n.nodeAt? q = some o.2 := by
  induction n using children_induction generalizing path with
  | step n ih =>
    rw [occurrences_eq, List.mem_cons, occurrencesList_eq_flatMap, List.mem_flatMap]
    constructor
    · rintro (rfl | ⟨c, hc, ho⟩)
      · exact ⟨[], (List.append_nil _).symm, rfl⟩
      · obtain ⟨k, hk, hpath⟩ := mem_placed.mp hc
        obtain ⟨q, hq, hat⟩ := (ih c.2 (List.mem_of_getElem? hk) c.1).mp ho
        refine ⟨k :: q, ?_, ?_⟩
        · rw [hq, hpath, List.append_assoc, Nat.zero_add]
          rfl
        · rw [nodeAt?, hk]
          exact hat
    · rintro ⟨q, hq, hat⟩
      cases q with
      | nil => exact .inl (Prod.ext (by rw [hq, List.append_nil]) (Option.some.inj hat).symm)
      | cons k q =>
        obtain ⟨c, hk, hat⟩ := Option.bind_eq_some_iff.mp hat
        refine .inr ⟨(path ++ [k], c), mem_placed.mpr ⟨k, hk, by rw [Nat.zero_add]⟩, ?_⟩
        refine (ih c (List.mem_of_getElem? hk) _).mpr ⟨q, ?_, hat⟩
        rw [hq, List.append_assoc]
        rfl

theorem occurrencesList_ascending (path : List Nat) (i : Nat) (cs : List NavNode)
    (h : ∀ c ∈ cs, ∀ p, (c.occurrences p).Pairwise fun a b => a.1 < b.1) :
    (occurrencesList path i cs).Pairwise fun a b => a.1 < b.1 := by
  induction cs generalizing i with
  | nil => exact .nil
  | cons n cs ih =>
    obtain ⟨hn, hcs⟩ := List.forall_mem_cons.mp h
    rw [occurrencesList, List.pairwise_append]
    refine ⟨hn _, ih (i + 1) hcs, ?_⟩
    -- everything under an earlier child is before everything under a later one
    intro a ha b hb
    obtain ⟨q, hq, -⟩ := (mem_occurrences n _ a).mp ha
    rw [occurrencesList_eq_flatMap] at hb
    obtain ⟨c, hc, hb⟩ := List.mem_flatMap.mp hb
    obtain ⟨k, -, hpath⟩ := mem_placed.mp hc
    obtain ⟨r, hr, -⟩ := (mem_occurrences c.2 _ b).mp hb
    rw [hq, hr, hpath, List.append_assoc, List.append_assoc]
    exact List.append_left_lt (List.cons_lt_cons_iff.mpr (.inl (by omega)))

theorem occurrences_ascending (n : NavNode) (path : List Nat) :
    (n.occurrences path).Pairwise fun a b => a.1 < b.1 := by
  induction n using children_induction generalizing path with
  | step n ih =>
    rw [occurrences_eq, List.pairwise_cons]
    refine ⟨?_, occurrencesList_ascending path 0 n.children fun c hc p => ih c hc p⟩
    -- a node is before what its path is the beginning of
    intro b hb
    rw [occurrencesList_eq_flatMap] at hb
    obtain ⟨c, hc, hb⟩ := List.mem_flatMap.mp hb
    obtain ⟨k, -, hpath⟩ := mem_placed.mp hc
    obtain ⟨r, hr, -⟩ := (mem_occurrences c.2 _ b).mp hb
    rw [hr, hpath, List.append_assoc]
    conv => lhs; rw [← List.append_nil path]
    exact List.append_left_lt (List.nil_lt_cons _ _)

end NavNode

namespace NavTable

/-- Every descendant of a table with its path, every node before its children. -/
def occurrences (t : NavTable) : List (List Nat × NavNode) :=
  NavNode.occurrencesList [] 0 t.children

/-- The occurrences of a table are those below its root. -/
theorem root_occurrences (t : NavTable) :
    t.toNode.occurrences [] = ([], t.toNode) :: t.occurrences := rfl

/-- **Every descendant occurs, and the root does not.** -/
theorem mem_occurrences (t : NavTable) (o : List Nat × NavNode) :
    o ∈ t.occurrences ↔ o.1 ≠ [] ∧ t.toNode.nodeAt? o.1 = some o.2 := by
  have hall := NavNode.mem_occurrences t.toNode [] o
  have hroot := NavNode.occurrences_ascending t.toNode []
  rw [root_occurrences] at hall hroot
  simp only [List.nil_append, exists_eq_left', List.mem_cons] at hall
  constructor
  · intro ho
    have hpos : [] < o.1 := (List.pairwise_cons.mp hroot).1 o ho
    exact ⟨fun hnil => List.lt_irrefl _ (hnil ▸ hpos), hall.mp (.inr ho)⟩
  · rintro ⟨hne, hat⟩
    exact (hall.mpr hat).resolve_left fun heq => hne (congrArg Prod.fst heq)

theorem occurrences_ascending (t : NavTable) : t.occurrences.Pairwise fun a b => a.1 < b.1 :=
  (List.pairwise_cons.mp (NavNode.occurrences_ascending t.toNode [])).2

theorem map_snd_occurrences (t : NavTable) :
    t.occurrences.map Prod.snd = NavNode.preorderList t.children :=
  (List.cons.inj (NavNode.map_snd_occurrences t.toNode [])).2

end NavTable

/-! ## §4. Walks. -/

namespace NavTable

/-- The roots of the subtrees still to be visited once the first `k` descendants
are: what is left and has a parent that is not, the root table or a node
visited. -/
def frontier (t : NavTable) (k : Nat) : List (List Nat × NavNode) :=
  (t.occurrences.drop k).filter fun o =>
    o.1.dropLast = [] ∨ o.1.dropLast ∈ (t.occurrences.take k).map Prod.fst

end NavTable

namespace Walk

/-- The nodes that at most `k` steps of a walk visit, and the walk that is left. -/
def visit : Nat → Walk → List NavNode × Walk
  | 0, w => ([], w)
  | k + 1, w =>
    match w.next? with
    | none => ([], w)
    | some (n, v) => (n :: (v.visit k).1, (v.visit k).2)

/-- A walk is over when it has nothing left to list. -/
theorem toList_eq_nil (w : Walk) : w.toList = [] ↔ w.next? = none := by
  rw [toList]
  cases w.next? <;> simp

theorem toList_of_next {w v : Walk} {n : NavNode} (h : w.next? = some (n, v)) :
    w.toList = n :: v.toList := by
  rw [toList]
  split
  · next hnone => rw [hnone] at h; cases h
  · next m u hstep =>
    obtain ⟨rfl, rfl⟩ := Prod.mk.inj (Option.some.inj (hstep.symm.trans h))
    rfl

/-- A walk through several trees lists their pre-orders. -/
theorem toList_eq_preorderList (w : Walk) : w.toList = NavNode.preorderList w.stack := by
  induction w using toList.induct with
  | case1 w hnext =>
    rw [(toList_eq_nil w).mpr hnext]
    match w, hnext with
    | ⟨[]⟩, _ => rfl
  | case2 w n v hnext ih =>
    rw [toList_of_next hnext, ih]
    match w, hnext with
    | ⟨m :: rest⟩, hnext =>
      obtain ⟨rfl, rfl⟩ := Prod.mk.inj (Option.some.inj hnext)
      show m :: NavNode.preorderList (m.children ++ rest) = m.preorder ++ NavNode.preorderList rest
      rw [NavNode.preorderList_append, NavNode.preorder_eq]
      rfl

/-- What some steps visit and what the walk that is left lists are the whole. -/
theorem visit_append (w : Walk) (k : Nat) : (w.visit k).1 ++ (w.visit k).2.toList = w.toList := by
  induction k generalizing w with
  | zero => rfl
  | succ k ih =>
    rw [visit]
    cases hnext : w.next? with
    | none => rfl
    | some s => rw [toList_of_next hnext, List.cons_append, ih]

open NavNode (placed subtree)

/-- A table of which `seen` has been visited and the subtrees under `rest` have
not: together they are all there is, and every tree in `rest` hangs from the
root or from a node visited. -/
structure Pending (t : NavTable) (seen rest : List (List Nat × NavNode)) : Prop where
  all : t.occurrences = seen ++ rest.flatMap subtree
  hang : ∀ o ∈ rest, o.1.dropLast = [] ∨ o.1.dropLast ∈ seen.map Prod.fst

theorem Pending.start (t : NavTable) : Pending t [] (placed [] 0 t.children) where
  all := NavNode.occurrencesList_eq_flatMap [] 0 t.children
  hang := by
    intro o ho
    obtain ⟨k, -, hpath⟩ := NavNode.mem_placed.mp ho
    exact .inl (by rw [hpath]; rfl)

/-- **A step visits the next root and puts its children in its place.** -/
theorem Pending.step {t : NavTable} {seen rest : List (List Nat × NavNode)}
    {o : List Nat × NavNode} (h : Pending t seen (o :: rest)) :
    Pending t (seen ++ [o]) (placed o.1 0 o.2.children ++ rest) where
  all := by
    have hroot : subtree o = o :: (placed o.1 0 o.2.children).flatMap subtree := by
      rw [subtree, NavNode.occurrences_eq, NavNode.occurrencesList_eq_flatMap]
    rw [h.all, List.flatMap_cons, hroot, List.flatMap_append, List.append_assoc]
    rfl
  hang := by
    intro c hc
    rcases List.mem_append.mp hc with hc | hc
    · obtain ⟨k, -, hpath⟩ := NavNode.mem_placed.mp hc
      exact .inr (by simp [hpath])
    · exact (h.hang c (.tail o hc)).imp_right fun hin => by simp [List.mem_map.mp hin]

/-- What hangs below a root of the rest hangs from nothing visited. -/
theorem Pending.below {t : NavTable} {seen rest : List (List Nat × NavNode)}
    (h : Pending t seen rest) {o d : List Nat × NavNode} (ho : o ∈ rest)
    (hd : d ∈ NavNode.occurrencesList o.1 0 o.2.children) :
    ¬ (d.1.dropLast = [] ∨ d.1.dropLast ∈ seen.map Prod.fst) := by
  have hself : o ∈ subtree o := by
    rw [subtree, NavNode.occurrences_eq]
    exact .head _
  have hin : o ∈ rest.flatMap subtree := List.mem_flatMap.mpr ⟨o, ho, hself⟩
  -- the parent of `d` stands at the path of `o` or below it
  obtain ⟨q, hq⟩ : ∃ q, d.1.dropLast = o.1 ++ q := by
    rw [NavNode.occurrencesList_eq_flatMap] at hd
    obtain ⟨c, hc, hd⟩ := List.mem_flatMap.mp hd
    obtain ⟨k, -, hpath⟩ := NavNode.mem_placed.mp hc
    obtain ⟨r, hr, -⟩ := (NavNode.mem_occurrences c.2 _ d).mp hd
    refine ⟨([0 + k] ++ r).dropLast, ?_⟩
    rw [hr, hpath, List.append_assoc, List.dropLast_append_of_ne_nil (by simp)]
  rintro (hnil | hseen)
  · have hne : o.1 ≠ [] := ((t.mem_occurrences o).mp (h.all ▸ List.mem_append_right seen hin)).1
    exact hne (List.append_eq_nil_iff.mp (hq ▸ hnil)).1
  · -- but what was visited has paths before that of `o`
    obtain ⟨a, ha, hpath⟩ := List.mem_map.mp hseen
    have hlt : a.1 < o.1 :=
      (List.pairwise_append.mp (h.all ▸ t.occurrences_ascending)).2.2 a ha o hin
    rw [hpath, hq] at hlt
    exact List.not_lt.mpr List.le_append_left hlt

/-- A test that the roots of subtrees pass, and nothing below them, finds the roots. -/
theorem filter_flatMap_subtree {test : List Nat × NavNode → Bool}
    {rest : List (List Nat × NavNode)} (hroot : ∀ o ∈ rest, test o = true)
    (hbelow : ∀ o ∈ rest, ∀ d ∈ NavNode.occurrencesList o.1 0 o.2.children, test d = false) :
    (rest.flatMap subtree).filter test = rest := by
  induction rest with
  | nil => rfl
  | cons o rest ih =>
    obtain ⟨ho, hrest⟩ := List.forall_mem_cons.mp hroot
    obtain ⟨hbelow, hnext⟩ := List.forall_mem_cons.mp hbelow
    have hnone : (NavNode.occurrencesList o.1 0 o.2.children).filter test = [] :=
      List.filter_eq_nil_iff.mpr fun d hd => by simp [hbelow d hd]
    rw [List.flatMap_cons, List.filter_append, ih hrest hnext, subtree, NavNode.occurrences_eq,
      List.filter_cons_of_pos ho, hnone]
    rfl

/-- What is pending after some visits is the frontier behind them. -/
theorem Pending.frontier_eq {t : NavTable} {seen rest : List (List Nat × NavNode)}
    (h : Pending t seen rest) {k : Nat} (htake : t.occurrences.take k = seen) :
    t.frontier k = rest := by
  have hdrop : t.occurrences.drop k = rest.flatMap subtree := by
    have hsplit := List.take_append_drop k t.occurrences
    rw [htake] at hsplit
    exact List.append_cancel_left (hsplit.trans h.all)
  rw [NavTable.frontier, hdrop, htake]
  exact filter_flatMap_subtree (fun o ho => decide_eq_true (h.hang o ho))
    fun o ho d hd => decide_eq_false (h.below ho hd)

/-- **Some steps visit what comes next, and what is pending then is on the stack.** -/
theorem Pending.visit {t : NavTable} {seen rest : List (List Nat × NavNode)}
    (h : Pending t seen rest) (k : Nat) :
    ∃ new rest', Pending t (seen ++ new) rest' ∧
      Walk.visit k ⟨rest.map Prod.snd⟩ = (new.map Prod.snd, ⟨rest'.map Prod.snd⟩) ∧
      new.length ≤ k ∧ (new.length < k → rest' = []) := by
  induction k generalizing seen rest with
  | zero => exact ⟨[], rest, (List.append_nil seen).symm ▸ h, rfl, Nat.le_refl 0, nofun⟩
  | succ k ih =>
    cases rest with
    | nil => exact ⟨[], [], (List.append_nil seen).symm ▸ h, rfl, Nat.zero_le _, fun _ => rfl⟩
    | cons o rest =>
      obtain ⟨new, rest', hpending, hvisit, hle, hend⟩ := ih h.step
      refine ⟨o :: new, rest', ?_, ?_, Nat.succ_le_succ hle,
        fun hlt => hend (Nat.lt_of_succ_lt_succ hlt)⟩
      · rwa [← List.append_cons] at hpending
      · rw [List.map_append, NavNode.map_snd_placed] at hvisit
        show (o.2 :: (Walk.visit k ⟨o.2.children ++ rest.map Prod.snd⟩).1,
          (Walk.visit k ⟨o.2.children ++ rest.map Prod.snd⟩).2) = _
        rw [hvisit]
        rfl

/-- A walk of a table after some steps: the first occurrences, and the frontier. -/
theorem visit_walk (t : NavTable) (k : Nat) :
    t.walk.visit k
      = ((t.occurrences.take k).map Prod.snd, ⟨(t.frontier k).map Prod.snd⟩) := by
  obtain ⟨new, rest, hpending, hvisit, hle, hend⟩ := (Pending.start t).visit k
  rw [List.nil_append] at hpending
  have htake : t.occurrences.take k = new := by
    rcases Nat.lt_or_eq_of_le hle with hlt | rfl
    · rw [hpending.all, hend hlt, List.flatMap_nil, List.append_nil]
      exact List.take_of_length_le hle
    · rw [hpending.all]
      exact List.take_left
  rw [NavNode.map_snd_placed] at hvisit
  rw [hpending.frontier_eq htake, htake]
  exact hvisit

end Walk

/-! ## §5. The walk of a table. -/

/-- **A walk is the pre-order of its table.** It lists every descendant once, at
its path, and not the root; the paths ascend, so that a node comes before
its children and siblings come from left to right. After any number of
steps the stack holds the roots of the subtrees still to be visited, in
order, and the walk is over exactly when as many nodes as there are have
been visited. -/
theorem walk_is_preorder (t : NavTable) :
    t.walk.toList = NavNode.preorderList t.children ∧
      t.walk.toList = t.occurrences.map Prod.snd ∧
      (∀ o, o ∈ t.occurrences ↔ o.1 ≠ [] ∧ t.toNode.nodeAt? o.1 = some o.2) ∧
      (t.occurrences.Pairwise fun a b => a.1 < b.1) ∧
      t.size = NavNode.weightList t.children ∧
      (t.isEmpty = true ↔ t.size = 0) ∧
      ∀ k, (t.walk.visit k).1 = t.walk.toList.take k ∧
        (t.walk.visit k).2.stack = (t.frontier k).map Prod.snd ∧
        (t.walk.visit k).2.toList = t.walk.toList.drop k ∧
        ((t.walk.visit k).2.next? = none ↔ t.size ≤ k) := by
  have hlist : t.walk.toList = NavNode.preorderList t.children := t.walk.toList_eq_preorderList
  have hoccur : t.walk.toList = t.occurrences.map Prod.snd :=
    hlist.trans t.map_snd_occurrences.symm
  have hsize : t.size = NavNode.weightList t.children := by
    rw [NavTable.size, hlist]
    exact NavNode.length_preorderList t.children fun c _ => c.length_preorder
  refine ⟨hlist, hoccur, t.mem_occurrences, t.occurrences_ascending, hsize, ?empty, ?steps⟩
  case empty =>
    rw [hsize, NavNode.weightList_eq_zero, NavTable.isEmpty, List.isEmpty_iff]
  case steps =>
    intro k
    have hseen : (t.walk.visit k).1 = t.walk.toList.take k := by
      rw [Walk.visit_walk, hoccur, List.map_take]
    have hleft : (t.walk.visit k).2.toList = t.walk.toList.drop k := by
      have hall := (t.walk.visit_append k).trans (List.take_append_drop k _).symm
      rw [hseen] at hall
      exact List.append_cancel_left hall
    refine ⟨hseen, by rw [Walk.visit_walk], hleft, ?_⟩
    rw [← Walk.toList_eq_nil, hleft, List.drop_eq_nil_iff, NavTable.size]

end EpubAccess
