/-
  EpubAccess.Proofs.Packages.NavigationText
  ────────────────────────────────
  The text of a navigation tree tells the tree.

    • `NavNode.toJson_eq` — a node is written as its labels, which are texts,
      and the list of its children,
    • `NavNode.legible_toJson` — so a tree is written without a number, and its
      text is read back whatever its depth,
    • `NavNode.toJson_injective` — the labels tell the kind of a node and its own
      texts, and the children go by induction,
    • `navigation_text_tells_tree` — texts are equal exactly when tables are.
-/
import EpubAccess.Proofs.Json.Values
import EpubAccess.Proofs.Packages.TreeWalk

namespace EpubAccess

/-! ## §1. Trees as JSON values. -/

namespace NavNode

/-- What is written of a node itself, by name. -/
def labels : NavNode → List (String × String)
  | table type t source _ =>
    [("kind", "table"), ("type", type), ("title", t), ("sourceHref", source)]
  | point t c _ => [("kind", "point"), ("title", t), ("content", c)]

/-- The labels are all that a node has of its own. -/
theorem eq_of_labels {n m : NavNode} (hlabels : n.labels = m.labels)
    (hchildren : n.children = m.children) : n = m := by
  cases n with
  | table type t source cs =>
    cases m with
    | table type' t' source' cs' =>
      simp only [labels, List.cons.injEq, Prod.mk.injEq, true_and, and_true] at hlabels
      obtain ⟨rfl, rfl, rfl⟩ := hlabels
      obtain rfl : cs = cs' := hchildren
      rfl
    | point t' c' cs' => simp [labels] at hlabels
  | point t c cs =>
    cases m with
    | table type' t' source' cs' => simp [labels] at hlabels
    | point t' c' cs' =>
      simp only [labels, List.cons.injEq, Prod.mk.injEq, true_and, and_true] at hlabels
      obtain ⟨rfl, rfl⟩ := hlabels
      obtain rfl : cs = cs' := hchildren
      rfl

theorem toJsonList_eq_map (cs : List NavNode) : toJsonList cs = cs.map toJson := by
  induction cs with
  | nil => rfl
  | cons n cs ih => rw [toJsonList, ih, List.map_cons]

/-- A label as a member of an object. -/
def member (l : String × String) : String × Json := (l.1, .string l.2)

theorem member_injective : Function.Injective member := by
  intro l l' h
  simp only [member, Prod.mk.injEq, Json.string.injEq] at h
  exact Prod.ext h.1 h.2

/-- **A node is written as its labels and its children.** -/
theorem toJson_eq (n : NavNode) :
    n.toJson = .object (n.labels.map member ++ [("children", .array (n.children.map toJson))]) := by
  cases n with
  | table type t source cs =>
    rw [toJson, toJsonList_eq_map]
    rfl
  | point t c cs =>
    rw [toJson, toJsonList_eq_map]
    rfl

/-- A tree is written without a number. -/
theorem numbers_toJson (n : NavNode) : n.toJson.numbers = [] := by
  induction n using children_induction with
  | step n ih =>
    rw [toJson_eq, Json.numbers_object, List.flatMap_append, List.append_eq_nil_iff]
    constructor
    · rw [List.flatMap_eq_nil_iff]
      intro m hm
      obtain ⟨l, -, rfl⟩ := List.mem_map.mp hm
      rfl
    · show (Json.array (n.children.map toJson)).numbers ++ [] = []
      rw [List.append_nil, Json.numbers_array, List.flatMap_eq_nil_iff]
      intro v hv
      obtain ⟨c, hc, rfl⟩ := List.mem_map.mp hv
      exact ih c hc

/-- So its text is read back, with room for as many brackets as it has. -/
theorem legible_toJson (n : NavNode) : Json.Legible n.toJson n.toJson.depth where
  numbers := by
    intro x hx
    rw [numbers_toJson] at hx
    exact absurd hx List.not_mem_nil
  depth := Nat.le_refl _

/-- **Nodes with one JSON value are one node.** -/
theorem toJson_injective {n m : NavNode} (h : n.toJson = m.toJson) : n = m := by
  induction n using children_induction generalizing m with
  | step n ih =>
    rw [toJson_eq, toJson_eq] at h
    -- the children are the last member, and the labels stand before it
    obtain ⟨hlabels, hlast⟩ := List.append_inj' (Json.object.inj h) rfl
    have hchildren : n.children.map toJson = m.children.map toJson := by
      simpa using hlast
    refine eq_of_labels (List.map_injective_iff.mpr member_injective hlabels) ?_
    exact Json.eq_of_map_eq (fun c hc d _ hcd => ih c hc hcd) hchildren

theorem compact_toJson_injective {n m : NavNode} (h : n.toJson.compact = m.toJson.compact) :
    n = m :=
  toJson_injective (Json.compact_injective n.legible_toJson m.legible_toJson h)

end NavNode

namespace NavTable

/-- A root is written as a node is, but for its kind. -/
theorem toJson_toNode {t : NavTable} {members : List (String × Json)}
    (h : t.toJson = .object members) :
    t.toNode.toJson = .object (("kind", .string "table") :: members) := by
  rw [← Json.object.inj h]
  rfl

theorem legible_toJson (t : NavTable) : Json.Legible t.toJson t.toNode.toJson.depth := by
  have hnode := t.toNode.legible_toJson
  rw [toJson_toNode rfl] at hnode ⊢
  obtain ⟨inside, hroom, hmembers⟩ := Json.legible_object.mp hnode
  exact Json.legible_object.mpr ⟨inside, hroom, fun m hm => hmembers m (List.mem_cons_of_mem _ hm)⟩

theorem compact_toJson_injective {t u : NavTable} (h : t.toJson.compact = u.toJson.compact) :
    t = u := by
  have hvalue : t.toJson = u.toJson := Json.compact_injective t.legible_toJson u.legible_toJson h
  have hnode : t.toNode = u.toNode := by
    apply NavNode.toJson_injective
    rw [toJson_toNode hvalue, toJson_toNode rfl]
  cases t
  cases u
  simpa [toNode] using hnode

end NavTable

/-! ## §2. Where a node was appended. -/

namespace NavNode

theorem children_withChildren (cs : List NavNode) (n : NavNode) :
    (n.withChildren cs).children = cs := by
  cases n <;> rfl

/-- Appending a node gives one child more to the node at that path, and to no
other. -/
theorem arity_appendAt (child : NavNode) (q p : List Nat) {n m : NavNode}
    (h : n.nodeAt? p = some m) :
    ∃ m', (appendAt child q n).nodeAt? p = some m' ∧
      m'.children.length = m.children.length + if p = q then 1 else 0 := by
  -- the induction is on where the node goes; the other path follows it as far as it can
  induction q generalizing p n with
  | nil =>
    cases p with
    | nil =>
      obtain rfl : n = m := Option.some.inj h
      refine ⟨n.withChildren (n.children ++ [child]), rfl, ?_⟩
      rw [children_withChildren, List.length_append]
      rfl
    | cons i p =>
      obtain ⟨c, hc, hm⟩ := Option.bind_eq_some_iff.mp h
      obtain ⟨hi, -⟩ := List.getElem?_eq_some_iff.mp hc
      refine ⟨m, ?_, by simp⟩
      show ((n.withChildren (n.children ++ [child])).children[i]?).bind (nodeAt? p) = some m
      rw [children_withChildren, List.getElem?_append_left hi, hc]
      exact hm
  | cons j q ih =>
    cases p with
    | nil =>
      obtain rfl : n = m := Option.some.inj h
      refine ⟨n.withChildren (n.children.modify j (appendAt child q)), rfl, ?_⟩
      rw [children_withChildren, List.length_modify]
      rfl
    | cons i p =>
      obtain ⟨c, hc, hm⟩ := Option.bind_eq_some_iff.mp h
      show ∃ m', ((n.withChildren (n.children.modify j (appendAt child q))).children[i]?).bind
        (nodeAt? p) = some m' ∧ _
      rw [children_withChildren, List.getElem?_modify, hc]
      by_cases hij : j = i
      · -- both paths go on under the same child
        obtain ⟨m', hm', harity⟩ := ih p hm
        refine ⟨m', ?_, ?_⟩
        · simpa [hij] using hm'
        · simpa [hij] using harity
      · refine ⟨m, ?_, ?_⟩
        · simpa [hij] using hm
        · simp [Ne.symm hij]

end NavNode

theorem NavTable.toNode_appendAt (child : NavNode) (t : NavTable) (path : List Nat) :
    (t.appendAt child path).toNode = NavNode.appendAt child path t.toNode := by
  cases path <;> rfl

/-- **A tree shows where a node was appended.** -/
theorem NavTable.appendAt_ne {child : NavNode} {t : NavTable} {p q : List Nat} (hne : p ≠ q)
    (hp : (t.toNode.nodeAt? p).isSome = true) : t.appendAt child p ≠ t.appendAt child q := by
  intro heq
  obtain ⟨m, hm⟩ := Option.isSome_iff_exists.mp hp
  obtain ⟨m₁, hm₁, harity₁⟩ := NavNode.arity_appendAt child p p hm
  obtain ⟨m₂, hm₂, harity₂⟩ := NavNode.arity_appendAt child q p hm
  have hnode : NavNode.appendAt child p t.toNode = NavNode.appendAt child q t.toNode := by
    rw [← toNode_appendAt, heq, toNode_appendAt]
  have hsame : m₁ = m₂ := by
    rw [hnode, hm₂] at hm₁
    exact (Option.some.inj hm₁).symm
  rw [hsame, if_pos rfl] at harity₁
  rw [if_neg hne] at harity₂
  omega

/-! ## §3. Texts and trees. -/

/-- **The text of a navigation tree tells the tree.** Tables have one text exactly
if they are equal, and so have nodes. In particular a nested table and a
point never have one text, what a point leads to is told from its title, and
a node that is appended at one path of a tree gives another text than when
it is appended at another. -/
theorem navigation_text_tells_tree :
    (∀ t u : NavTable, t.toJson.compact = u.toJson.compact ↔ t = u) ∧
      (∀ n m : NavNode, n.toJson.compact = m.toJson.compact ↔ n = m) ∧
      (∀ type title source title' content cs cs',
        (NavNode.table type title source cs).toJson.compact
          ≠ (NavNode.point title' content cs').toJson.compact) ∧
      (∀ a b cs cs',
        (NavNode.point a b cs).toJson.compact = (NavNode.point b a cs').toJson.compact
          ↔ a = b ∧ cs = cs') ∧
      ∀ (t : NavTable) (child : NavNode) (p q : List Nat), p ≠ q →
        (t.toNode.nodeAt? p).isSome = true →
        (t.appendAt child p).toJson.compact ≠ (t.appendAt child q).toJson.compact := by
  refine ⟨?tables, ?nodes, ?kinds, ?titles, ?nestings⟩
  case tables =>
    intro t u
    exact ⟨NavTable.compact_toJson_injective, fun h => by rw [h]⟩
  case nodes =>
    intro n m
    exact ⟨NavNode.compact_toJson_injective, fun h => by rw [h]⟩
  case kinds =>
    intro type title source title' content cs cs' h
    exact absurd (NavNode.compact_toJson_injective h) (by simp)
  case titles =>
    intro a b cs cs'
    constructor
    · intro h
      obtain ⟨hab, -, hcs⟩ := NavNode.point.inj (NavNode.compact_toJson_injective h)
      exact ⟨hab, hcs⟩
    · rintro ⟨rfl, rfl⟩
      rfl
  case nestings =>
    intro t child p q hne hp h
    exact NavTable.appendAt_ne hne hp (NavTable.compact_toJson_injective h)

/-- A table of one point, whose title is made of the signs of JSON. -/
def quotingTable : NavTable :=
  { type := "toc", title := "", source := "", children := [.point "\"\x7d,\x7b" "" []] }

theorem navigation_text_tells_tree_sample :
    (quotingTable.toNode.nodeAt? [0]).isSome = true ∧
      (quotingTable.appendAt (.point "" "" []) [0]).toJson.compact
        ≠ (quotingTable.appendAt (.point "" "" []) []).toJson.compact :=
  ⟨rfl, navigation_text_tells_tree.2.2.2.2 quotingTable (.point "" "" []) [0] [] (by decide) rfl⟩

end EpubAccess
