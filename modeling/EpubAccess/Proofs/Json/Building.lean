/-
  EpubAccess.Proofs.Json.Building
  ────────────────────────────────
  A document is built back from its tokens.

  `Outline.tokens` lists the tokens of a document in order.  One lemma says
  how far the items of an array take the builder and one the members of an
  object, both for any brackets that are open outside; `built` puts them
  together by induction on the document, and `finish_tokens` reads the
  result off.
-/
import EpubAccess.Json.Outline

namespace EpubAccess.Json.Outline

/-! ## §1. Documents, one level at a time. -/

/-- Induction on a document, with what its items or the values of its members
satisfy. -/
@[elab_as_elim]
theorem nested_induction {P : Outline → Prop} (null : P .null) (bool : ∀ b, P (.bool b))
    (number : ∀ n, P (.number n)) (text : ∀ ps, P (.text ps))
    (array : ∀ items, (∀ v ∈ items, P v) → P (.array items))
    (object : ∀ members, (∀ m ∈ members, P m.2) → P (.object members)) : ∀ v, P v
  | .null => null
  | .bool b => bool b
  | .number n => number n
  | .text ps => text ps
  | .array items => array items fun v _ =>
    nested_induction null bool number text array object v
  | .object members => object members fun m hm =>
    have : sizeOf m.2 < 1 + sizeOf members := by
      have hmem := List.sizeOf_lt_of_mem hm
      have hpair : sizeOf m = 1 + sizeOf m.1 + sizeOf m.2 := rfl
      omega
    nested_induction null bool number text array object m.2

mutual

/-- The tokens of a document. -/
def tokens : Outline → List Token
  | .null => [.null]
  | .bool b => [.bool b]
  | .number n => [.number n]
  | .text ps => [.text ps]
  | .array items => .openArray :: itemTokens items
  | .object members => .openObject :: memberTokens members

/-- The tokens of the items of an array, up to its closing bracket. -/
def itemTokens : List Outline → List Token
  | [] => [.closeArray]
  | [v] => v.tokens ++ [.closeArray]
  | v :: w :: rest => v.tokens ++ .comma :: itemTokens (w :: rest)

/-- The tokens of the members of an object, up to its closing bracket. -/
def memberTokens : List (List Piece × Outline) → List Token
  | [] => [.closeObject]
  | [(k, v)] => .text k :: .colon :: (v.tokens ++ [.closeObject])
  | (k, v) :: m :: rest =>
    .text k :: .colon :: (v.tokens ++ .comma :: memberTokens (m :: rest))

end

/-! ## §2. What the builder makes of them. -/

/-- Where a value is due, the tokens of the document are one value, whatever
brackets are open and whatever follows. -/
def Built (v : Outline) : Prop :=
  ∀ (frames : List Frame) (rest : List Token),
    (v.tokens ++ rest).foldlM Builder.step ⟨frames, .value⟩
      = (Builder.close frames v).bind fun b => rest.foldlM Builder.step b

theorem built_items {items : List Outline} (h : ∀ v ∈ items, Built v) (hne : items ≠ [])
    (done : List Outline) (frames : List Frame) (rest : List Token) :
    (itemTokens items ++ rest).foldlM Builder.step ⟨.array done :: frames, .value⟩
      = (Builder.close frames (.array (done.reverse ++ items))).bind
          fun b => rest.foldlM Builder.step b := by
  induction items generalizing done with
  | nil => exact absurd rfl hne
  | cons v items ih =>
    have hv : Built v := h v List.mem_cons_self
    cases items with
    | nil =>
      rw [itemTokens, List.append_assoc, hv]
      show (Builder.close frames (.array (v :: done).reverse)).bind
        (fun b => rest.foldlM Builder.step b) = _
      rw [List.reverse_cons]
    | cons w items =>
      rw [itemTokens, List.append_assoc, hv]
      show (itemTokens (w :: items) ++ rest).foldlM Builder.step
        ⟨.array (v :: done) :: frames, .value⟩ = _
      rw [ih (fun u hu => h u (List.mem_cons_of_mem v hu)) (by simp), List.reverse_cons,
        List.append_assoc]
      rfl

theorem built_members {members : List (List Piece × Outline)} (h : ∀ m ∈ members, Built m.2)
    (hne : members ≠ []) (done : List (List Piece × Outline)) (frames : List Frame)
    (rest : List Token) :
    (memberTokens members ++ rest).foldlM Builder.step ⟨.object done :: frames, .name⟩
      = (Builder.close frames (.object (done.reverse ++ members))).bind
          fun b => rest.foldlM Builder.step b := by
  induction members generalizing done with
  | nil => exact absurd rfl hne
  | cons m members ih =>
    obtain ⟨k, v⟩ := m
    have hv : Built v := h (k, v) List.mem_cons_self
    cases members with
    | nil =>
      rw [memberTokens]
      show ((v.tokens ++ [Token.closeObject]) ++ rest).foldlM Builder.step
        ⟨.member done k :: frames, .value⟩ = _
      rw [List.append_assoc, hv]
      show (Builder.close frames (.object ((k, v) :: done).reverse)).bind
        (fun b => rest.foldlM Builder.step b) = _
      rw [List.reverse_cons]
    | cons w members =>
      rw [memberTokens]
      show ((v.tokens ++ Token.comma :: memberTokens (w :: members)) ++ rest).foldlM Builder.step
        ⟨.member done k :: frames, .value⟩ = _
      rw [List.append_assoc, hv]
      show (memberTokens (w :: members) ++ rest).foldlM Builder.step
        ⟨.object ((k, v) :: done) :: frames, .name⟩ = _
      rw [ih (fun u hu => h u (List.mem_cons_of_mem (k, v) hu)) (by simp), List.reverse_cons,
        List.append_assoc]
      rfl

/-- No document begins with the end of an array. -/
theorem tokens_eq_cons (v : Outline) : ∃ t ts, v.tokens = t :: ts ∧ t ≠ .closeArray := by
  cases v <;> exact ⟨_, _, by rw [tokens], by simp⟩

/-- A first item is built like any other. -/
theorem foldlM_firstItem (v : Outline) (frames : List Frame) (rest : List Token) :
    (v.tokens ++ rest).foldlM Builder.step ⟨frames, .item⟩
      = (v.tokens ++ rest).foldlM Builder.step ⟨frames, .value⟩ := by
  obtain ⟨t, ts, hts, ht⟩ := v.tokens_eq_cons
  have hstep : Builder.step ⟨frames, .item⟩ t = Builder.step ⟨frames, .value⟩ t := by
    simp [Builder.step, ht]
  rw [hts, List.cons_append, List.foldlM_cons, List.foldlM_cons, hstep]

theorem itemTokens_cons (v : Outline) (items : List Outline) :
    ∃ more, itemTokens (v :: items) = v.tokens ++ more := by
  cases items <;> exact ⟨_, by rw [itemTokens]⟩

theorem memberTokens_cons (k : List Piece) (v : Outline)
    (members : List (List Piece × Outline)) :
    ∃ more, memberTokens ((k, v) :: members) = .text k :: more := by
  cases members <;> exact ⟨_, by rw [memberTokens]⟩

theorem built_array {items : List Outline} (h : ∀ v ∈ items, Built v) :
    Built (.array items) := by
  intro frames rest
  rw [tokens]
  show (itemTokens items ++ rest).foldlM Builder.step ⟨.array [] :: frames, .item⟩ = _
  cases items with
  | nil => rfl
  | cons v items =>
    have hitems := built_items h (by simp) [] frames rest
    obtain ⟨more, hmore⟩ := itemTokens_cons v items
    rw [hmore, List.append_assoc] at hitems ⊢
    rw [foldlM_firstItem]
    exact hitems

theorem built_object {members : List (List Piece × Outline)} (h : ∀ m ∈ members, Built m.2) :
    Built (.object members) := by
  intro frames rest
  rw [tokens]
  show (memberTokens members ++ rest).foldlM Builder.step ⟨.object [] :: frames, .firstName⟩ = _
  cases members with
  | nil => rfl
  | cons m members =>
    obtain ⟨k, v⟩ := m
    have hmembers := built_members h (by simp) [] frames rest
    obtain ⟨more, hmore⟩ := memberTokens_cons k v members
    rw [hmore] at hmembers ⊢
    exact hmembers

/-- **The tokens of a document are one value.** -/
theorem built (v : Outline) : Built v := by
  induction v using nested_induction with
  | null | bool | number | text => intro frames rest; rfl
  | array items ih => exact built_array ih
  | object members ih => exact built_object ih

/-- **A document is built back from its tokens.** -/
theorem finish_tokens (v : Outline) :
    (v.tokens.foldlM Builder.step Builder.start).bind Builder.finish = some v := by
  have hv := built v [] []
  rw [List.append_nil] at hv
  rw [Builder.start, hv]
  rfl

end EpubAccess.Json.Outline
