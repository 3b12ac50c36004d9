/-
  EpubAccess.Proofs.Json.Values
  ────────────────────────────────
  A value is read back from its text.

    • `outline?_chars` — the text of a value spells out the value's own
      structure,
    • `value?_outline` — the structure denotes the value with the members of
      its objects in ascending order (`normal`),
    • `parse?_compact` — so writing and reading a value puts it in normal form,
    • `readBack_of_value?` — what was read is in normal form already,
    • `compact_injective` — values with one text are one value, members in
      one order included.

  All of them are by induction on the value.  Numbers have to be whole: what
  is said of them is `run_whole` and `number?_ofWhole`.
-/
import EpubAccess.Proofs.Json.Building
import EpubAccess.Proofs.Json.Members
import EpubAccess.Proofs.Json.Scanning

namespace EpubAccess.Json

/-! ## §1. Functions of a value, one level at a time. -/

/-- Induction on a value, with what its items or the values of its members
satisfy. -/
@[elab_as_elim]
theorem nested_induction {P : Json → Prop} (null : P .null) (bool : ∀ b, P (.bool b))
    (number : ∀ n, P (.number n)) (string : ∀ s, P (.string s))
    (array : ∀ items, (∀ v ∈ items, P v) → P (.array items))
    (object : ∀ members, (∀ m ∈ members, P m.2) → P (.object members)) : ∀ v, P v
  | .null => null
  | .bool b => bool b
  | .number n => number n
  | .string s => string s
  | .array items => array items fun v _ =>
    nested_induction null bool number string array object v
  | .object members => object members fun m hm =>
    have : sizeOf m.2 < 1 + sizeOf members := by
      have hmem := List.sizeOf_lt_of_mem hm
      have hpair : sizeOf m = 1 + sizeOf m.1 + sizeOf m.2 := rfl
      omega
    nested_induction null bool number string array object m.2

/-- What a function of values makes of each kind of value, given what it makes
of the parts. -/
structure Fold (α : Type) where
  null : α
  bool : Bool → α
  number : Number → α
  string : String → α
  array : List α → α
  object : List (String × α) → α

section

variable {α : Type} (f : Fold α)

mutual

/-- The function of a value. -/
def fold : Json → α
  | .null => f.null
  | .bool b => f.bool b
  | .number n => f.number n
  | .string s => f.string s
  | .array items => f.array (foldItems items)
  | .object members => f.object (foldMembers members)

/-- The function of each item. -/
def foldItems : List Json → List α
  | [] => []
  | v :: rest => v.fold :: foldItems rest

/-- The function of the value of each member. -/
def foldMembers : List (String × Json) → List (String × α)
  | [] => []
  | (k, v) :: rest => (k, v.fold) :: foldMembers rest

end

theorem fold_array (items : List Json) : fold f (.array items) = f.array (items.map (fold f)) := by
  have hitems : foldItems f items = items.map (fold f) := by
    induction items with
    | nil => rfl
    | cons v items ih => rw [foldItems, ih, List.map_cons]
  rw [fold, hitems]

theorem fold_object (members : List (String × Json)) :
    fold f (.object members) = f.object (members.map fun (k, v) => (k, fold f v)) := by
  have hmembers : foldMembers f members = members.map fun (k, v) => (k, fold f v) := by
    induction members with
    | nil => rfl
    | cons m members ih => rw [foldMembers, ih, List.map_cons]
  rw [fold, hmembers]

end

/-- All numbers of a value, in the order in which they are written. -/
def numbers : Json → List Number :=
  fold
    { null := []
      bool := fun _ => []
      number := fun n => [n]
      string := fun _ => []
      array := List.flatten
      object := fun ms => (ms.map Prod.snd).flatten }

/-- How many brackets are open at once at most. -/
def depth : Json → Nat :=
  fold
    { null := 0
      bool := fun _ => 0
      number := fun _ => 0
      string := fun _ => 0
      array := fun ds => ds.foldr max 0 + 1
      object := fun ms => (ms.map Prod.snd).foldr max 0 + 1 }

/-- The value with the members of all its objects in ascending order, the last
of each name. -/
def normal : Json → Json :=
  fold
    { null := .null
      bool := .bool
      number := .number
      string := .string
      array := .array
      object := fun ms => .object (canonical ms) }

/-- A number as it is written. -/
def Number.numeral (n : Number) : Numeral := (Numeral.ofChars? n.chars).getD default

/-- The structure of a value's text. -/
def outline : Json → Outline :=
  fold
    { null := .null
      bool := .bool
      number := fun n => .number n.numeral
      string := fun s => .text (pieces s)
      array := .array
      object := fun ms => .object (ms.map fun (k, v) => (pieces k, v)) }

/-! ### Equations. -/

theorem numbers_array (items : List Json) : numbers (.array items) = items.flatMap numbers :=
  fold_array _ items

theorem numbers_object (members : List (String × Json)) :
    numbers (.object members) = members.flatMap fun m => numbers m.2 := by
  rw [numbers, fold_object]
  simp [List.flatMap, Function.comp_def]

theorem foldr_max_le {ds : List Nat} {n : Nat} : ds.foldr max 0 ≤ n ↔ ∀ d ∈ ds, d ≤ n := by
  induction ds with
  | nil => simp
  | cons d ds ih => rw [List.foldr_cons, Nat.max_le, ih, List.forall_mem_cons]

/-- An array has one bracket more than its items. -/
theorem depth_array_le {items : List Json} {n : Nat} :
    depth (.array items) ≤ n ↔ ∃ m, n = m + 1 ∧ ∀ v ∈ items, depth v ≤ m := by
  rw [depth, fold_array]
  cases n with
  | zero => simp
  | succ m => simp [foldr_max_le]

/-- An object has one bracket more than the values of its members. -/
theorem depth_object_le {members : List (String × Json)} {n : Nat} :
    depth (.object members) ≤ n ↔ ∃ m, n = m + 1 ∧ ∀ x ∈ members, depth x.2 ≤ m := by
  rw [depth, fold_object]
  cases n with
  | zero => simp
  | succ m =>
    rw [Nat.add_le_add_iff_right, foldr_max_le, List.map_map, List.forall_mem_map]
    simp

theorem normal_array (items : List Json) : normal (.array items) = .array (items.map normal) :=
  fold_array _ items

theorem normal_object (members : List (String × Json)) :
    normal (.object members) = .object (canonical (members.map fun (k, v) => (k, normal v))) :=
  fold_object _ members

theorem outline_array (items : List Json) : outline (.array items) = .array (items.map outline) :=
  fold_array _ items

theorem outline_object (members : List (String × Json)) :
    outline (.object members) = .object (members.map fun (k, v) => (pieces k, outline v)) := by
  rw [outline, fold_object]
  simp only [List.map_map]
  rfl

theorem numeral_whole (i : Int) : (Number.whole i).numeral = Numeral.ofWhole i := by
  rw [Number.numeral, Number.chars, Numeral.ofChars?_wholeChars]
  rfl

/-- A value that is read back: its numbers are whole and fit a word, and there is
room for its brackets. -/
structure Legible (v : Json) (room : Nat) : Prop where
  numbers : ∀ n ∈ v.numbers, ∃ i, FitsWord i ∧ n = .whole i
  depth : v.depth ≤ room

theorem legible_string (s : String) (room : Nat) : Legible (.string s) room :=
  ⟨fun _ hn => absurd hn List.not_mem_nil, Nat.zero_le room⟩

theorem Legible.mono {v : Json} {room room' : Nat} (h : Legible v room) (hroom : room ≤ room') :
    Legible v room' :=
  ⟨h.numbers, Nat.le_trans h.depth hroom⟩

theorem legible_array {items : List Json} {room : Nat} :
    Legible (.array items) room ↔ ∃ inside, room = inside + 1 ∧ ∀ v ∈ items, Legible v inside := by
  constructor
  · intro h
    obtain ⟨inside, rfl, hdepth⟩ := depth_array_le.mp h.depth
    exact ⟨inside, rfl, fun v hv =>
      ⟨fun n hn => h.numbers n (numbers_array items ▸ List.mem_flatMap_of_mem hv hn), hdepth v hv⟩⟩
  · rintro ⟨inside, rfl, h⟩
    refine ⟨fun n hn => ?_, depth_array_le.mpr ⟨inside, rfl, fun v hv => (h v hv).depth⟩⟩
    rw [numbers_array] at hn
    obtain ⟨v, hv, hmem⟩ := List.mem_flatMap.mp hn
    exact (h v hv).numbers n hmem

theorem legible_object {members : List (String × Json)} {room : Nat} :
    Legible (.object members) room
      ↔ ∃ inside, room = inside + 1 ∧ ∀ m ∈ members, Legible m.2 inside := by
  constructor
  · intro h
    obtain ⟨inside, rfl, hdepth⟩ := depth_object_le.mp h.depth
    exact ⟨inside, rfl, fun m hm =>
      ⟨fun n hn => h.numbers n (numbers_object members ▸ List.mem_flatMap_of_mem hm hn),
        hdepth m hm⟩⟩
  · rintro ⟨inside, rfl, h⟩
    refine ⟨fun n hn => ?_, depth_object_le.mpr ⟨inside, rfl, fun m hm => (h m hm).depth⟩⟩
    rw [numbers_object] at hn
    obtain ⟨m, hm, hmem⟩ := List.mem_flatMap.mp hn
    exact (h m hm).numbers n hmem

/-! ## §2. The text of a value. -/

/-- The text of the value is scanned to the tokens of its structure, if nothing
follows that would continue a number. -/
def Scanned (v : Json) : Prop :=
  ∀ (done : List Token) (rest : List Char), Delimited rest →
    Lexer.run ⟨done, .between⟩ (v.chars ++ rest)
      = Lexer.run ⟨v.outline.tokens.reverse ++ done, .between⟩ rest

/-- A value and the bracket, colon or comma after it. -/
theorem Scanned.before {v : Json} (hv : Scanned v) (done : List Token) {c : Char} {t : Token}
    (hc : isNumberChar c = false) (ht : ∀ done, Lexer.fresh done c = some (Lexer.emit done t))
    (rest : List Char) :
    Lexer.run ⟨done, .between⟩ (v.chars ++ c :: rest)
      = Lexer.run ⟨t :: (v.outline.tokens.reverse ++ done), .between⟩ rest := by
  rw [hv done _ (delimited_cons hc), Lexer.run_mark (ht _)]

theorem scanned_items {items : List Json} (h : ∀ v ∈ items, Scanned v) (done : List Token)
    (rest : List Char) :
    Lexer.run ⟨done, .between⟩ (itemChars items ++ rest)
      = Lexer.run ⟨(Outline.itemTokens (items.map outline)).reverse ++ done, .between⟩ rest := by
  induction items generalizing done with
  | nil => rfl
  | cons v items ih =>
    have hv : Scanned v := h v List.mem_cons_self
    -- the bracket follows the last item, a comma every other one
    cases items with
    | nil =>
      rw [itemChars, List.append_assoc]
      show Lexer.run _ (v.chars ++ ']' :: rest) = _
      rw [hv.before done rfl fun _ => rfl]
      simp [Outline.itemTokens]
    | cons w items =>
      rw [itemChars, List.append_assoc, List.cons_append, hv.before done rfl fun _ => rfl,
        ih fun u hu => h u (List.mem_cons_of_mem v hu)]
      simp [Outline.itemTokens]

theorem scanned_members {members : List (String × Json)} (h : ∀ m ∈ members, Scanned m.2)
    (done : List Token) (rest : List Char) :
    Lexer.run ⟨done, .between⟩ (memberChars members ++ rest)
      = Lexer.run ⟨(Outline.memberTokens (members.map fun (k, v) => (pieces k, outline v))).reverse
          ++ done, .between⟩ rest := by
  induction members generalizing done with
  | nil => rfl
  | cons m members ih =>
    obtain ⟨k, v⟩ := m
    have hv : Scanned v := h (k, v) List.mem_cons_self
    cases members with
    | nil =>
      rw [memberChars, List.append_assoc, run_quoted, List.cons_append, List.append_assoc,
        Lexer.run_mark rfl]
      show Lexer.run _ (v.chars ++ '\x7d' :: rest) = _
      rw [hv.before _ rfl fun _ => rfl]
      simp [Outline.memberTokens]
    | cons w members =>
      rw [memberChars, List.append_assoc, run_quoted, List.cons_append, List.append_assoc,
        Lexer.run_mark rfl, List.cons_append, hv.before _ rfl fun _ => rfl,
        ih fun u hu => h u (List.mem_cons_of_mem (k, v) hu)]
      simp [Outline.memberTokens]

/-- **The text of a value is scanned to the tokens of its structure.** -/
theorem scanned (v : Json) {room : Nat} (h : Legible v room) : Scanned v := by
  -- the induction is on the value; each bracket takes one from the room for the rest
  induction v using nested_induction generalizing room with
  | null => intro done rest _; rfl
  | bool b => intro done rest _; cases b <;> rfl
  | number n =>
    intro done rest hrest
    obtain ⟨i, _, rfl⟩ := h.numbers n List.mem_cons_self
    have houtline : (Json.number (.whole i)).outline = .number (Numeral.ofWhole i) :=
      congrArg Outline.number (numeral_whole i)
    rw [houtline]
    exact Numeral.run_whole done i hrest
  | string s => intro done rest _; exact run_quoted done s rest
  | array items ih =>
    intro done rest _
    obtain ⟨_, _, hitems⟩ := legible_array.mp h
    rw [outline_array]
    show Lexer.run ⟨.openArray :: done, .between⟩ (itemChars items ++ rest) = _
    rw [scanned_items fun v hv => ih v hv (hitems v hv)]
    simp [Outline.tokens]
  | object members ih =>
    intro done rest _
    obtain ⟨_, _, hmembers⟩ := legible_object.mp h
    rw [outline_object]
    show Lexer.run ⟨.openObject :: done, .between⟩ (memberChars members ++ rest) = _
    rw [scanned_members fun m hm => ih m hm (hmembers m hm)]
    simp [Outline.tokens]

/-- A text that is scanned to the tokens of a document spells it out. -/
theorem outline?_of_run {cs : List Char} {o : Outline}
    (h : Lexer.run ⟨[], .between⟩ cs = Lexer.run ⟨o.tokens.reverse, .between⟩ []) :
    outline? cs = some o := by
  have htokens : tokens? cs = some o.tokens := by
    rw [tokens?_eq_run, h]
    show some o.tokens.reverse.reverse = _
    rw [List.reverse_reverse]
  rw [outline?, htokens]
  exact o.finish_tokens

/-- **The text of a value spells out the value's structure.** -/
theorem outline?_chars {v : Json} {room : Nat} (h : Legible v room) :
    outline? v.chars = some v.outline := by
  have hscan := scanned v h [] [] (by simp [Delimited])
  rw [List.append_nil, List.append_nil] at hscan
  exact outline?_of_run hscan

/-! ## §3. The value of its structure. -/

theorem values?_outlines {items : List Json} {room : Nat}
    (h : ∀ v ∈ items, v.outline.value? room = some v.normal) :
    Outline.values? room (items.map outline) = some (items.map normal) := by
  induction items with
  | nil => rfl
  | cons v items ih =>
    have hv := h v List.mem_cons_self
    have hrest := ih fun u hu => h u (List.mem_cons_of_mem v hu)
    simp [Outline.values?, hv, hrest]

theorem members?_outlines {members : List (String × Json)} {room : Nat}
    (h : ∀ m ∈ members, m.2.outline.value? room = some m.2.normal) :
    Outline.members? room (members.map fun (k, v) => (pieces k, outline v))
      = some (members.map fun (k, v) => (k, normal v)) := by
  induction members with
  | nil => rfl
  | cons m members ih =>
    have hm := h m List.mem_cons_self
    have hrest := ih fun u hu => h u (List.mem_cons_of_mem m hu)
    simp [Outline.members?, hm, hrest, text?_pieces]

/-- **The structure of a value denotes its normal form.** -/
theorem value?_outline (v : Json) {room : Nat} (h : Legible v room) :
    v.outline.value? room = some v.normal := by
  induction v using nested_induction generalizing room with
  | null | bool => rfl
  | string s =>
    show (text? (pieces s)).map Json.string = _
    rw [text?_pieces]
    rfl
  | number n =>
    obtain ⟨i, hfits, rfl⟩ := h.numbers n List.mem_cons_self
    show ((Number.whole i).numeral.number?).map Json.number = _
    rw [numeral_whole, Numeral.number?_ofWhole hfits]
    rfl
  | array items ih =>
    obtain ⟨inside, rfl, hitems⟩ := legible_array.mp h
    have hvalues := values?_outlines fun v hv => ih v hv (hitems v hv)
    rw [outline_array, normal_array, Outline.value?, hvalues]
    rfl
  | object members ih =>
    obtain ⟨inside, rfl, hmembers⟩ := legible_object.mp h
    have hvalues := members?_outlines fun m hm => ih m hm (hmembers m hm)
    rw [outline_object, normal_object, Outline.value?, hvalues]
    rfl

/-- **Writing a value and reading it back puts it in normal form.** -/
theorem parse?_compact {v : Json} (h : Legible v nestingLimit) :
    parse? v.compact = some v.normal := by
  rw [parse?, compact, String.toList_ofList, outline?_chars h, Option.bind_some,
    value?_outline v h]

/-! ## §4. Values that were read. -/

/-- A value as it comes out of reading: in normal form, with whole numbers that
fit a word. -/
structure ReadBack (v : Json) : Prop where
  normal : v.normal = v
  fits : ∀ i, .whole i ∈ v.numbers → FitsWord i

theorem mem_values? {items : List Outline} {room : Nat} {vs : List Json}
    (h : Outline.values? room items = some vs) :
    ∀ v ∈ vs, ∃ o ∈ items, o.value? room = some v := by
  induction items generalizing vs with
  | nil =>
    obtain rfl : [] = vs := by simpa [Outline.values?] using h
    simp
  | cons o items ih =>
    simp only [Outline.values?, Option.bind_eq_bind, Option.bind_eq_some_iff,
      Option.some.injEq] at h
    obtain ⟨v, hv, rest, hrest, rfl⟩ := h
    intro w hw
    rcases List.mem_cons.mp hw with rfl | hw
    · exact ⟨o, List.mem_cons_self, hv⟩
    · obtain ⟨p, hp, hvalue⟩ := ih hrest w hw
      exact ⟨p, List.mem_cons_of_mem o hp, hvalue⟩

theorem mem_members? {members : List (List Piece × Outline)} {room : Nat}
    {ms : List (String × Json)} (h : Outline.members? room members = some ms) :
    ∀ m ∈ ms, ∃ o ∈ members, o.2.value? room = some m.2 := by
  induction members generalizing ms with
  | nil =>
    obtain rfl : [] = ms := by simpa [Outline.members?] using h
    simp
  | cons o members ih =>
    simp only [Outline.members?, Option.bind_eq_bind, Option.bind_eq_some_iff,
      Option.some.injEq] at h
    obtain ⟨k, _, v, hv, rest, hrest, rfl⟩ := h
    intro m hm
    rcases List.mem_cons.mp hm with rfl | hm
    · exact ⟨o, List.mem_cons_self, hv⟩
    · obtain ⟨p, hp, hvalue⟩ := ih hrest m hm
      exact ⟨p, List.mem_cons_of_mem o hp, hvalue⟩

theorem readBack_array {vs : List Json} (h : ∀ v ∈ vs, ReadBack v) : ReadBack (.array vs) := by
  constructor
  · have hmap : vs.map Json.normal = vs := by
      conv_rhs => rw [← List.map_id vs]
      exact List.map_congr_left fun v hv => (h v hv).normal
    rw [normal_array, hmap]
  · intro i hi
    rw [numbers_array] at hi
    obtain ⟨v, hv, hmem⟩ := List.mem_flatMap.mp hi
    exact (h v hv).fits i hmem

theorem readBack_object {ms : List (String × Json)} (h : ∀ m ∈ ms, ReadBack m.2) :
    ReadBack (.object (canonical ms)) := by
  have hmembers : ∀ m ∈ canonical ms, ReadBack m.2 := fun m hm => h m (mem_of_mem_canonical hm)
  constructor
  · have hmap : ((canonical ms).map fun (k, v) => (k, Json.normal v)) = canonical ms := by
      conv_rhs => rw [← List.map_id (canonical ms)]
      exact List.map_congr_left fun m hm => Prod.ext rfl (hmembers m hm).normal
    rw [normal_object, hmap, canonical_of_ascending (ascending_canonical ms)]
  · intro i hi
    rw [numbers_object] at hi
    obtain ⟨m, hm, hmem⟩ := List.mem_flatMap.mp hi
    exact (hmembers m hm).fits i hmem

/-- **What was read is in normal form.** -/
theorem readBack_of_value? (o : Outline) {room : Nat} {v : Json} (h : o.value? room = some v) :
    ReadBack v := by
  induction o using Outline.nested_induction generalizing room v with
  | null =>
    obtain rfl : Json.null = v := by simpa [Outline.value?] using h
    exact ⟨rfl, fun i hi => by cases hi⟩
  | bool b =>
    obtain rfl : Json.bool b = v := by simpa [Outline.value?] using h
    exact ⟨rfl, fun i hi => by cases hi⟩
  | text ps =>
    simp only [Outline.value?, Option.map_eq_some_iff] at h
    obtain ⟨s, _, rfl⟩ := h
    exact ⟨rfl, fun i hi => by cases hi⟩
  | number n =>
    simp only [Outline.value?, Option.map_eq_some_iff] at h
    obtain ⟨x, hx, rfl⟩ := h
    refine ⟨rfl, fun i hi => ?_⟩
    obtain rfl : Number.whole i = x := List.mem_singleton.mp hi
    exact Numeral.fitsWord_of_number? hx
  | array items ih =>
    -- without room for a bracket nothing was read
    cases room with
    | zero => simp [Outline.value?] at h
    | succ room =>
      simp only [Outline.value?, Option.map_eq_some_iff] at h
      obtain ⟨vs, hvs, rfl⟩ := h
      refine readBack_array fun v hv => ?_
      obtain ⟨o, ho, hvalue⟩ := mem_values? hvs v hv
      exact ih o ho hvalue
  | object members ih =>
    cases room with
    | zero => simp [Outline.value?] at h
    | succ room =>
      simp only [Outline.value?, Option.map_eq_some_iff] at h
      obtain ⟨ms, hms, rfl⟩ := h
      refine readBack_object fun m hm => ?_
      obtain ⟨o, ho, hvalue⟩ := mem_members? hms m hm
      exact ih o ho hvalue

theorem readBack_of_parse? {s : String} {v : Json} (h : parse? s = some v) : ReadBack v := by
  rw [parse?, Option.bind_eq_some_iff] at h
  obtain ⟨o, _, hvalue⟩ := h
  exact readBack_of_value? o hvalue

/-! ## §5. Values that are told apart. -/

/-- What tells the members of two lists apart tells the lists apart. -/
theorem eq_of_map_eq {α β : Type} {f : α → β} {as bs : List α}
    (hf : ∀ a ∈ as, ∀ b ∈ bs, f a = f b → a = b) (h : as.map f = bs.map f) : as = bs := by
  induction as generalizing bs with
  | nil => exact (List.map_eq_nil_iff.mp h.symm).symm
  | cons a as ih =>
    cases bs with
    | nil => exact absurd h (by simp)
    | cons b bs =>
      obtain ⟨hhead, htail⟩ := List.cons.inj h
      have hab : a = b := hf a List.mem_cons_self b List.mem_cons_self hhead
      have hrest : as = bs :=
        ih (fun x hx y hy => hf x (List.mem_cons_of_mem a hx) y (List.mem_cons_of_mem b hy)) htail
      rw [hab, hrest]

/-- A text that was quoted is known from its pieces. -/
theorem pieces_injective {s t : String} (h : pieces s = pieces t) : s = t := by
  have htext : some s = some t := by rw [← text?_pieces s, ← text?_pieces t, h]
  exact Option.some.inj htext

/-- A whole number that fits a word is known from the way it is written. -/
theorem ofWhole_injective {i j : Int} (hi : FitsWord i) (hj : FitsWord j)
    (h : Numeral.ofWhole i = Numeral.ofWhole j) : i = j := by
  have hnumber : some (Number.whole i) = some (Number.whole j) := by
    rw [← Numeral.number?_ofWhole hi, ← Numeral.number?_ofWhole hj, h]
  exact Number.whole.inj (Option.some.inj hnumber)

/-- **Values with one structure are one value.** -/
theorem outline_injective {v w : Json} {room room' : Nat} (hv : Legible v room)
    (hw : Legible w room') (h : v.outline = w.outline) : v = w := by
  -- the induction is on the first value, and the structure shows the kind of the second
  induction v using nested_induction generalizing w room room' with
  | null => cases w <;> simp_all [outline, fold]
  | bool b => cases w <;> simp_all [outline, fold]
  | number n =>
    cases w with
    | number m =>
      obtain ⟨i, hi, rfl⟩ := hv.numbers n List.mem_cons_self
      obtain ⟨j, hj, rfl⟩ := hw.numbers m List.mem_cons_self
      have hnumeral : (Number.whole i).numeral = (Number.whole j).numeral := Outline.number.inj h
      rw [numeral_whole, numeral_whole] at hnumeral
      rw [ofWhole_injective hi hj hnumeral]
    | _ => simp [outline, fold] at h
  | string s =>
    cases w with
    | string t =>
      have hpieces : pieces s = pieces t := Outline.text.inj h
      rw [pieces_injective hpieces]
    | _ => simp [outline, fold] at h
  | array items ih =>
    cases w with
    | array others =>
      obtain ⟨_, _, hitems⟩ := legible_array.mp hv
      obtain ⟨_, _, hothers⟩ := legible_array.mp hw
      rw [outline_array, outline_array] at h
      congr 1
      refine eq_of_map_eq ?_ (Outline.array.inj h)
      intro a ha b hb hab
      exact ih a ha (hitems a ha) (hothers b hb) hab
    | _ => simp [outline, fold] at h
  | object members ih =>
    cases w with
    | object others =>
      obtain ⟨_, _, hmembers⟩ := legible_object.mp hv
      obtain ⟨_, _, hothers⟩ := legible_object.mp hw
      rw [outline_object, outline_object] at h
      congr 1
      refine eq_of_map_eq ?_ (Outline.object.inj h)
      intro a ha b hb hab
      obtain ⟨hname, hvalue⟩ := Prod.mk.inj hab
      exact Prod.ext (pieces_injective hname) (ih a ha (hmembers a ha) (hothers b hb) hvalue)
    | _ => simp [outline, fold] at h

/-- **Values with one text are one value.** -/
theorem compact_injective {v w : Json} {room room' : Nat} (hv : Legible v room)
    (hw : Legible w room') (h : v.compact = w.compact) : v = w := by
  have hchars : v.chars = w.chars := String.ofList_injective h
  have houtline : some v.outline = some w.outline := by
    rw [← outline?_chars hv, ← outline?_chars hw, hchars]
  exact outline_injective hv hw (Option.some.inj houtline)

end EpubAccess.Json
