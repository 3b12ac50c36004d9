/-
  EpubAccess.Proofs.Text.Blanks
  ────────────────────────────────
  What remains of a text that is cut at its white space.

    • `trim_eq_iff` — trimming leaves the part between the blanks at both ends,
    • `cut_induction` — a text is one piece, or a piece, a separator and a text,
    • `words_append_blank` — a blank between two texts keeps their words apart,
    • `mem_words_iff` — the words are the maximal runs of other characters,
    • `words_intercalate` — and they are read back when blanks stand between them.
-/
import EpubAccess.Text.Blank

namespace EpubAccess.Text

/-- Is every character white space? -/
def AllBlank (cs : List Char) : Prop := ∀ c ∈ cs, isBlank c = true

/-- Is no character white space? -/
def Solid (cs : List Char) : Prop := ∀ c ∈ cs, isBlank c = false

/-! ## §1. Trimming. -/

/-- `core` is what stands between the blanks at both ends of a text. -/
structure Trimmed (cs core : List Char) : Prop where
  around : ∃ front back, cs = front ++ core ++ back ∧ AllBlank front ∧ AllBlank back
  first : ∀ c, core.head? = some c → isBlank c = false
  last : ∀ c, core.getLast? = some c → isBlank c = false

theorem allBlank_takeWhile (cs : List Char) : AllBlank (cs.takeWhile isBlank) :=
  fun _ hc => List.all_eq_true.mp List.all_takeWhile _ hc

theorem AllBlank.reverse {cs : List Char} (h : AllBlank cs) : AllBlank cs.reverse :=
  fun c hc => h c (List.mem_reverse.mp hc)

/-- What is dropped ends before a character that is no blank. -/
theorem head?_dropWhile_isBlank {cs : List Char} {c : Char}
    (h : (cs.dropWhile isBlank).head? = some c) : isBlank c = false := by
  have hnot := List.head?_dropWhile_not isBlank cs
  rw [h] at hnot
  exact hnot

theorem dropWhile_isBlank_append {front cs : List Char} (hfront : AllBlank front)
    (hcs : ∀ c, cs.head? = some c → isBlank c = false) :
    (front ++ cs).dropWhile isBlank = cs := by
  rw [List.dropWhile_append_of_pos hfront]
  cases cs with
  | nil => rfl
  | cons c cs => rw [List.dropWhile_cons_of_neg (by rw [hcs c rfl]; decide)]

/-- What trimming leaves, and the blanks it drops at the end. -/
theorem trim_append_dropped (cs : List Char) :
    trim cs ++ ((cs.dropWhile isBlank).reverse.takeWhile isBlank).reverse
      = cs.dropWhile isBlank := by
  rw [trim, ← List.reverse_append, List.takeWhile_append_dropWhile, List.reverse_reverse]

theorem trimmed_trim (cs : List Char) : Trimmed cs (trim cs) where
  around := by
    -- the blanks that go at the start, and those that go at the end of the rest
    refine ⟨cs.takeWhile isBlank, ((cs.dropWhile isBlank).reverse.takeWhile isBlank).reverse, ?_,
      allBlank_takeWhile cs, (allBlank_takeWhile _).reverse⟩
    rw [List.append_assoc, trim_append_dropped, List.takeWhile_append_dropWhile]
  first := by
    intro c hc
    have hhead : (cs.dropWhile isBlank).head? = some c := by
      rw [← trim_append_dropped, List.head?_append, hc]
      rfl
    exact head?_dropWhile_isBlank hhead
  last := by
    intro c hc
    rw [trim, List.getLast?_reverse] at hc
    exact head?_dropWhile_isBlank hc

/-- **Trimming leaves what stands between the blanks at both ends.** -/
theorem trim_eq_iff {cs core : List Char} : trim cs = core ↔ Trimmed cs core := by
  constructor
  · rintro rfl
    exact trimmed_trim cs
  · rintro ⟨⟨front, back, rfl, hfront, hback⟩, hfirst, hlast⟩
    rw [trim, List.append_assoc]
    cases core with
    | nil =>
      -- with nothing between them the blanks go at once
      rw [List.nil_append, ← List.append_nil (front ++ back),
        dropWhile_isBlank_append (List.forall_mem_append.mpr ⟨hfront, hback⟩) (by simp)]
      rfl
    | cons c core =>
      rw [dropWhile_isBlank_append hfront (by simpa using hfirst), List.reverse_append,
        dropWhile_isBlank_append hback.reverse, List.reverse_reverse]
      intro d hd
      rw [List.head?_reverse] at hd
      exact hlast d hd

/-! ## §2. Cutting. -/

section Cutting

variable {stop : Char → Bool}

/-- **A text is one piece, or a piece, a separator and a text.** -/
theorem cut_induction {motive : List Char → Prop}
    (piece : ∀ w, (∀ c ∈ w, stop c = false) → motive w)
    (cut : ∀ w b cs, (∀ c ∈ w, stop c = false) → stop b = true → motive cs →
      motive (w ++ b :: cs)) (cs : List Char) : motive cs := by
  -- the piece that is being read stands before the rest
  have hread : ∀ w, (∀ c ∈ w, stop c = false) → motive (w ++ cs) := by
    induction cs with
    | nil =>
      intro w hw
      rw [List.append_nil]
      exact piece w hw
    | cons c cs ih =>
      intro w hw
      cases hc : stop c with
      | true => exact cut w c cs hw hc (ih [] (by simp))
      | false =>
        rw [List.append_cons]
        exact ih (w ++ [c]) (List.forall_mem_append.mpr ⟨hw, by simpa using hc⟩)
  exact hread [] (by simp)

theorem cutAt_of_not_stop {w : List Char} (hw : ∀ c ∈ w, stop c = false) : cutAt stop w = [w] := by
  induction w with
  | nil => rfl
  | cons c w ih =>
    obtain ⟨hc, hw⟩ := List.forall_mem_cons.mp hw
    rw [cutAt, ih hw, if_neg (by rw [hc]; decide)]

theorem cutAt_ne_nil (cs : List Char) : cutAt stop cs ≠ [] := by
  cases cs with
  | nil => simp [cutAt]
  | cons c cs =>
    rw [cutAt]
    split
    · simp
    · split <;> simp

/-- A separator ends a piece, and the next begins after it. -/
theorem cutAt_append_stop {b : Char} (hb : stop b = true) (cs ds : List Char) :
    cutAt stop (cs ++ b :: ds) = cutAt stop cs ++ cutAt stop ds := by
  induction cs with
  | nil => simp [cutAt, hb]
  | cons c cs ih =>
    rw [List.cons_append, cutAt, ih, cutAt]
    cases hcut : cutAt stop cs with
    | nil => exact absurd hcut (cutAt_ne_nil cs)
    | cons w ws =>
      cases hc : stop c <;> simp

end Cutting

/-! ## §3. Words. -/

theorem words_nil : words [] = [] := rfl

theorem words_of_solid {w : List Char} (hw : Solid w) (hne : w ≠ []) : words w = [w] := by
  rw [words, cutAt_of_not_stop hw]
  simp [hne]

/-- **A blank keeps the words before it and after it apart.** -/
theorem words_append_blank {b : Char} (hb : isBlank b = true) (cs ds : List Char) :
    words (cs ++ b :: ds) = words cs ++ words ds := by
  rw [words, cutAt_append_stop hb, List.filter_append, ← words, ← words]

/-- A maximal run of characters that are not blank. -/
structure IsWord (w cs : List Char) : Prop where
  ne_nil : w ≠ []
  solid : Solid w
  between : ∃ front back, cs = front ++ w ++ back ∧
    (∀ c, front.getLast? = some c → isBlank c = true) ∧
    (∀ c, back.head? = some c → isBlank c = true)

/-- What stands before a blank adds nothing to the words after it. -/
theorem IsWord.append_blank {w cs : List Char} (h : IsWord w cs) {b : Char}
    (hb : isBlank b = true) (ds : List Char) : IsWord w (ds ++ b :: cs) := by
  obtain ⟨front, back, rfl, hfront, hback⟩ := h.between
  refine ⟨h.ne_nil, h.solid, ds ++ b :: front, back, by simp, ?_, hback⟩
  intro c hc
  rw [List.getLast?_append, List.getLast?_cons] at hc
  cases hlast : front.getLast? with
  | none =>
    obtain rfl : b = c := by simpa [hlast] using hc
    exact hb
  | some d =>
    obtain rfl : d = c := by simpa [hlast] using hc
    exact hfront d hlast

theorem isWord_of_mem_words {w cs : List Char} (hw : w ∈ words cs) : IsWord w cs := by
  induction cs using @cut_induction isBlank with
  | piece v hv =>
    by_cases hne : v = []
    · rw [hne, words_nil] at hw
      cases hw
    · rw [words_of_solid hv hne, List.mem_singleton] at hw
      rw [hw]
      exact ⟨hne, hv, [], [], by simp, by simp, by simp⟩
  | cut v b cs hv hb ih =>
    rw [words_append_blank hb, List.mem_append] at hw
    -- the word begins the text, or it stands after the blank
    rcases hw with hw | hw
    · by_cases hne : v = []
      · rw [hne, words_nil] at hw
        cases hw
      · rw [words_of_solid hv hne, List.mem_singleton] at hw
        rw [hw]
        exact ⟨hne, hv, [], b :: cs, by simp, by simp, by simpa using hb⟩
    · exact (ih hw).append_blank hb v

theorem mem_words_before {w back : List Char} (hw : Solid w) (hne : w ≠ [])
    (hback : ∀ c, back.head? = some c → isBlank c = true) : w ∈ words (w ++ back) := by
  cases back with
  | nil =>
    rw [List.append_nil, words_of_solid hw hne]
    exact List.mem_singleton_self w
  | cons b back =>
    rw [words_append_blank (hback b rfl), words_of_solid hw hne]
    exact List.mem_cons_self

/-- **The words of a text are its maximal runs of characters that are not blank.** -/
theorem mem_words_iff {w cs : List Char} : w ∈ words cs ↔ IsWord w cs := by
  refine ⟨isWord_of_mem_words, ?_⟩
  rintro ⟨hne, hw, front, back, rfl, hfront, hback⟩
  have hmem := mem_words_before hw hne hback
  rw [List.append_assoc]
  -- what stands before the word ends with a blank, which keeps it apart
  rcases List.eq_nil_or_concat front with rfl | ⟨before, b, rfl⟩
  · exact hmem
  · have hb : isBlank b = true := hfront b (by simp)
    rw [List.concat_eq_append, List.append_assoc, List.singleton_append, words_append_blank hb]
    exact List.mem_append_right _ hmem

/-- **Words with a blank between them are read back.** -/
theorem words_intercalate {b : Char} (hb : isBlank b = true) {ws : List (List Char)}
    (hws : ∀ w ∈ ws, Solid w ∧ w ≠ []) : words ([b].intercalate ws) = ws := by
  induction ws with
  | nil => rfl
  | cons w ws ih =>
    obtain ⟨⟨hw, hne⟩, hrest⟩ := List.forall_mem_cons.mp hws
    cases ws with
    | nil => rw [List.intercalate_singleton, words_of_solid hw hne]
    | cons v ws =>
      rw [List.intercalate_cons_cons, List.append_assoc, List.singleton_append,
        words_append_blank hb, ih hrest, words_of_solid hw hne, List.singleton_append]

end EpubAccess.Text
