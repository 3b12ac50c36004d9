/-
  EpubAccess.Proofs.Text.Sizes
  ────────────────────────────────
  Which texts are read as sizes.

    • `digits_eq_ok` — digits are read to the end exactly when the number they
      denote fits; numbers only grow, so it fits at every place on the way,
    • `stops_of_digits_eq_error` — and otherwise what is met first decides,
    • `parse_eq_ok`, `refuses_of_parse_eq_error` — sizes are one or more ASCII
      digits, after a plus sign or not.

  The number that digits denote is `Nat.ofDigitChars`, which reads them without
  a bound.
-/
import EpubAccess.Text.Number

namespace EpubAccess.Text.Size

/-- Is every character an ASCII digit? -/
def AllDigits (ds : List Char) : Prop := ∀ c ∈ ds, c.isDigit = true

/-- The number that digits denote when they follow those of `n`. -/
abbrev denoted (n : Nat) (ds : List Char) : Nat := Nat.ofDigitChars 10 ds n

/-! ## §1. Digits. -/

theorem isDigit_iff {c : Char} : c.isDigit = true ↔ 48 ≤ c.toNat ∧ c.toNat ≤ 57 :=
  Char.isDigit_iff_toNat

/-- One step of reading. -/
theorem digits_cons (n : Nat) (c : Char) (cs : List Char) :
    digits n (c :: cs) =
      if c.isDigit = true then
        if denoted n [c] < bound then digits (denoted n [c]) cs else .error .tooLarge
      else .error .invalidDigit := by
  rw [digits, digit?]
  by_cases hc : c.isDigit = true
  · rw [if_pos (isDigit_iff.mp hc), if_pos hc]
    rfl
  · rw [if_neg (fun h => hc (isDigit_iff.mpr h)), if_neg hc]

/-- A number does not fall when digits are appended. -/
theorem le_denoted (n : Nat) (ds : List Char) : n ≤ denoted n ds := by
  induction ds generalizing n with
  | nil => exact Nat.le_refl n
  | cons c ds ih =>
    have hstep : n ≤ denoted n [c] := by
      show n ≤ 10 * n + _
      omega
    exact Nat.le_trans hstep (ih (denoted n [c]))

/-- **Digits are read exactly when the number they denote fits.** -/
theorem digits_eq_ok {n m : Nat} {cs : List Char} (hn : n < bound) :
    digits n cs = .ok m ↔ AllDigits cs ∧ m = denoted n cs ∧ m < bound := by
  induction cs generalizing n with
  | nil =>
    constructor
    · intro h
      obtain rfl : n = m := Except.ok.inj h
      exact ⟨by simp [AllDigits], rfl, hn⟩
    · rintro ⟨-, rfl, -⟩
      rfl
  | cons c cs ih =>
    rw [digits_cons, AllDigits, List.forall_mem_cons]
    show _ ↔ _ ∧ m = denoted (denoted n [c]) cs ∧ _
    by_cases hc : c.isDigit = true
    · rw [if_pos hc]
      by_cases hroom : denoted n [c] < bound
      · rw [if_pos hroom, ih hroom]
        simp [hc, AllDigits]
      · -- a number that does not fit will not fit later
        rw [if_neg hroom]
        have hgrow := le_denoted (denoted n [c]) cs
        constructor
        · intro h
          cases h
        · rintro ⟨-, hm, hlt⟩
          omega
    · simp [hc]

/-- Where digits stop: at a character that is none, or at one with which the
number no longer fits. -/
inductive Stops (n : Nat) : List Char → SizeError → Prop
  | noDigit (ds : List Char) {c : Char} {rest : List Char} (digits : AllDigits ds)
      (fits : denoted n ds < bound) (stop : c.isDigit = false) :
      Stops n (ds ++ c :: rest) .invalidDigit
  | noRoom (ds : List Char) {c : Char} {rest : List Char} (digits : AllDigits (ds ++ [c]))
      (fits : denoted n ds < bound) (stop : bound ≤ denoted n (ds ++ [c])) :
      Stops n (ds ++ c :: rest) .tooLarge

theorem AllDigits.cons {c : Char} {ds : List Char} (hc : c.isDigit = true) (hds : AllDigits ds) :
    AllDigits (c :: ds) :=
  List.forall_mem_cons.mpr ⟨hc, hds⟩

/-- What stops the digits after the first stops the digits. -/
theorem Stops.cons {n : Nat} {c : Char} {cs : List Char} {e : SizeError} (hc : c.isDigit = true)
    (h : Stops (denoted n [c]) cs e) : Stops n (c :: cs) e := by
  cases h with
  | noDigit ds hds hfits hstop => exact .noDigit (c :: ds) (hds.cons hc) hfits hstop
  | noRoom ds hds hfits hstop => exact .noRoom (c :: ds) (hds.cons hc) hfits hstop

theorem stops_of_digits_eq_error {n : Nat} {cs : List Char} {e : SizeError} (hn : n < bound)
    (h : digits n cs = .error e) : Stops n cs e := by
  induction cs generalizing n with
  | nil => cases h
  | cons c cs ih =>
    rw [digits_cons] at h
    split at h
    · next hc =>
      split at h
      · next hroom => exact (ih hroom h).cons hc
      · -- the digit is the first with which the number does not fit
        next hroom =>
        cases h
        have hone : AllDigits ([] ++ [c]) := by simpa [AllDigits] using hc
        exact .noRoom [] hone hn (Nat.le_of_not_lt hroom)
    · next hc =>
      cases h
      exact .noDigit [] (by simp [AllDigits]) hn (by simpa using hc)

/-! ## §2. Sizes. -/

/-- A text that denotes a number: one or more digits, after a plus sign or not. -/
inductive Writes : List Char → Nat → Prop
  | plain {ds : List Char} (ne_nil : ds ≠ []) (digits : AllDigits ds) :
      Writes ds (Nat.ofDigitChars 10 ds 0)
  | signed {ds : List Char} (ne_nil : ds ≠ []) (digits : AllDigits ds) :
      Writes ('+' :: ds) (Nat.ofDigitChars 10 ds 0)

/-- Why a text denotes no size. -/
inductive Refuses : List Char → SizeError → Prop
  | empty : Refuses [] .empty
  | onlySign : Refuses ['+'] .invalidDigit
  | plain {cs : List Char} {e : SizeError} (ne_nil : cs ≠ []) (unsigned : cs.head? ≠ some '+')
      (stops : Stops 0 cs e) : Refuses cs e
  | signed {cs : List Char} {e : SizeError} (ne_nil : cs ≠ []) (stops : Stops 0 cs e) :
      Refuses ('+' :: cs) e

theorem parse_signed {cs : List Char} (hne : cs ≠ []) : parse ('+' :: cs) = digits 0 cs := by
  cases cs with
  | nil => exact absurd rfl hne
  | cons c cs => rfl

theorem parse_plain {cs : List Char} (hne : cs ≠ []) (hsign : cs.head? ≠ some '+') :
    parse cs = digits 0 cs := by
  cases cs with
  | nil => exact absurd rfl hne
  | cons c cs =>
    have hc : c ≠ '+' := by simpa using hsign
    rw [parse] <;> simp [hc]

/-- Texts by what `parse` makes of them. -/
theorem sign_cases (cs : List Char) :
    cs = [] ∨ cs = ['+'] ∨ (∃ ds, ds ≠ [] ∧ cs = '+' :: ds) ∨
      (cs ≠ [] ∧ cs.head? ≠ some '+') := by
  cases cs with
  | nil => exact .inl rfl
  | cons c cs =>
    by_cases hc : c = '+'
    · subst hc
      by_cases hne : cs = []
      · exact .inr (.inl (by rw [hne]))
      · exact .inr (.inr (.inl ⟨cs, hne, rfl⟩))
    · exact .inr (.inr (.inr ⟨List.cons_ne_nil c cs, by simpa using hc⟩))

/-- No number begins with a plus sign, since that is no digit. -/
theorem not_allDigits_signed (ds : List Char) : ¬ AllDigits ('+' :: ds) :=
  fun h => absurd (h '+' List.mem_cons_self) (by decide)

theorem writes_signed {ds : List Char} {n : Nat} :
    Writes ('+' :: ds) n ↔ ds ≠ [] ∧ AllDigits ds ∧ n = denoted 0 ds := by
  constructor
  · intro h
    cases h with
    | plain hne hds => exact absurd hds (not_allDigits_signed ds)
    | signed hne hds => exact ⟨hne, hds, rfl⟩
  · rintro ⟨hne, hds, rfl⟩
    exact .signed hne hds

theorem writes_plain {cs : List Char} (hsign : cs.head? ≠ some '+') {n : Nat} :
    Writes cs n ↔ cs ≠ [] ∧ AllDigits cs ∧ n = denoted 0 cs := by
  constructor
  · intro h
    cases h with
    | plain hne hds => exact ⟨hne, hds, rfl⟩
    | signed hne hds => exact absurd rfl hsign
  · rintro ⟨hne, hds, rfl⟩
    exact .plain hne hds

/-- **A text is read as the number it denotes, if that fits.** -/
theorem parse_eq_ok {cs : List Char} {n : Nat} : parse cs = .ok n ↔ Writes cs n ∧ n < bound := by
  have hzero : 0 < bound := by decide
  -- nothing, a sign alone, a sign and more, and what has no sign
  rcases sign_cases cs with rfl | rfl | ⟨ds, hne, rfl⟩ | ⟨hne, hsign⟩
  · have hnone : ¬ Writes [] n := by
      rw [writes_plain (by simp)]
      simp
    simp [parse, hnone]
  · simp [parse, writes_signed]
  · rw [parse_signed hne, digits_eq_ok hzero, writes_signed]
    simp [hne, and_assoc]
  · rw [parse_plain hne hsign, digits_eq_ok hzero, writes_plain hsign]
    simp [hne, and_assoc]

/-- **A text that is not read as a number is one of those that are refused so.** -/
theorem refuses_of_parse_eq_error {cs : List Char} {e : SizeError} (h : parse cs = .error e) :
    Refuses cs e := by
  have hzero : 0 < bound := by decide
  rcases sign_cases cs with rfl | rfl | ⟨ds, hne, rfl⟩ | ⟨hne, hsign⟩
  · cases h
    exact .empty
  · cases h
    exact .onlySign
  · rw [parse_signed hne] at h
    exact .signed hne (stops_of_digits_eq_error hzero h)
  · rw [parse_plain hne hsign] at h
    exact .plain hne hsign (stops_of_digits_eq_error hzero h)

end EpubAccess.Text.Size
