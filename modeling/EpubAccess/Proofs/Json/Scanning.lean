/-
  EpubAccess.Proofs.Json.Scanning
  ────────────────────────────────
  What the scan makes of the texts and numbers that are written here.

    • `run_quoted` — a quoted text is one token, whatever follows it, and
      `text?_pieces` — the token denotes the text,
    • `run_whole` — a whole number is one token, if no character follows that
      would continue it, and `number?_ofWhole` — the token denotes the number
      if it fits a signed or an unsigned word.

  `Lexer.run` is the scan from a given state on, so that each lemma says how
  far one piece of a text takes it and leaves the rest of the text open.
-/
import Mathlib.Data.List.Basic
import Mathlib.Data.List.TakeWhile
import EpubAccess.Json.Table

namespace EpubAccess.Json

/-! ## §1. The rest of a scan. -/

namespace Lexer

/-- The tokens of a text whose front has been scanned. -/
def run (l : Lexer) (cs : List Char) : Option (List Token) := (cs.foldlM step l).bind finish

theorem run_cons (l : Lexer) (c : Char) (cs : List Char) :
    run l (c :: cs) = (step l c).bind fun l => run l cs := by
  simp [run, Option.bind_assoc]

theorem run_append {l l' : Lexer} {front : List Char} (h : front.foldlM step l = some l')
    (rest : List Char) : run l (front ++ rest) = run l' rest := by
  simp [run, List.foldlM_append, h]

theorem run_fresh {done : List Token} {c : Char} {l : Lexer} (h : fresh done c = some l)
    (rest : List Char) : run ⟨done, .between⟩ (c :: rest) = run l rest := by
  rw [run_cons]
  show (fresh done c).bind _ = _
  rw [h]
  rfl

/-- A bracket, colon or comma is a token of its own. -/
theorem run_mark {done : List Token} {c : Char} {t : Token}
    (h : fresh done c = some (emit done t)) (rest : List Char) :
    run ⟨done, .between⟩ (c :: rest) = run ⟨t :: done, .between⟩ rest :=
  run_fresh h rest

end Lexer

theorem tokens?_eq_run (cs : List Char) : tokens? cs = Lexer.run ⟨[], .between⟩ cs := rfl

/-! ## §2. Quoted texts. -/

/-- What a quoted character is read as: a UTF-16 unit if it is a control
character without a letter of its own, else itself. -/
def Piece.ofChar (c : Char) : Piece :=
  if c.toNat < 32 ∧ c ∉ ['\x08', '\x0c', '\n', '\r', '\t'] then .unit c.toNat else .char c

/-- The pieces of a text that was quoted. -/
def pieces (s : String) : List Piece := s.toList.map Piece.ofChar

/-- Reading back the escape by number. -/
theorem foldlM_unit (done : List Token) (seen : List Piece) {n : Nat} (hn : n < 32) :
    ['\\', 'u', '0', '0', Text.Hex.lowerDigit (n / 16), Text.Hex.lowerDigit (n % 16)].foldlM
        Lexer.step ⟨done, .text seen⟩
      = some ⟨done, .text (.unit n :: seen)⟩ := by
  have hhigh := (Text.Hex.value?_digit (n / 16) (by omega)).2
  have hlow := (Text.Hex.value?_digit (n % 16) (by omega)).2
  show (Lexer.step ⟨done, .unit seen 2 0⟩ (Text.Hex.lowerDigit (n / 16))).bind
    (fun l => (Lexer.step l (Text.Hex.lowerDigit (n % 16))).bind some) = _
  simp only [Lexer.step, hhigh, hlow, Option.bind_some]
  simp only [Option.some.injEq, Lexer.mk.injEq, true_and, Scan.text.injEq, List.cons.injEq,
    Piece.unit.injEq, and_true]
  omega

/-- Whatever a character is written as inside quotes is read as one piece. -/
theorem foldlM_escaped (done : List Token) (seen : List Piece) (c : Char) :
    (escaped c).foldlM Lexer.step ⟨done, .text seen⟩
      = some ⟨done, .text (.ofChar c :: seen)⟩ := by
  by_cases hletter : c ∈ ['"', '\\', '\x08', '\x0c', '\n', '\r', '\t']
  · -- a backslash and a letter
    simp only [List.mem_cons, List.not_mem_nil, or_false] at hletter
    rcases hletter with rfl | rfl | rfl | rfl | rfl | rfl | rfl <;> rfl
  · simp only [List.mem_cons, List.not_mem_nil, or_false, not_or] at hletter
    obtain ⟨hquote, hslash, hb, hf, hn, hr, ht⟩ := hletter
    by_cases hcontrol : c.toNat < 32
    · -- a control character without a letter goes by its number
      have hpiece : Piece.ofChar c = .unit c.toNat := by
        simp [Piece.ofChar, hcontrol, hb, hf, hn, hr, ht]
      rw [hpiece, ← foldlM_unit done seen hcontrol]
      simp [escaped, hquote, hslash, hb, hf, hn, hr, ht, hcontrol]
    · -- any other character stands for itself
      have hpiece : Piece.ofChar c = .char c := by simp [Piece.ofChar, hcontrol]
      have hself : escaped c = [c] := by
        simp [escaped, hquote, hslash, hb, hf, hn, hr, ht, hcontrol]
      rw [hpiece, hself]
      simp [Lexer.step, hquote, hslash, hcontrol]

theorem foldlM_flatMap_escaped (done : List Token) (seen : List Piece) (cs : List Char) :
    (cs.flatMap escaped).foldlM Lexer.step ⟨done, .text seen⟩
      = some ⟨done, .text ((cs.map Piece.ofChar).reverse ++ seen)⟩ := by
  induction cs generalizing seen with
  | nil => rfl
  | cons c cs ih =>
    rw [List.flatMap_cons, List.foldlM_append, foldlM_escaped]
    show (cs.flatMap escaped).foldlM Lexer.step ⟨done, .text (.ofChar c :: seen)⟩ = _
    rw [ih, List.map_cons, List.reverse_cons, List.append_assoc]
    rfl

/-- **A quoted text is one token.** -/
theorem run_quoted (done : List Token) (s : String) (rest : List Char) :
    Lexer.run ⟨done, .between⟩ (quotedChars s ++ rest)
      = Lexer.run ⟨.text (pieces s) :: done, .between⟩ rest := by
  have hbody := Lexer.run_append (foldlM_flatMap_escaped done [] s.toList) ('"' :: rest)
  rw [List.append_nil] at hbody
  have hquoted : quotedChars s ++ rest = '"' :: (s.toList.flatMap escaped ++ '"' :: rest) := by
    simp [quotedChars]
  rw [hquoted, Lexer.run_fresh (l := ⟨done, .text []⟩) rfl, hbody, Lexer.run_cons]
  show Lexer.run ⟨.text (s.toList.map Piece.ofChar).reverse.reverse :: done, .between⟩ rest = _
  rw [List.reverse_reverse]
  rfl

/-- A unit that is no half of a pair is a character by itself. -/
theorem characters?_unit {n : Nat} (hn : n < 0xD800) (ps : List Piece) :
    characters? (.unit n :: ps) = (characters? ps).map (Char.ofNat n :: ·) := by
  have hhigh : isHighUnit n = false := by simp [isHighUnit]; omega
  have hlow : isLowUnit n = false := by simp [isLowUnit]; omega
  match ps with
  | [] => simp [characters?, hhigh, hlow]
  | .char c :: rest =>
    simp only [characters?, hhigh, hlow, Bool.or_self, Bool.false_eq_true, if_false,
      Option.map_map]
    rfl
  | .unit m :: rest => simp [characters?, hhigh, hlow]

theorem characters?_map_ofChar (cs : List Char) : characters? (cs.map Piece.ofChar) = some cs := by
  induction cs with
  | nil => rfl
  | cons c cs ih =>
    rw [List.map_cons, Piece.ofChar]
    split
    · next h =>
      rw [characters?_unit (by omega), ih, Option.map_some, Char.ofNat_toNat]
    · rw [characters?, ih]
      rfl

/-- **A quoted text reads back.** -/
theorem text?_pieces (s : String) : text? (pieces s) = some s := by
  rw [text?, pieces, characters?_map_ofChar]
  exact congrArg some String.ofList_toList

/-! ## §3. Numbers. -/

/-- Nothing follows that would continue a number. -/
def Delimited (rest : List Char) : Prop := ∀ c ∈ rest.head?, isNumberChar c = false

theorem delimited_cons {c : Char} {cs : List Char} (h : isNumberChar c = false) :
    Delimited (c :: cs) := by
  intro d hd
  obtain rfl : c = d := by simpa using hd
  exact h

theorem fresh_of_isDigit (done : List Token) {c : Char} (h : isDigit c = true) :
    Lexer.fresh done c = some ⟨done, .number [c]⟩ := by
  have hrange : 48 ≤ c.toNat ∧ c.toNat ≤ 57 := by
    simpa [isDigit, digit?] using h
  have hne : ∀ d : Char, ¬(48 ≤ d.toNat ∧ d.toNat ≤ 57) → c ≠ d := by
    rintro d hd rfl
    exact hd hrange
  simp [Lexer.fresh, h, hne ' ' (by decide), hne '\n' (by decide), hne '\r' (by decide),
    hne '\t' (by decide), hne '[' (by decide), hne ']' (by decide), hne '\x7b' (by decide),
    hne '\x7d' (by decide), hne ':' (by decide), hne ',' (by decide), hne '"' (by decide),
    hne 'n' (by decide), hne 't' (by decide), hne 'f' (by decide)]

theorem isNumberChar_of_isDigit {c : Char} (h : isDigit c = true) : isNumberChar c = true := by
  simp [isNumberChar, h]

theorem foldlM_number (done : List Token) (seen : List Char) {cs : List Char}
    (h : ∀ c ∈ cs, isNumberChar c = true) :
    cs.foldlM Lexer.step ⟨done, .number seen⟩ = some ⟨done, .number (cs.reverse ++ seen)⟩ := by
  induction cs generalizing seen with
  | nil => rfl
  | cons c cs ih =>
    have hstep : Lexer.step ⟨done, .number seen⟩ c = some ⟨done, .number (c :: seen)⟩ := by
      simp [Lexer.step, h c (by simp)]
    rw [List.foldlM_cons, hstep]
    show cs.foldlM Lexer.step ⟨done, .number (c :: seen)⟩ = _
    rw [ih (c :: seen) fun d hd => h d (by simp [hd]), List.reverse_cons, List.append_assoc]
    rfl

/-- A number ends where the text does or before the first character that does
not belong to it. -/
theorem run_number_end (done : List Token) {cs rest : List Char} {n : Numeral}
    (hn : Numeral.ofChars? cs = some n) (hrest : Delimited rest) :
    Lexer.run ⟨done, .number cs.reverse⟩ rest = Lexer.run ⟨.number n :: done, .between⟩ rest := by
  cases rest with
  | nil => simp [Lexer.run, Lexer.finish, hn]
  | cons c rest =>
    have hc : isNumberChar c = false := hrest c rfl
    rw [Lexer.run_cons, Lexer.run_cons]
    simp only [Lexer.step, hc, List.reverse_reverse, hn, Option.bind_some, Bool.false_eq_true,
      if_false]

/-- **The characters of a number are one token.** -/
theorem run_number (done : List Token) {c : Char} {cs rest : List Char} {n : Numeral}
    (hfirst : c = '-' ∨ isDigit c = true) (hcs : ∀ d ∈ cs, isDigit d = true)
    (hn : Numeral.ofChars? (c :: cs) = some n) (hrest : Delimited rest) :
    Lexer.run ⟨done, .between⟩ (c :: cs ++ rest)
      = Lexer.run ⟨.number n :: done, .between⟩ rest := by
  have hfresh : Lexer.fresh done c = some ⟨done, .number [c]⟩ := by
    rcases hfirst with rfl | hdigit
    · rfl
    · exact fresh_of_isDigit done hdigit
  have hscan := foldlM_number done [c] fun d hd => isNumberChar_of_isDigit (hcs d hd)
  rw [List.cons_append, Lexer.run_fresh hfresh, Lexer.run_append hscan, ← List.reverse_cons,
    run_number_end done hn hrest]

/-! ## §4. Decimal digits. -/

theorem isDigit_of_mem_toDigits {n : Nat} {c : Char} (h : c ∈ Nat.toDigits 10 n) :
    isDigit c = true := by
  have hascii := Nat.isDigit_of_mem_toDigits (by omega) (by omega) h
  simp only [Char.isDigit, Bool.and_eq_true, decide_eq_true_eq, ge_iff_le,
    UInt32.le_iff_toNat_le] at hascii
  have hrange : 48 ≤ c.toNat ∧ c.toNat ≤ 57 := hascii
  simp [isDigit, digit?, hrange]

namespace Shortest

theorem toNat_digitChar : ∀ d < 10, (Nat.digitChar d).toNat - 48 = d := by decide

theorem digits_of_lt {n : Nat} (h : n < 10) : digits n = [n] := by
  rw [digits, Nat.toDigits_of_lt_base h, List.map_singleton, toNat_digitChar n h]

theorem digits_of_le {n : Nat} (h : 10 ≤ n) : digits n = digits (n / 10) ++ [n % 10] := by
  rw [digits, Nat.toDigits_of_base_le (by omega) h, List.map_append, List.map_singleton,
    toNat_digitChar (n % 10) (by omega), digits]

/-- No zero stands in front. -/
theorem digits_of_pos {n : Nat} (h : 0 < n) : ∃ d ds, digits n = d :: ds ∧ d ≠ 0 := by
  induction n using Nat.strongRecOn with
  | ind n ih =>
    rcases Nat.lt_or_ge n 10 with hlt | hge
    · exact ⟨n, [], digits_of_lt hlt, by omega⟩
    · obtain ⟨d, ds, hds, hd⟩ := ih (n / 10) (by omega) (by omega)
      exact ⟨d, ds ++ [n % 10], by rw [digits_of_le hge, hds, List.cons_append], hd⟩

end Shortest

theorem filterMap_digit?_toDigits (n : Nat) :
    (Nat.toDigits 10 n).filterMap digit? = Shortest.digits n := by
  have hsome : ∀ c ∈ Nat.toDigits 10 n, digit? c = some (c.toNat - 48) := by
    intro c hc
    have hdigit := isDigit_of_mem_toDigits hc
    simp only [isDigit, digit?] at hdigit ⊢
    split at hdigit
    · next h => rw [if_pos h]
    · simp at hdigit
  rw [Shortest.digits, ← List.filterMap_eq_map']
  exact List.filterMap_congr hsome

theorem wholePart?_toDigits (n : Nat) :
    wholePart? (Nat.toDigits 10 n) = some (Shortest.digits n, []) := by
  have hall : ∀ c ∈ Nat.toDigits 10 n, isDigit c = true := fun c hc => isDigit_of_mem_toDigits hc
  have hfront : (Nat.toDigits 10 n).takeWhile isDigit = Nat.toDigits 10 n :=
    List.takeWhile_eq_self_iff.mpr hall
  have hback : (Nat.toDigits 10 n).dropWhile isDigit = [] :=
    List.dropWhile_eq_nil_iff.mpr hall
  rcases Nat.eq_zero_or_pos n with rfl | hpos
  · rfl
  · obtain ⟨d, ds, hds, hd⟩ := Shortest.digits_of_pos hpos
    have hdigits : digits1? (Nat.toDigits 10 n) = some (d :: ds, []) := by
      rw [digits1?, hfront, hback, filterMap_digit?_toDigits, hds]
    rw [wholePart?, hdigits, hds]
    split
    · next h =>
      simp only [Option.some.injEq, Prod.mk.injEq, List.cons.injEq] at h
      exact absurd h.1.1 hd
    · rfl

/-! ## §5. Whole numbers. -/

/-- The whole number fits a signed or an unsigned word. -/
def FitsWord (i : Int) : Prop := -0x8000000000000000 ≤ i ∧ i < 0x10000000000000000

namespace Numeral

/-- A whole number as it is written. -/
def ofWhole (i : Int) : Numeral :=
  { negative := decide (i < 0), whole := Shortest.digits i.natAbs, fraction := none,
    exponent := none }

theorem ofChars?_wholeChars (i : Int) : ofChars? (wholeChars i) = some (ofWhole i) := by
  have hwhole := wholePart?_toDigits i.natAbs
  by_cases hneg : i < 0
  · simp [wholeChars, hneg, ofChars?, hwhole, fractionPart?, exponentPart?, ofWhole]
  · -- no minus sign stands in front
    have hplain : ∀ cs, Nat.toDigits 10 i.natAbs ≠ '-' :: cs := by
      intro cs h
      exact absurd (isDigit_of_mem_toDigits (h ▸ List.mem_cons_self)) (by decide)
    simp [wholeChars, hneg, ofChars?, hwhole, fractionPart?, exponentPart?, ofWhole]

/-- A whole number begins with a minus sign or a digit, and digits follow. -/
theorem wholeChars_eq_cons (i : Int) : ∃ c cs, wholeChars i = c :: cs ∧
    (c = '-' ∨ isDigit c = true) ∧ ∀ d ∈ cs, isDigit d = true := by
  have hdigits : ∀ c ∈ Nat.toDigits 10 i.natAbs, isDigit c = true :=
    fun c hc => isDigit_of_mem_toDigits hc
  by_cases hneg : i < 0
  · exact ⟨'-', Nat.toDigits 10 i.natAbs, by simp [wholeChars, hneg], .inl rfl, hdigits⟩
  · obtain ⟨c, cs, hcs⟩ := List.exists_cons_of_ne_nil (Nat.toDigits_ne_nil (n := i.natAbs))
    rw [hcs] at hdigits
    exact ⟨c, cs, by simp [wholeChars, hneg, hcs], .inr (hdigits c (by simp)),
      fun d hd => hdigits d (by simp [hd])⟩

/-- **A whole number is one token.** -/
theorem run_whole (done : List Token) (i : Int) {rest : List Char} (hrest : Delimited rest) :
    Lexer.run ⟨done, .between⟩ (wholeChars i ++ rest)
      = Lexer.run ⟨.number (ofWhole i) :: done, .between⟩ rest := by
  have hn := ofChars?_wholeChars i
  obtain ⟨c, cs, hchars, hfirst, hcs⟩ := wholeChars_eq_cons i
  rw [hchars] at hn ⊢
  exact run_number done hfirst hcs hn hrest

/-! ### Reading the value. -/

theorem gather_append {bound m n : Nat} {ds : List Nat} (h : gather bound n ds = (m, []))
    (es : List Nat) : gather bound n (ds ++ es) = gather bound m es := by
  induction ds generalizing n with
  | nil =>
    obtain rfl : n = m := by simpa [gather] using h
    rfl
  | cons d ds ih =>
    rw [gather] at h
    rw [List.cons_append, gather]
    split at h
    · next hd => rw [if_pos hd, ih h]
    · simp at h

/-- The digits of a number below the bound give the number. -/
theorem gather_digits {bound n : Nat} (h : n < bound) :
    gather bound 0 (Shortest.digits n) = (n, []) := by
  induction n using Nat.strongRecOn with
  | ind n ih =>
    rcases Nat.lt_or_ge n 10 with hlt | hge
    · simp [Shortest.digits_of_lt hlt, gather, h]
    · have hfront := ih (n / 10) (by omega) (by omega)
      have hvalue : 10 * (n / 10) + n % 10 = n := by omega
      rw [Shortest.digits_of_le hge, gather_append hfront]
      simp [gather, hvalue, h]

theorem gather_lt {bound n : Nat} (h : n < bound) (ds : List Nat) :
    (gather bound n ds).1 < bound := by
  induction ds generalizing n with
  | nil => exact h
  | cons d ds ih =>
    rw [gather]
    split
    · next hd => exact ih hd
    · exact h

/-- **A whole number that fits a word reads back.** -/
theorem number?_ofWhole {i : Int} (h : FitsWord i) : number? (ofWhole i) = some (.whole i) := by
  obtain ⟨hlow, hhigh⟩ := h
  have hbound : i.natAbs < wordBound := by
    show i.natAbs < 0x10000000000000000
    omega
  have hwhole : (ofWhole i).whole? = some i := by
    by_cases hneg : i < 0
    · have hmagnitude : 0 < i.natAbs ∧ i.natAbs ≤ 0x8000000000000000 := by omega
      have hsign : -(i.natAbs : Int) = i := by omega
      simp only [whole?, ofWhole, gather_digits hbound, hneg, hsign, decide_true, if_pos hmagnitude]
      rfl
    · have hsign : (i.natAbs : Int) = i := by omega
      simp only [whole?, ofWhole, gather_digits hbound, hneg, hsign, decide_false]
      rfl
  rw [number?, hwhole]

/-- What is read as a whole number fits a word. -/
theorem fitsWord_of_number? {n : Numeral} {i : Int} (h : number? n = some (.whole i)) :
    FitsWord i := by
  have hlt : (gather wordBound 0 n.whole).1 < 0x10000000000000000 :=
    gather_lt (by decide) n.whole
  have hwhole : n.whole? = some i := by
    rw [number?] at h
    split at h
    · next j hj => simpa [hj] using h
    · simp at h
  simp only [whole?] at hwhole
  split at hwhole
  · simp at hwhole
  · split at hwhole
    · simp at hwhole
    · split at hwhole
      · -- a minus sign
        split at hwhole
        · next hmagnitude =>
          simp only [Option.some.injEq] at hwhole
          constructor <;> omega
        · simp at hwhole
      · simp only [Option.some.injEq] at hwhole
        constructor <;> omega

end Numeral

end EpubAccess.Json
