/-
  EpubAccess.Text.Blank
  ────────────────────────────────
  Texts cut into pieces, and white space.

  `cutAt` removes every separator and gives what stands between them, empty
  pieces included, so there is one piece more than there are separators.

  `isBlank` is the property White_Space; it holds of the four characters that
  `Char.isWhitespace` accepts (`isBlank_of_isWhitespace`) and of twenty-one
  more.  `trim` removes blanks at both ends, `words` gives the maximal runs
  of other characters.
-/

namespace EpubAccess.Text

/-! ## Pieces. -/

/-- The pieces of a text between the characters at which it is cut. -/
def cutAt (stop : Char → Bool) : List Char → List (List Char)
  | [] => [[]]
  | c :: cs =>
    if stop c then [] :: cutAt stop cs
    else match cutAt stop cs with
      | [] => [[c]]
      | piece :: rest => (c :: piece) :: rest

/-! ## White space. -/

/-- The property White_Space. -/
def isBlank (c : Char) : Bool :=
  let n := c.toNat
  (9 ≤ n && n ≤ 13) || n == 0x20 || n == 0x85 || n == 0xA0 || n == 0x1680
    || (0x2000 ≤ n && n ≤ 0x200A) || n == 0x2028 || n == 0x2029 || n == 0x202F
    || n == 0x205F || n == 0x3000

/-- The four characters of the ASCII test are blank. -/
theorem isBlank_of_isWhitespace {c : Char} (h : c.isWhitespace = true) : isBlank c = true := by
  simp only [Char.isWhitespace, Bool.or_eq_true, decide_eq_true_eq] at h
  rcases h with ((h | h) | h) | h <;> subst h <;> decide

/-- A text without the blanks at its ends. -/
def trim (cs : List Char) : List Char :=
  ((cs.dropWhile isBlank).reverse.dropWhile isBlank).reverse

/-- The maximal runs of characters that are not blank, in order. -/
def words (cs : List Char) : List (List Char) :=
  (cutAt isBlank cs).filter fun piece => !piece.isEmpty

end EpubAccess.Text
