/-
  EpubAccess.Text.Percent
  ────────────────────────────────
  Percent encoding of texts, octet by octet.

  `encode` keeps ASCII letters, digits and `-`, `_`, `.`, `~` and writes every
  other octet of the UTF-8 form as a percent sign and two upper-case digits.
  `decode?` replaces well-formed sequences, leaves a percent sign that starts
  none as it is, gives a plus sign no meaning, and fails when the octets it
  obtains are not UTF-8.  `decodeOctets_encodeOctets` says that decoding
  undoes encoding on octets.
-/
import EpubAccess.Text.Number

namespace EpubAccess.Text.Percent

/-! ## Octets. -/

/-- Octets that stand for themselves in an encoded text. -/
def isUnreserved (b : UInt8) : Bool :=
  let n := b.toNat
  (48 ≤ n && n ≤ 57) || (65 ≤ n && n ≤ 90) || (97 ≤ n && n ≤ 122)
    || n == 45 || n == 46 || n == 95 || n == 126

/-- The two digits of an octet. -/
def digits (b : UInt8) : List UInt8 :=
  [UInt8.ofNat (Hex.upperDigit (b.toNat / 16)).toNat,
   UInt8.ofNat (Hex.upperDigit (b.toNat % 16)).toNat]

/-- One octet, encoded. -/
def encodeOctet (b : UInt8) : List UInt8 :=
  if isUnreserved b then [b] else 37 :: digits b

/-- A row of octets, encoded. -/
def encodeOctets (bs : List UInt8) : List UInt8 := bs.flatMap encodeOctet

/-- The octet that two digits denote. -/
def octet? (high low : UInt8) : Option UInt8 :=
  match Hex.value? (Char.ofNat high.toNat), Hex.value? (Char.ofNat low.toNat) with
  | some h, some l => some (UInt8.ofNat (16 * h + l))
  | _, _ => none

/-- Well-formed sequences become the octet they denote; all else stays. -/
def decodeOctets : List UInt8 → List UInt8
  | [] => []
  | [b] => [b]
  | [b, c] => [b, c]
  | b :: c :: d :: rest =>
    if b = 37 then
      match octet? c d with
      | some o => o :: decodeOctets rest
      | none => b :: decodeOctets (c :: d :: rest)
    else b :: decodeOctets (c :: d :: rest)

/-! ## Decoding undoes encoding. -/

theorem octet?_digits (b : UInt8) :
    octet? (UInt8.ofNat (Hex.upperDigit (b.toNat / 16)).toNat)
      (UInt8.ofNat (Hex.upperDigit (b.toNat % 16)).toNat) = some b := by
  have h : ∀ n < 256,
      octet? (UInt8.ofNat (Hex.upperDigit ((UInt8.ofNat n).toNat / 16)).toNat)
        (UInt8.ofNat (Hex.upperDigit ((UInt8.ofNat n).toNat % 16)).toNat)
          = some (UInt8.ofNat n) := by decide +kernel
  simpa using h b.toNat (UInt8.toNat_lt b)

theorem decodeOctets_cons_of_ne {b : UInt8} (h : b ≠ 37) (rest : List UInt8) :
    decodeOctets (b :: rest) = b :: decodeOctets rest := by
  match rest with
  | [] => rfl
  | [_] => rfl
  | _ :: _ :: _ => simp [decodeOctets, h]

/-- **Decoding undoes encoding**, whatever follows. -/
theorem decodeOctets_encodeOctets (bs rest : List UInt8) :
    decodeOctets (encodeOctets bs ++ rest) = bs ++ decodeOctets rest := by
  induction bs with
  | nil => rfl
  | cons b bs ih =>
    simp only [encodeOctets, List.flatMap_cons, List.append_assoc] at ih ⊢
    by_cases hb : isUnreserved b = true
    · have hne : b ≠ 37 := by rintro rfl; simp [isUnreserved] at hb
      simp only [encodeOctet, hb, if_true, List.singleton_append]
      rw [decodeOctets_cons_of_ne hne, ih]
      rfl
    · simp [encodeOctet, hb, digits, decodeOctets, octet?_digits, ih]

/-! ## Texts. -/

/-- The octets of a text's UTF-8 form. -/
def octets (s : String) : List UInt8 := s.toUTF8.data.toList

/-- The text of a row of octets, if they are UTF-8. -/
def text? (bs : List UInt8) : Option String :=
  String.fromUTF8? ⟨bs.toArray⟩

/-- A text, encoded. -/
def encode (s : String) : String :=
  String.ofList ((encodeOctets (octets s)).map fun b => Char.ofNat b.toNat)

/-- A text, decoded; `none` when the outcome is not UTF-8. -/
def decode? (s : String) : Option String :=
  text? (decodeOctets (octets s))

end EpubAccess.Text.Percent
