/-
  EpubAccess.Proofs.Libraries.Links
  ────────────────────────────────
  Links lead to the publication they were made for.

    • `decode?_encode` — percent-decoding undoes percent-encoding on every
      text,
    • `idOfUrl?_urlForId_append` — the identifier is read back from its link,
      whatever is appended to the link,
    • `publication_links` — so the link resolves to whatever is registered
      under the identifier, and different identifiers have different links.

  An encoded text consists of ASCII characters and holds no slash.  The first
  makes its characters its octets, the second makes the slash after it the
  first one of the link.
-/
import Mathlib.Data.List.Basic
import EpubAccess.Library

namespace EpubAccess

/-! ## §1. Encoded texts. -/

namespace Text.Percent

theorem text?_octets (s : String) : text? (octets s) = some s := by
  have hvalid : s.toByteArray.IsValidUTF8 := s.isValidUTF8
  show String.fromUTF8? s.toByteArray = some s
  rw [String.fromUTF8?, dif_pos hvalid]
  rfl

/-- The octets of ASCII characters are the characters themselves. -/
theorem octets_ofList_ascii (bs : List UInt8) (h : ∀ b ∈ bs, b.toNat < 128) :
    octets (String.ofList (bs.map fun b => Char.ofNat b.toNat)) = bs := by
  have hone : ∀ b ∈ bs, String.utf8EncodeChar (Char.ofNat b.toNat) = [b] := by
    intro b hb
    have htable : ∀ n < 128, String.utf8EncodeChar (Char.ofNat n) = [UInt8.ofNat n] := by
      decide +kernel
    simpa using htable b.toNat (h b hb)
  show (String.ofList (bs.map fun b => Char.ofNat b.toNat)).toByteArray.data.toList = bs
  rw [String.toByteArray_ofList, List.utf8Encode, List.data_toByteArray, List.flatMap_map,
    List.flatMap_congr hone, List.flatMap_singleton']

/-- What an octet is encoded with is ASCII and never a slash. -/
theorem encodeOctet_plain (b : UInt8) :
    ∀ e ∈ encodeOctet b, e.toNat < 128 ∧ Char.ofNat e.toNat ≠ '/' := by
  have htable : ∀ n < 256, ∀ e ∈ encodeOctet (UInt8.ofNat n),
      e.toNat < 128 ∧ Char.ofNat e.toNat ≠ '/' := by decide +kernel
  simpa using htable b.toNat (UInt8.toNat_lt b)

theorem encodeOctets_plain (bs : List UInt8) :
    ∀ e ∈ encodeOctets bs, e.toNat < 128 ∧ Char.ofNat e.toNat ≠ '/' := by
  intro e he
  obtain ⟨b, _, hb⟩ := List.mem_flatMap.mp he
  exact encodeOctet_plain b e hb

theorem octets_encode (s : String) : octets (encode s) = encodeOctets (octets s) :=
  octets_ofList_ascii _ fun e he => (encodeOctets_plain _ e he).1

/-- **Decoding undoes encoding**, also where a text looks encoded already. -/
theorem decode?_encode (s : String) : decode? (encode s) = some s := by
  have hround : decodeOctets (encodeOctets (octets s)) = octets s := by
    simpa [decodeOctets] using decodeOctets_encodeOctets (octets s) []
  rw [decode?, octets_encode, hround, text?_octets]

theorem encode_injective : Function.Injective encode := by
  intro s t h
  have hdecoded := congrArg decode? h
  rw [decode?_encode, decode?_encode] at hdecoded
  exact Option.some.inj hdecoded

theorem slash_not_mem_encode (s : String) : ∀ c ∈ (encode s).toList, c ≠ '/' := by
  intro c hc
  rw [encode, String.toList_ofList] at hc
  obtain ⟨e, he, rfl⟩ := List.mem_map.mp hc
  exact (encodeOctets_plain _ e he).2

/-- Only the empty text has nothing to encode. -/
theorem encode_toList_ne_nil {s : String} (h : s ≠ "") : (encode s).toList ≠ [] := by
  intro hnil
  have hempty : encode s = encode "" := String.toList_inj.mp (by rw [hnil]; rfl)
  exact h (encode_injective hempty)

end Text.Percent

/-! ## §2. Links. -/

namespace Library

/-- The identifier of a link is what stands before its first slash. -/
theorem idOfUrl?_urlForId_append {id : String} (hid : id ≠ "") (suffix : String) :
    idOfUrl? (urlForId id ++ suffix) = some id := by
  have hurl : (urlForId id ++ suffix).toList
      = scheme.toList ++ ((Text.Percent.encode id).toList ++ '/' :: suffix.toList) := by
    simp [urlForId, String.toList_append]
  have hhost : ((Text.Percent.encode id).toList ++ '/' :: suffix.toList).takeWhile (· != '/')
      = (Text.Percent.encode id).toList := by
    rw [List.takeWhile_append_of_pos fun c hc => by
      simpa using Text.Percent.slash_not_mem_encode id c hc]
    simp
  rw [idOfUrl?, hurl, if_pos (by simp), ← String.length_toList, List.drop_left]
  simp only [hhost]
  rw [if_neg (by simpa using Text.Percent.encode_toList_ne_nil hid), String.ofList_toList,
    Text.Percent.decode?_encode]

theorem urlForId_injective : Function.Injective urlForId := by
  intro u v h
  have hlists := congrArg String.toList h
  simp only [urlForId, String.toList_append, List.append_assoc, List.append_cancel_left_eq,
    List.append_cancel_right_eq] at hlists
  exact Text.Percent.encode_injective (String.toList_inj.mp hlists)

/-- **Links resolve**: the link of an identifier, with anything appended, leads
to the package registered under the identifier, and no two identifiers have
one link. -/
theorem publication_links (l : Library) :
    (∀ id suffix : String, id ≠ "" →
      l.packageForUrl (urlForId id ++ suffix) = l.packageForUniqueId id) ∧
    Function.Injective urlForId := by
  refine ⟨?_, urlForId_injective⟩
  intro id suffix hid
  rw [packageForUrl, idOfUrl?_urlForId_append hid]
  rfl

/-- An identifier that looks encoded, with a slash and characters outside
ASCII, and the publication that its link leads to. -/
theorem publication_links_sample :
    "50%25/€ +@" ≠ "" ∧
    (Library.empty.enter "/b.epub" "50%25/€ +@" 7).packageForUrl
      (urlForId "50%25/€ +@" ++ "text/1.xhtml") = some 7 := by
  refine ⟨by decide, ?_⟩
  rw [(publication_links _).1 _ _ (by decide)]
  simp [packageForUniqueId, enter]

end Library

end EpubAccess
