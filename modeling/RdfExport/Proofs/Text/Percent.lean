import RdfExport.Proofs.Rdf.WellFormed
import RdfExport.Proofs.Text.Utf8
import RdfExport.Text.Percent

/-!
# RdfExport.Proofs.Text.Percent

Octets come back from a percent-encoded text, whatever the octets are.

* `decode_encodeOctet`: one escape, whatever follows.
* `decode_encode`, `formDecode_formEncode`: a value of a query string and a value of a form.
* `isValueChar_of_mem_encode`: the characters that a value of a query string has.
-/

namespace RdfExport

namespace Percent

/-! ## One octet -/

theorem encode_encodeOctet (b : UInt8) :
    Utf8.encode (encodeOctet b) =
      [0x25, octet (Hex.upper (b.toNat / 16)), octet (Hex.upper (b.toNat % 16))] := by
  have hb : b.toNat < 256 := b.toNat_lt
  have hhigh := (Hex.upper_ascii (n := b.toNat / 16) (by omega)).2
  have hlow := (Hex.upper_ascii (n := b.toNat % 16) (by omega)).2
  rw [encodeOctet, Utf8.encode_cons_ascii (by decide), Utf8.encode_cons_ascii hhigh,
    Utf8.encode_cons_ascii hlow, Utf8.encode_nil]
  rfl

theorem decode_encodeOctet (b : UInt8) (rest : Bytes) :
    decode (Utf8.encode (encodeOctet b) ++ rest) = b :: decode rest := by
  have hb : b.toNat < 256 := b.toNat_lt
  have hhigh : b.toNat / 16 < 16 := by omega
  have hlow : b.toNat % 16 < 16 := by omega
  have hvalue : UInt8.ofNat (b.toNat / 16 * 16 + b.toNat % 16) = b :=
    Utf8.eq_ofNat (by omega)
  rw [encode_encodeOctet, List.cons_append, List.cons_append, List.cons_append, List.nil_append,
    decode, Utf8.ofUInt8_octet (Hex.upper_ascii hhigh).2,
    Utf8.ofUInt8_octet (Hex.upper_ascii hlow).2, Hex.value?_upper hhigh, Hex.value?_upper hlow]
  simp only [hvalue]

theorem decode_cons {b : UInt8} (hb : b ≠ 0x25) (rest : Bytes) :
    decode (b :: rest) = b :: decode rest := by
  rw [decode]
  rintro x y tail h -
  exact hb h

theorem encode_ofUInt8 {b : UInt8} (hb : b.toNat < 0x80) :
    Utf8.encode [Char.ofUInt8 b] = [b] := by
  have hnat : (Char.ofUInt8 b).toNat = b.toNat := rfl
  have hoctet : octet (Char.ofUInt8 b) = b :=
    UInt8.toNat_inj.1 (by rw [Utf8.octet_toNat (by omega), hnat])
  rw [Utf8.encode_cons_ascii (by omega), Utf8.encode_nil, hoctet]

theorem eq_octet {b : UInt8} {c : Char} (h : Char.ofUInt8 b = c) : b = octet c := by
  subst h
  exact UInt8.toNat_inj.1 (Nat.mod_eq_of_lt b.toNat_lt).symm

theorem ascii_of_plain (marks : List Char) (hmarks : ∀ c ∈ marks, c.toNat < 0x80) {b : UInt8}
    (h : (Char.ofUInt8 b).isAlphanum = true ∨ Char.ofUInt8 b ∈ marks) : b.toNat < 0x80 := by
  rcases h with h | h
  · exact (Rdf.isAlphanum_range h).2
  · exact hmarks _ h

theorem isUnreserved_ascii {b : UInt8} (h : isUnreserved b = true) :
    b.toNat < 0x80 ∧ b ≠ 0x25 := by
  constructor
  · refine ascii_of_plain ['-', '.', '_', '~'] (by simp) ?_
    simpa [isUnreserved, or_assoc] using h
  · rintro rfl
    exact absurd h (by decide)

theorem isFormPlain_ascii {b : UInt8} (h : isFormPlain b = true) :
    b.toNat < 0x80 ∧ b ≠ 0x25 ∧ b ≠ 0x2B := by
  refine ⟨?_, ?_, ?_⟩
  · refine ascii_of_plain ['*', '-', '.', '_'] (by simp) ?_
    simpa [isFormPlain, or_assoc] using h
  · rintro rfl
    exact absurd h (by decide)
  · rintro rfl
    exact absurd h (by decide)

theorem mem_encodeOctet {b : UInt8} {c : Char} (h : c ∈ encodeOctet b) :
    c = '%' ∨ ∃ n < 16, c = Hex.upper n := by
  have hb : b.toNat < 256 := b.toNat_lt
  simp only [encodeOctet, List.mem_cons, List.not_mem_nil, or_false] at h
  rcases h with rfl | rfl | rfl
  · exact .inl rfl
  · exact .inr ⟨_, by omega, rfl⟩
  · exact .inr ⟨_, by omega, rfl⟩

/-! ## Texts -/

/-- Octets that are written one after the other are read back if each of them is, whatever
follows. -/
theorem decode_flatMap {write : UInt8 → List Char} {read : UInt8 → UInt8}
    (hone : ∀ b rest, decode ((Utf8.encode (write b)).map read ++ rest) = b :: decode rest)
    (bytes : Bytes) : decode ((Utf8.encode (bytes.flatMap write)).map read) = bytes := by
  induction bytes with
  | nil => rfl
  | cons b bytes ih =>
    rw [List.flatMap_cons, Utf8.encode_append, List.map_append, hone, ih]

theorem ofString_ofList (cs : List Char) : Utf8.ofString (String.ofList cs) = Utf8.encode cs := by
  rw [Utf8.ofString, String.toList_ofList]

theorem decode_encode (s : String) : decode (Utf8.ofString (encode s)) = Utf8.ofString s := by
  have hone (b : UInt8) (rest : Bytes) :
      decode ((Utf8.encode (if isUnreserved b then [Char.ofUInt8 b] else encodeOctet b)).map id ++
        rest) = b :: decode rest := by
    rw [List.map_id]
    split
    · rename_i hplain
      obtain ⟨hascii, hmark⟩ := isUnreserved_ascii hplain
      rw [encode_ofUInt8 hascii, List.singleton_append, decode_cons hmark]
    · exact decode_encodeOctet b rest
  have hwhole := decode_flatMap hone (Utf8.ofString s)
  rwa [List.map_id, ← encodeUnless, ← ofString_ofList, ← encode] at hwhole

def isValueChar (c : Char) : Bool :=
  c.isAlphanum || c = '-' || c = '.' || c = '_' || c = '~' || c = '%'

theorem isValueChar_of_mem_encode {s : String} {c : Char} (h : c ∈ (encode s).toList) :
    isValueChar c = true := by
  rw [encode, String.toList_ofList, encodeUnless, List.mem_flatMap] at h
  obtain ⟨b, -, hc⟩ := h
  have hdigit : ∀ n < 16, isValueChar (Hex.upper n) = true := by decide
  split at hc
  · rename_i hplain
    rw [List.mem_singleton.1 hc]
    simp only [isUnreserved] at hplain
    rw [isValueChar, hplain, Bool.true_or]
  · obtain rfl | ⟨n, hn, rfl⟩ := mem_encodeOctet hc
    · rfl
    · exact hdigit n hn

theorem isValueChar_range {c : Char} (h : isValueChar c = true) :
    0x20 < c.toNat ∧ c.toNat < 0x7F := by
  simp only [isValueChar, Bool.or_eq_true, decide_eq_true_eq] at h
  rcases h with ((((h | rfl) | rfl) | rfl) | rfl) | rfl
  · obtain ⟨hlow, hhigh⟩ := Rdf.isAlphanum_range h
    have hdelete : c.toNat ≠ 0x7F := by
      intro heq
      rw [Char.toNat_inj.1 (heq.trans (by decide : 0x7F = '\x7f'.toNat))] at h
      exact absurd h (by decide)
    omega
  all_goals decide

/-! ## Forms -/

/-- The octets that a value of a form stands for: a plus sign is a space. -/
def formDecode (bytes : Bytes) : Bytes := decode (bytes.map fun b => if b = 0x2B then 0x20 else b)

theorem formDecode_formEncode (s : String) :
    formDecode (Utf8.ofString (formEncode s)) = Utf8.ofString s := by
  rw [formEncode, ofString_ofList]
  refine decode_flatMap (fun b rest => ?_) _
  split
  · rename_i hplain
    obtain ⟨hascii, hmark, hplus⟩ := isFormPlain_ascii hplain
    rw [encode_ofUInt8 hascii, List.map_singleton, if_neg hplus, List.singleton_append,
      decode_cons hmark]
  · split
    · rename_i hspace
      rw [hspace]
      exact decode_cons (by decide) rest
    · have hb : b.toNat < 256 := b.toNat_lt
      have hdigit : ∀ n < 16, octet (Hex.upper n) ≠ 0x2B := by decide
      have hsame : (Utf8.encode (encodeOctet b)).map (fun b => if b = 0x2B then 0x20 else b) =
          Utf8.encode (encodeOctet b) := by
        rw [encode_encodeOctet]
        simp only [List.map_cons, List.map_nil, if_neg (hdigit (b.toNat / 16) (by omega)),
          if_neg (hdigit (b.toNat % 16) (by omega))]
        rfl
      rw [hsame]
      exact decode_encodeOctet b rest

/-- A value of a form does not end before its text does. -/
theorem not_mem_formEncode (s : String) : '&' ∉ (formEncode s).toList := by
  rw [formEncode, String.toList_ofList, List.mem_flatMap]
  rintro ⟨b, -, hmem⟩
  have hdigit : ∀ n < 16, '&' ≠ Hex.upper n := by decide
  split at hmem
  · rename_i hplain
    rw [eq_octet (List.mem_singleton.1 hmem).symm] at hplain
    exact absurd hplain (by decide)
  · split at hmem
    · exact absurd (List.mem_singleton.1 hmem) (by decide)
    · obtain hmark | ⟨n, hn, hchar⟩ := mem_encodeOctet hmem
      · exact absurd hmark (by decide)
      · exact hdigit n hn hchar

end Percent
end RdfExport
