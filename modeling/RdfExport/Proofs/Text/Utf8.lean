import Mathlib.Tactic.SplitIfs
import RdfExport.Text.Utf8

/-!
# RdfExport.Proofs.Text.Utf8

Characters come back from the octets that encode them, whatever octets follow.

* `head_encodeChar`: the first character.
* `decode_encode`, `decodeLossy_encode`: a whole text.
* `octet_mem_encode`: the octet of an ASCII character stands for it and is part of no other.
* `encodeChar_of_head`, `encode_of_decodeFrom`: octets that are read are those that encode it.
* `head_append`: what octets start with stands when more octets come, unless it is cut short.
* `decodeLossy_encode_append`, `decodeLossy_append_encode`: a text before and after any octets.
-/

namespace RdfExport
namespace Utf8

theorem lead?_two {b : UInt8} (hlow : 0xC2 ≤ b.toNat) (hhigh : b.toNat ≤ 0xDF) :
    lead? b = some ⟨1, b.toNat % 0x20, 0x80, 0xBF⟩ := by
  have h : 0xC2 ≤ b ∧ b ≤ 0xDF := by
    simp only [UInt8.le_iff_toNat_le]
    exact ⟨hlow, hhigh⟩
  simp only [lead?, if_pos h]

theorem lead?_three {b : UInt8} (hlow : 0xE0 ≤ b.toNat) (hhigh : b.toNat ≤ 0xEF) :
    lead? b = some ⟨2, b.toNat % 0x10, if b.toNat = 0xE0 then 0xA0 else 0x80,
      if b.toNat = 0xED then 0x9F else 0xBF⟩ := by
  simp only [lead?, UInt8.le_iff_toNat_le, ← UInt8.toNat_inj, UInt8.reduceToNat]
  rw [if_neg (by omega)]
  by_cases hE0 : b.toNat = 0xE0
  · simp [hE0]
  · rw [if_neg hE0, if_neg hE0]
    by_cases hED : b.toNat = 0xED
    · simp [hED]
    · rw [if_neg hED, if_neg hED, if_pos ⟨by omega, hhigh⟩]

theorem lead?_four {b : UInt8} (hlow : 0xF0 ≤ b.toNat) (hhigh : b.toNat ≤ 0xF4) :
    lead? b = some ⟨3, b.toNat % 8, if b.toNat = 0xF0 then 0x90 else 0x80,
      if b.toNat = 0xF4 then 0x8F else 0xBF⟩ := by
  simp only [lead?, UInt8.le_iff_toNat_le, ← UInt8.toNat_inj, UInt8.reduceToNat]
  rw [if_neg (by omega), if_neg (by omega), if_neg (by omega), if_neg (by omega)]
  by_cases hF0 : b.toNat = 0xF0
  · simp [hF0]
  · rw [if_neg hF0, if_neg hF0]
    by_cases hF4 : b.toNat = 0xF4
    · simp [hF4]
    · rw [if_pos ⟨by omega, by omega⟩, if_neg hF4]

/-- An octet that continues a character gives its six low bits. -/
theorem continuation_cons {n m : Nat} {low high : UInt8} (code size : Nat) (rest : Bytes)
    (hlow : low.toNat ≤ m % 64 + 128) (hhigh : m % 64 + 128 ≤ high.toNat) :
    continuation (n + 1) low high code size (UInt8.ofNat (m % 64 + 128) :: rest) =
      continuation n 0x80 0xBF (code * 64 + m % 64) (size + 1) rest := by
  have hb : (UInt8.ofNat (m % 64 + 128)).toNat = m % 64 + 128 := by
    simp only [UInt8.toNat_ofNat']
    omega
  rw [continuation, if_pos (by simp only [UInt8.le_iff_toNat_le, hb]; exact ⟨hlow, hhigh⟩), hb]
  congr 1
  omega

theorem head_lead {b : UInt8} {l : Lead} (hb : 0x80 ≤ b.toNat) (hl : lead? b = some l)
    (rest : Bytes) : head b rest = continuation l.follow l.low l.high l.bits 1 rest := by
  have h : ¬b < 0x80 := by
    simp only [UInt8.lt_iff_toNat_lt]
    exact Nat.not_lt.2 hb
  rw [head, if_neg h, hl]

theorem head_encodeChar (c : Char) (rest : Bytes) :
    ∃ b bs, String.utf8EncodeChar c = b :: bs ∧ head b (bs ++ rest) = .char c (bs.length + 1) := by
  have hvalid : c.toNat < 0xD800 ∨ 0xDFFF < c.toNat ∧ c.toNat < 0x110000 := c.valid
  have hc : Char.ofNat c.toNat = c := Char.ofNat_toNat c
  have hv : c.val.toNat = c.toNat := rfl
  have first {m : Nat} (hm : m < 256) : (UInt8.ofNat m).toNat = m := by
    simp only [UInt8.toNat_ofNat']
    omega
  simp only [String.utf8EncodeChar, hv]
  generalize c.toNat = n at hvalid hc ⊢
  by_cases h1 : n ≤ 0x7F
  · rw [if_pos h1]
    have hb : UInt8.ofNat n < 0x80 := by
      rw [UInt8.lt_iff_toNat_lt, first (by omega)]
      exact Nat.lt_succ_of_le h1
    exact ⟨_, _, rfl, by rw [head, if_pos hb, first (by omega), hc]; rfl⟩
  rw [if_neg h1]
  by_cases h2 : n ≤ 0x7FF
  · rw [if_pos h2]
    have hb := first (m := n / 64 % 32 + 192) (by omega)
    refine ⟨_, _, rfl, ?_⟩
    rw [head_lead (by omega) (lead?_two (by omega) (by omega))]
    simp only [List.cons_append, hb]
    rw [continuation_cons _ _ _ (by simp) (by simp; omega), continuation, ← hc]
    congr 2
    omega
  rw [if_neg h2]
  by_cases h3 : n ≤ 0xFFFF
  · rw [if_pos h3]
    have hb := first (m := n / 4096 % 16 + 224) (by omega)
    refine ⟨_, _, rfl, ?_⟩
    rw [head_lead (by omega) (lead?_three (by omega) (by omega))]
    simp only [List.cons_append, hb]
    rw [continuation_cons _ _ _ (by split <;> simp; omega) (by split <;> simp <;> omega),
      continuation_cons _ _ _ (by simp) (by simp; omega), continuation, ← hc]
    congr 2
    omega
  · rw [if_neg h3]
    have hb := first (m := n / 262144 % 8 + 240) (by omega)
    refine ⟨_, _, rfl, ?_⟩
    rw [head_lead (by omega) (lead?_four (by omega) (by omega))]
    simp only [List.cons_append, hb]
    rw [continuation_cons _ _ _ (by split <;> simp; omega) (by split <;> simp <;> omega),
      continuation_cons _ _ _ (by simp) (by simp; omega),
      continuation_cons _ _ _ (by simp) (by simp; omega), continuation, ← hc]
    congr 2
    omega

@[simp] theorem encode_nil : encode [] = [] := rfl

theorem encode_cons (c : Char) (cs : List Char) :
    encode (c :: cs) = String.utf8EncodeChar c ++ encode cs := rfl

@[simp] theorem encode_append (a b : List Char) : encode (a ++ b) = encode a ++ encode b :=
  List.flatMap_append

theorem encode_flatten (lines : List (List Char)) :
    encode lines.flatten = (lines.map encode).flatten := by
  induction lines with
  | nil => rfl
  | cons line lines ih =>
    rw [List.flatten_cons, encode_append, ih, List.map_cons, List.flatten_cons]

theorem encode_ne_nil {cs : List Char} (h : cs ≠ []) : encode cs ≠ [] := by
  cases cs with
  | nil => exact absurd rfl h
  | cons c cs =>
    obtain ⟨b, bs, henc, -⟩ := head_encodeChar c []
    rw [encode_cons, henc]
    exact List.cons_ne_nil _ _

theorem decodeFrom_encode (index : Nat) (cs : List Char) :
    decodeFrom index (encode cs) = .ok cs := by
  induction cs generalizing index with
  | nil => rw [encode_nil, decodeFrom]
  | cons c cs ih =>
    obtain ⟨b, bs, henc, hhead⟩ := head_encodeChar c (encode cs)
    rw [encode_cons, henc, List.cons_append, decodeFrom, hhead]
    simp only [Nat.add_sub_cancel, List.drop_left, ih]

theorem decode_encode (cs : List Char) : decode (encode cs) = .ok cs := decodeFrom_encode 0 cs

theorem encode_injective : Function.Injective encode := by
  intro a b h
  have hdecode := congrArg decode h
  rw [decode_encode, decode_encode] at hdecode
  exact Except.ok.inj hdecode

theorem ofString_injective : Function.Injective ofString := by
  intro s t h
  exact String.toList_inj.1 (encode_injective h)

/-- A text before octets is read before whatever they hold. -/
theorem decodeLossy_encode_append (cs : List Char) (bytes : Bytes) :
    decodeLossy (encode cs ++ bytes) = cs ++ decodeLossy bytes := by
  induction cs with
  | nil => rfl
  | cons c cs ih =>
    obtain ⟨b, bs, henc, hhead⟩ := head_encodeChar c (encode cs ++ bytes)
    rw [encode_cons, henc, List.append_assoc, List.cons_append, decodeLossy, hhead]
    simp only [Nat.add_sub_cancel, List.drop_left, ih, List.cons_append]

theorem decodeLossy_encode (cs : List Char) : decodeLossy (encode cs) = cs := by
  have h := decodeLossy_encode_append cs []
  rwa [List.append_nil, decodeLossy, List.append_nil] at h

/-! ## ASCII -/

theorem octet_toNat {c : Char} (hc : c.toNat < 0x80) : (octet c).toNat = c.toNat := by
  have h : (octet c).toNat = c.toNat % 256 := rfl
  omega

theorem ofUInt8_octet {c : Char} (hc : c.toNat < 0x80) : Char.ofUInt8 (octet c) = c := by
  have h : (Char.ofUInt8 (octet c)).toNat = c.toNat := octet_toNat hc
  exact Char.toNat_inj.1 h

theorem ofUInt8_map_octet {cs : List Char} (h : ∀ c ∈ cs, c.toNat < 0x80) :
    (cs.map octet).map Char.ofUInt8 = cs := by
  rw [List.map_map]
  conv => rhs; rw [← List.map_id cs]
  exact List.map_congr_left fun c hc => ofUInt8_octet (h c hc)

theorem encodeChar_ascii {c : Char} (hc : c.toNat < 0x80) :
    String.utf8EncodeChar c = [octet c] := by
  have hv : c.val.toNat ≤ 0x7F := Nat.le_of_lt_succ hc
  unfold String.utf8EncodeChar
  rw [if_pos hv]
  rfl

theorem encode_cons_ascii {c : Char} (hc : c.toNat < 0x80) (cs : List Char) :
    encode (c :: cs) = octet c :: encode cs := by
  rw [encode_cons, encodeChar_ascii hc, List.singleton_append]

theorem high_of_mem_encodeChar {c : Char} (hc : 0x80 ≤ c.toNat) {b : UInt8}
    (hb : b ∈ String.utf8EncodeChar c) : 0x80 ≤ b.toNat := by
  have hv : c.val.toNat = c.toNat := rfl
  have hascii : ¬c.toNat ≤ 0x7F := by omega
  simp only [String.utf8EncodeChar, hv, if_neg hascii] at hb
  split at hb
  · simp only [List.mem_cons, List.not_mem_nil, or_false] at hb
    rcases hb with rfl | rfl <;> simp only [UInt8.toNat_ofNat'] <;> omega
  · split at hb
    · simp only [List.mem_cons, List.not_mem_nil, or_false] at hb
      rcases hb with rfl | rfl | rfl <;> simp only [UInt8.toNat_ofNat'] <;> omega
    · simp only [List.mem_cons, List.not_mem_nil, or_false] at hb
      rcases hb with rfl | rfl | rfl | rfl <;> simp only [UInt8.toNat_ofNat'] <;> omega

/-- The octet of an ASCII character stands for it and is part of no other character. -/
theorem octet_mem_encode {a : Char} (ha : a.toNat < 0x80) {cs : List Char} :
    octet a ∈ encode cs ↔ a ∈ cs := by
  simp only [encode, List.mem_flatMap]
  constructor
  · rintro ⟨c, hc, hb⟩
    by_cases hascii : c.toNat < 0x80
    · rw [encodeChar_ascii hascii, List.mem_singleton] at hb
      have h : a = c := by rw [← ofUInt8_octet ha, hb, ofUInt8_octet hascii]
      rwa [h]
    · have := high_of_mem_encodeChar (Nat.not_lt.1 hascii) hb
      rw [octet_toNat ha] at this
      omega
  · intro h
    exact ⟨a, h, by rw [encodeChar_ascii ha]; exact List.mem_singleton_self _⟩

theorem getLast?_encode {a : Char} (ha : a.toNat < 0x80) {cs : List Char} :
    (encode cs).getLast? = some (octet a) ↔ cs.getLast? = some a := by
  have hcut : ∀ init c, (encode (init ++ [c])).getLast? = (String.utf8EncodeChar c).getLast? := by
    intro init c
    obtain ⟨b, bs, henc, -⟩ := head_encodeChar c []
    rw [encode_append, encode_cons, encode_nil, List.append_nil, List.getLast?_append, henc,
      List.getLast?_cons, Option.some_or]
  rcases List.eq_nil_or_concat cs with rfl | ⟨init, c, rfl⟩
  · simp
  rw [List.concat_eq_append, hcut, List.getLast?_concat, Option.some.injEq]
  by_cases hascii : c.toNat < 0x80
  · rw [encodeChar_ascii hascii, List.getLast?_singleton, Option.some.injEq]
    constructor
    · intro h
      rw [← ofUInt8_octet hascii, h, ofUInt8_octet ha]
    · exact congrArg octet
  · constructor
    · intro h
      have := high_of_mem_encodeChar (Nat.not_lt.1 hascii) (List.mem_of_getLast? h)
      rw [octet_toNat ha] at this
      omega
    · rintro rfl
      exact absurd ha hascii

theorem encode_ascii {cs : List Char} (h : ∀ c ∈ cs, c.toNat < 0x80) :
    encode cs = cs.map octet := by
  induction cs with
  | nil => rfl
  | cons c cs ih =>
    rw [encode_cons_ascii (h c (by simp)), ih fun x hx => h x (by simp [hx]), List.map_cons]

/-! ## What is read -/

theorem toNat_ofNat {n : Nat} (h : n.isValidChar) : (Char.ofNat n).toNat = n := by
  rw [Char.ofNat, dif_pos h]
  rfl

theorem lead?_range {b : UInt8} {l : Lead} (h : lead? b = some l) :
    0xC2 ≤ b.toNat ∧ b.toNat ≤ 0xF4 := by
  refine ⟨Nat.not_lt.1 fun hlow => ?_, Nat.not_lt.1 fun hhigh => ?_⟩
  · simp only [lead?, UInt8.le_iff_toNat_le, ← UInt8.toNat_inj, UInt8.reduceToNat] at h
    repeat rw [if_neg (by omega)] at h
    cases h
  · simp only [lead?, UInt8.le_iff_toNat_le, ← UInt8.toNat_inj, UInt8.reduceToNat] at h
    repeat rw [if_neg (by omega)] at h
    cases h

theorem continuation_char {n : Nat} {low high : UInt8} {code size m : Nat} {bytes : Bytes}
    {c : Char} (h : continuation (n + 1) low high code size bytes = .char c m) :
    ∃ x rest, bytes = x :: rest ∧ low.toNat ≤ x.toNat ∧ x.toNat ≤ high.toNat ∧
      continuation n 0x80 0xBF (code * 64 + x.toNat % 64) (size + 1) rest = .char c m := by
  cases bytes with
  | nil => cases h
  | cons x rest =>
    rw [continuation] at h
    split at h
    · rename_i hrange
      simp only [UInt8.le_iff_toNat_le] at hrange
      exact ⟨x, rest, rfl, hrange.1, hrange.2, h⟩
    · cases h

theorem eq_ofNat {b : UInt8} {n : Nat} (h : b.toNat = n) : UInt8.ofNat n = b := by
  subst h
  exact UInt8.ofNat_toNat

theorem encodeChar_of_head {b : UInt8} {rest : Bytes} {c : Char} {n : Nat}
    (h : head b rest = .char c n) :
    ∃ bs, String.utf8EncodeChar c = b :: bs ∧ n = bs.length + 1 ∧
      rest = bs ++ rest.drop (n - 1) := by
  by_cases hascii : b < 0x80
  · rw [head, if_pos hascii] at h
    obtain ⟨rfl, rfl⟩ := Head.char.inj h
    have hb : b.toNat < 0x80 := UInt8.lt_iff_toNat_lt.1 hascii
    have hnat : (Char.ofNat b.toNat).toNat = b.toNat := toNat_ofNat (.inl (by omega))
    refine ⟨[], ?_, rfl, rfl⟩
    rw [encodeChar_ascii (by rw [hnat]; exact hb)]
    have hoctet : octet (Char.ofNat b.toNat) = b :=
      UInt8.toNat_inj.1 (by rw [octet_toNat (by rw [hnat]; exact hb), hnat])
    rw [hoctet]
  rw [head, if_neg hascii] at h
  cases hl : lead? b with
  | none => simp [hl] at h
  | some l =>
    obtain ⟨hlow, hhigh⟩ := lead?_range hl
    simp only [hl] at h
    by_cases h2 : b.toNat ≤ 0xDF
    · rw [lead?_two hlow h2, Option.some.injEq] at hl
      subst hl
      obtain ⟨x, tail, rfl, hx, hx', h⟩ := continuation_char h
      simp only [UInt8.reduceToNat] at hx hx'
      obtain ⟨rfl, rfl⟩ := Head.char.inj h
      have hcode : (Char.ofNat (b.toNat % 32 * 64 + x.toNat % 64)).val.toNat = _ :=
        toNat_ofNat (.inl (by omega))
      refine ⟨[x], ?_, rfl, rfl⟩
      simp only [String.utf8EncodeChar, hcode]
      rw [if_neg (by omega), if_pos (by omega), eq_ofNat (b := b) (by omega),
        eq_ofNat (b := x) (by omega)]
    by_cases h3 : b.toNat ≤ 0xEF
    · rw [lead?_three (by omega) h3, Option.some.injEq] at hl
      subst hl
      obtain ⟨x, tail, rfl, hx, hx', h⟩ := continuation_char h
      obtain ⟨y, tail, rfl, hy, hy', h⟩ := continuation_char h
      have hlong : (b.toNat = 0xE0 → 0xA0 ≤ x.toNat) ∧ 0x80 ≤ x.toNat := by
        simp only [] at hx
        split at hx <;> simp only [UInt8.reduceToNat] at hx <;> omega
      have hplane : (b.toNat = 0xED → x.toNat ≤ 0x9F) ∧ x.toNat ≤ 0xBF := by
        simp only [] at hx'
        split at hx' <;> simp only [UInt8.reduceToNat] at hx' <;> omega
      simp only [UInt8.reduceToNat] at hy hy'
      obtain ⟨rfl, rfl⟩ := Head.char.inj h
      have hcode : (Char.ofNat ((b.toNat % 16 * 64 + x.toNat % 64) * 64 + y.toNat % 64)).val.toNat =
          _ := toNat_ofNat (by unfold Nat.isValidChar; omega)
      refine ⟨[x, y], ?_, rfl, rfl⟩
      simp only [String.utf8EncodeChar, hcode]
      rw [if_neg (by omega), if_neg (by omega), if_pos (by omega), eq_ofNat (b := b) (by omega),
        eq_ofNat (b := x) (by omega), eq_ofNat (b := y) (by omega)]
    · rw [lead?_four (by omega) hhigh, Option.some.injEq] at hl
      subst hl
      obtain ⟨x, tail, rfl, hx, hx', h⟩ := continuation_char h
      obtain ⟨y, tail, rfl, hy, hy', h⟩ := continuation_char h
      obtain ⟨z, tail, rfl, hz, hz', h⟩ := continuation_char h
      have hlong : (b.toNat = 0xF0 → 0x90 ≤ x.toNat) ∧ 0x80 ≤ x.toNat := by
        simp only [] at hx
        split at hx <;> simp only [UInt8.reduceToNat] at hx <;> omega
      have hplane : (b.toNat = 0xF4 → x.toNat ≤ 0x8F) ∧ x.toNat ≤ 0xBF := by
        simp only [] at hx'
        split at hx' <;> simp only [UInt8.reduceToNat] at hx' <;> omega
      simp only [UInt8.reduceToNat] at hy hy' hz hz'
      obtain ⟨rfl, rfl⟩ := Head.char.inj h
      have hcode : (Char.ofNat (((b.toNat % 8 * 64 + x.toNat % 64) * 64 + y.toNat % 64) * 64 +
          z.toNat % 64)).val.toNat = _ := toNat_ofNat (by unfold Nat.isValidChar; omega)
      refine ⟨[x, y, z], ?_, rfl, rfl⟩
      simp only [String.utf8EncodeChar, hcode]
      rw [if_neg (by omega), if_neg (by omega), if_neg (by omega), eq_ofNat (b := b) (by omega),
        eq_ofNat (b := x) (by omega), eq_ofNat (b := y) (by omega), eq_ofNat (b := z) (by omega)]

theorem encode_of_decodeFrom {index : Nat} {bytes : Bytes} {cs : List Char}
    (h : decodeFrom index bytes = .ok cs) : encode cs = bytes := by
  fun_induction decodeFrom index bytes generalizing cs with
  | case1 index =>
    cases h
    rfl
  | case2 index b rest c size hhead tail htail ih =>
    cases h
    obtain ⟨bs, hc, -, hrest⟩ := encodeChar_of_head hhead
    rw [encode_cons, hc, ih htail, List.cons_append, ← hrest]
  | _ => simp_all

/-! ## More octets -/

theorem continuation_append {n : Nat} {low high : UInt8} {code size : Nat} {bytes : Bytes}
    {h : Head} (hh : continuation n low high code size bytes = h) (hcut : h ≠ .cut) (more : Bytes) :
    continuation n low high code size (bytes ++ more) = h := by
  induction n generalizing low high code size bytes with
  | zero => simpa [continuation] using hh
  | succ n ih =>
    cases bytes with
    | nil => exact absurd hh.symm hcut
    | cons b rest =>
      simp only [continuation, List.cons_append] at hh ⊢
      split at hh
      · rename_i hb
        rw [if_pos hb]
        exact ih hh
      · rename_i hb
        rw [if_neg hb]
        exact hh

theorem continuation_char_size {n : Nat} {low high : UInt8} {code size : Nat} {bytes : Bytes}
    {c : Char} {m : Nat} (hh : continuation n low high code size bytes = .char c m) :
    size ≤ m ∧ m ≤ size + bytes.length := by
  induction n generalizing low high code size bytes with
  | zero =>
    cases hh
    omega
  | succ n ih =>
    cases bytes with
    | nil => cases hh
    | cons b rest =>
      simp only [continuation] at hh
      split at hh
      · have := ih hh
        simp only [List.length_cons]
        omega
      · cases hh

/-- An ill-formed prefix keeps within the octets at hand together with the octet that spoils it. -/
theorem continuation_ill_size {n : Nat} {low high : UInt8} {code size : Nat} {bytes : Bytes}
    {m : Nat} (hh : continuation n low high code size bytes = .ill m) :
    m + 1 ≤ size + bytes.length := by
  induction n generalizing low high code size bytes with
  | zero => cases hh
  | succ n ih =>
    cases bytes with
    | nil => cases hh
    | cons b rest =>
      simp only [continuation] at hh
      split at hh
      · have := ih hh
        simp only [List.length_cons]
        omega
      · cases hh
        simp only [List.length_cons]
        omega

/-- What octets start with stands, unless it is cut short. -/
theorem head_append {b : UInt8} {rest : Bytes} {h : Head} (hh : head b rest = h) (hcut : h ≠ .cut)
    (more : Bytes) : head b (rest ++ more) = h := by
  unfold head at hh ⊢
  split at hh
  · rename_i hb
    rw [if_pos hb]
    exact hh
  · rename_i hb
    rw [if_neg hb]
    cases hl : lead? b with
    | none => simpa [hl] using hh
    | some l =>
      simp only [hl] at hh ⊢
      exact continuation_append hh hcut more

theorem head_char_size {b : UInt8} {rest : Bytes} {c : Char} {n : Nat}
    (hh : head b rest = .char c n) : 1 ≤ n ∧ n ≤ rest.length + 1 := by
  unfold head at hh
  split at hh
  · cases hh
    omega
  · cases hl : lead? b with
    | none => simp [hl] at hh
    | some l =>
      simp only [hl] at hh
      have := continuation_char_size hh
      omega

theorem head_ill_length {b : UInt8} {rest : Bytes} {n : Nat} (hh : head b rest = .ill n) :
    (if (lead? b).isSome then n + 1 else n) ≤ rest.length + 1 := by
  unfold head at hh
  split at hh
  · cases hh
  · cases hl : lead? b with
    | none =>
      simp only [hl] at hh
      cases hh
      simp
    | some l =>
      simp only [hl] at hh
      have := continuation_ill_size hh
      simp only [Option.isSome_some, if_true]
      omega

/-- A character that was read is read again before more octets, and leaves the same. -/
theorem head_char_append {b : UInt8} {rest : Bytes} {c : Char} {n : Nat}
    (hh : head b rest = .char c n) (more : Bytes) :
    head b (rest ++ more) = .char c n ∧
      (rest ++ more).drop (n - 1) = rest.drop (n - 1) ++ more ∧
      n + (rest.drop (n - 1)).length = (b :: rest).length := by
  obtain ⟨hpos, hle⟩ := head_char_size hh
  refine ⟨head_append hh (by simp) more, List.drop_append_of_le_length (by omega), ?_⟩
  simp only [List.length_drop, List.length_cons]
  omega

/-! ## A text around octets -/

theorem lead?_next {b : UInt8} {l : Lead} (h : lead? b = some l) :
    0x80 ≤ l.low.toNat ∧ l.high.toNat ≤ 0xBF := by
  unfold lead? at h
  split_ifs at h <;> cases h <;> simp

/-- A character that was cut short is ill-formed before an octet that continues none. -/
theorem continuation_cut_append {n : Nat} {low high : UInt8} {code size : Nat} {bytes : Bytes}
    (hcut : continuation n low high code size bytes = .cut) (hlow : 0x80 ≤ low.toNat)
    (hhigh : high.toNat ≤ 0xBF) {b : UInt8} (hb : b.toNat < 0x80 ∨ 0xBF < b.toNat)
    (more : Bytes) :
    continuation n low high code size (bytes ++ b :: more) = .ill (size + bytes.length) := by
  induction n generalizing low high code size bytes with
  | zero => cases hcut
  | succ n ih =>
    cases bytes with
    | nil =>
      rw [List.nil_append, continuation, if_neg]
      · rfl
      · simp only [UInt8.le_iff_toNat_le]
        omega
    | cons x rest =>
      rw [continuation] at hcut
      split at hcut
      · rename_i hx
        rw [List.cons_append, continuation, if_pos hx, ih hcut (by decide) (by decide),
          List.length_cons]
        congr 1
        omega
      · cases hcut

theorem head_cut_append {x : UInt8} {rest : Bytes} (hcut : head x rest = .cut) {b : UInt8}
    (hb : b.toNat < 0x80 ∨ 0xBF < b.toNat) (more : Bytes) :
    head x (rest ++ b :: more) = .ill (rest.length + 1) := by
  unfold head at hcut ⊢
  split at hcut
  · cases hcut
  · rename_i hx
    cases hl : lead? x with
    | none => simp [hl] at hcut
    | some l =>
      simp only [hl] at hcut ⊢
      rw [if_neg hx, continuation_cut_append hcut (lead?_next hl).1 (lead?_next hl).2 hb,
        Nat.add_comm]

/-- The first octet of a character continues none. -/
theorem encode_cons_first (c : Char) (cs : List Char) :
    ∃ b more, encode (c :: cs) = b :: more ∧ (b.toNat < 0x80 ∨ 0xBF < b.toNat) := by
  obtain ⟨b, bs, henc, hhead⟩ := head_encodeChar c []
  refine ⟨b, bs ++ encode cs, by rw [encode_cons, henc, List.cons_append], ?_⟩
  by_cases hascii : b < 0x80
  · exact .inl (UInt8.lt_iff_toNat_lt.1 hascii)
  · rw [head, if_neg hascii] at hhead
    cases hl : lead? b with
    | none => simp [hl] at hhead
    | some l =>
      have := (lead?_range hl).1
      exact .inr (by omega)

/-- A text after octets is read after whatever they hold: a character that they cut short does not
reach into it. -/
theorem decodeLossy_append_encode (bytes : Bytes) (cs : List Char) :
    decodeLossy (bytes ++ encode cs) = decodeLossy bytes ++ cs := by
  fun_induction decodeLossy bytes with
  | case1 => rw [List.nil_append, decodeLossy_encode, List.nil_append]
  | case2 b rest c size hhead ih =>
    obtain ⟨hmore, hdrop, -⟩ := head_char_append hhead (encode cs)
    rw [List.cons_append, decodeLossy, hmore]
    simp only [hdrop, ih, List.cons_append]
  | case3 b rest size hhead ih =>
    have hsize := head_ill_length hhead
    have hdrop : (rest ++ encode cs).drop (size - 1) = rest.drop (size - 1) ++ encode cs :=
      List.drop_append_of_le_length (by split at hsize <;> omega)
    rw [List.cons_append, decodeLossy, head_append hhead (by simp)]
    simp only [hdrop, ih, List.cons_append]
  | case4 b rest hhead =>
    cases cs with
    | nil => rw [encode_nil, List.append_nil, List.append_nil, decodeLossy, hhead]
    | cons c cs =>
      -- The text does not continue the character, which so becomes ill-formed and ends before it.
      obtain ⟨x, more, henc, hx⟩ := encode_cons_first c cs
      have hill : head b (rest ++ encode (c :: cs)) = .ill (rest.length + 1) := by
        rw [henc]
        exact head_cut_append hhead hx more
      rw [List.cons_append, decodeLossy, hill]
      simp only [Nat.add_sub_cancel, List.drop_left, decodeLossy_encode, List.singleton_append]

end Utf8
end RdfExport
