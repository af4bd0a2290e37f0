import RdfExport.NTriples.Grammar
import RdfExport.Proofs.NTriples.Lookahead
import RdfExport.Proofs.Rdf.WellFormed
import RdfExport.Proofs.Text.Pieces
import RdfExport.Proofs.Text.Utf8

/-!
# RdfExport.Proofs.NTriples.Printed

The tokens that terms are written with are read as those tokens. A label and a language end where
the next octet cannot extend them, so what follows a token matters. IRIs are written as they are,
so they must hold nothing that ends one or stands for another character.

* `Iri.IsLegible`, `BlankNode.IsLegible`, `IsLegibleTag`: what is read as it is written.
* `Triple.Fits`: that the parts of a statement are, and its IRIs are as one wants.
* `Spells`: that octets are read as a token before a given octet.
* `spells_iri`, `spells_value`: the tokens with delimiters of their own, before any octet.
* `spells_blank`, `spells_tag`: labels and languages, before a space.
-/

namespace RdfExport
namespace Rdf

open NTriples

/-! ## Terms that are read as they are written -/

/-- That an IRI is read as it is written. Another bracket before it would start another token. -/
structure Iri.IsLegible (mode : Mode) (i : Iri) : Prop where
  bracket : '>' ∉ i.text.toList
  slash : '\\' ∉ i.text.toList
  first : i.text.toList.head? ≠ some '<'
  strict : mode = .strict → i.isWellFormed = true

theorem Iri.isLegible_of_isWellFormed {i : Iri} (h : i.isWellFormed = true) (mode : Mode) :
    i.IsLegible mode := by
  have hne {c : Char} (hc : isIriChar c = false) : c ∉ i.text.toList := by
    intro hmem
    rw [isAbsoluteIri_chars h c hmem] at hc
    cases hc
  refine ⟨hne (by decide), hne (by decide), fun hfirst => ?_, fun _ => h⟩
  exact hne (c := '<') (by decide) (List.mem_of_head? hfirst)

def BlankNode.IsLegible (b : BlankNode) : Prop := b.isWellFormed = true ∧ ':' ∉ b.label.toList

structure IsLegibleTag (mode : Mode) (tag : String) : Prop where
  blocks : areTagBlocks (tag.toList.splitOn '-') = true
  lower : tag.toList.map Char.toLower = tag.toList
  strict : mode = .strict → isLanguageTag tag.toList = true

/-- That labels are read as they are written, and that IRIs are as `p` says. -/
def Node.Fits (p : Iri → Prop) : Node → Prop
  | .iri i => p i
  | .blank b => b.IsLegible

/-- That labels, languages and datatypes are read as they are written, and that IRIs are as `p`
says. -/
def Term.Fits (mode : Mode) (p : Iri → Prop) : Term → Prop
  | .node n => n.Fits p
  | .literal (.plain _) => True
  | .literal (.tagged _ tag) => IsLegibleTag mode tag
  | .literal (.typed _ datatype) =>
    p datatype ∧ datatype ≠ xsd "string" ∧ allowsDatatype mode datatype = true

structure Triple.Fits (mode : Mode) (p : Iri → Prop) (t : Triple) : Prop where
  subject : t.subject.Fits p
  predicate : p t.predicate
  object : t.object.Fits mode p

/-- Well-formed statements are read as they are written, with the labels and the datatypes that a
reader of statements takes. -/
theorem Triple.fits_of_isWellFormed {mode : Mode} {t : Triple} (h : t.isWellFormed = true)
    (hlabel : t.everyLabel isStatementLabel = true)
    (hdatatype : t.object.datatype?.all (allowsDatatype mode) = true) :
    t.Fits mode (Iri.IsLegible mode) := by
  have hnode {n : Node} (h : n.isWellFormed = true)
      (hlabel : n.everyLabel isStatementLabel = true) :
      n.Fits (Iri.IsLegible mode) := by
    cases n with
    | iri i => exact Iri.isLegible_of_isWellFormed h mode
    | blank b => exact ⟨h, by simpa [Node.everyLabel, isStatementLabel] using hlabel⟩
  obtain ⟨s, p, o⟩ := t
  simp only [isWellFormed, everyLabel, Bool.and_eq_true] at h hlabel
  refine ⟨hnode h.1.1 hlabel.1, Iri.isLegible_of_isWellFormed h.1.2 mode, ?_⟩
  cases o with
  | node n => exact hnode h.2 hlabel.2
  | literal l =>
    cases l with
    | plain value => trivial
    | tagged value tag =>
      have htag := h.2
      simp only [Term.isWellFormed, Literal.isWellFormed, Bool.and_eq_true,
        decide_eq_true_eq] at htag
      exact ⟨isLanguageTag_blocks htag.1 htag.2, htag.2, fun _ => htag.1⟩
    | typed value datatype =>
      have htyped := h.2
      simp only [Term.isWellFormed, Literal.isWellFormed, Bool.and_eq_true,
        decide_eq_true_eq] at htyped
      exact ⟨Iri.isLegible_of_isWellFormed htyped.1 mode, htyped.2, hdatatype⟩

end Rdf

namespace NTriples

open Rdf

/-- That octets are read as a token where the octet `next` follows them, whatever comes after. -/
def Spells (mode : Mode) (t : Token) (bytes : Bytes) (next : UInt8) : Prop :=
  ∃ b bs, bytes = b :: bs ∧ b ≠ octet ' ' ∧ b ≠ octet '\t' ∧
    ∀ ended rest, lexeme mode ended b (bs ++ next :: rest) = .token t bytes.length

/-! ## IRIs -/

theorem scanIri_plain (mode : Mode) (size : Nat) {bytes : Bytes} (rest : Bytes)
    (hend : octet '>' ∉ bytes) (hslash : octet '\\' ∉ bytes) :
    scanIri mode size (bytes ++ octet '>' :: rest) = .done bytes (size + bytes.length + 1) := by
  induction bytes generalizing size with
  | nil => rw [List.nil_append, scanIri, if_pos rfl, List.length_nil, Nat.add_zero]
  | cons b bytes ih =>
    simp only [List.mem_cons, not_or] at hend hslash
    rw [List.cons_append, scanIri, if_neg (Ne.symm hend.1), if_neg (Ne.symm hslash.1),
      ih _ hend.2 hslash.2, Scan.map, List.length_cons]
    congr 1
    omega

theorem not_mem_encode {p : Char → Bool} {cs : List Char} (h : ∀ c ∈ cs, p c = true) {a : Char}
    (ha : a.toNat < 0x80) (hp : p a = false) : octet a ∉ Utf8.encode cs := by
  rw [Utf8.octet_mem_encode ha]
  intro hmem
  rw [h a hmem] at hp
  cases hp

theorem encode_iri (i : Iri) :
    Utf8.encode i.chars = octet '<' :: (Utf8.encode i.text.toList ++ [octet '>']) := by
  rw [Iri.chars, Utf8.encode_append, Utf8.encode_cons_ascii (by decide),
    Utf8.encode_cons_ascii (by decide)]
  rfl

theorem lexIri_chars {mode : Mode} {i : Iri} (h : i.IsLegible mode) (rest : Bytes) :
    lexIri mode (Utf8.encode i.text.toList ++ octet '>' :: rest) =
      .token (.iri i) (Utf8.encode i.chars).length := by
  have hallowed : (decide (mode = .lenient) || isAbsoluteIri i.text.toList) = true := by
    cases mode with
    | strict => rw [show isAbsoluteIri i.text.toList = true from h.strict rfl, Bool.or_true]
    | lenient => rfl
  rw [lexIri, scanIri_plain mode 1 rest (by rw [Utf8.octet_mem_encode (by decide)]; exact h.bracket)
    (by rw [Utf8.octet_mem_encode (by decide)]; exact h.slash)]
  simp only [Utf8.decode_encode, hallowed, if_true, String.ofList_toList,
    encode_iri, List.length_cons, List.length_append, List.length_nil]
  congr 1
  omega

theorem encode_head {cs : List Char} {a : Char} (ha : a.toNat < 0x80) (h : cs.head? ≠ some a)
    {b : UInt8} {bs : Bytes} (henc : Utf8.encode cs = b :: bs) : b ≠ octet a := by
  cases cs with
  | nil => cases henc
  | cons c cs =>
    rintro rfl
    obtain ⟨x, xs, hx, -⟩ := Utf8.head_encodeChar c []
    rw [Utf8.encode_cons, hx] at henc
    obtain ⟨rfl, -⟩ := List.cons.inj henc
    have hmem : octet a ∈ Utf8.encode [c] := by
      rw [Utf8.encode_cons, hx]
      exact List.mem_cons_self
    rw [Utf8.octet_mem_encode ha, List.mem_singleton] at hmem
    exact h (by rw [hmem]; rfl)

theorem spells_iri {mode : Mode} {i : Iri} (h : i.IsLegible mode) (next : UInt8) :
    Spells mode (.iri i) (Utf8.encode i.chars) next := by
  refine ⟨_, _, encode_iri i, by decide, by decide, fun ended rest => ?_⟩
  rw [← lexIri_chars h (next :: rest), List.append_assoc, List.singleton_append]
  cases henc : Utf8.encode i.text.toList with
  | nil => rfl
  | cons b bs =>
    have hb : b ≠ octet '<' := encode_head (by decide) h.first henc
    show (if b = octet '<' then _ else _) = _
    rw [if_neg hb]

/-! ## Values -/

theorem isPlainOctet_encode {cs : List Char} (h : ∀ c ∈ cs, isPlainChar c = true) :
    ∀ b ∈ Utf8.encode cs, isPlainOctet b = true := by
  intro b hb
  have hquote : b ≠ octet '"' := by
    rintro rfl
    exact not_mem_encode h (by decide) (by decide) hb
  have hslash : b ≠ octet '\\' := by
    rintro rfl
    exact not_mem_encode h (by decide) (by decide) hb
  simp [isPlainOctet, hquote, hslash]

theorem not_isLineEnd_encode {cs : List Char} (h : ∀ c ∈ cs, isPlainChar c = true) :
    (Utf8.encode cs).any isLineEnd = false := by
  rw [List.any_eq_false]
  intro b hb
  simp only [isLineEnd, Bool.or_eq_true, decide_eq_true_eq]
  rintro (rfl | rfl)
  · exact not_mem_encode h (by decide) (by decide) hb
  · exact not_mem_encode h (by decide) (by decide) hb

theorem scanValue_stretch (mode : Mode) (size : Nat) {p : List Char} {q : UInt8} (rest : Bytes)
    (h : ∀ c ∈ p, isPlainChar c = true) (hq : isPlainOctet q = false) :
    scanValue mode size (Utf8.encode p ++ q :: rest) =
      if q = octet '"' then .done p (size + (Utf8.encode p).length + 1)
      else
        match lexEscape mode true rest with
        | .char c n =>
          (scanValue mode (size + (Utf8.encode p).length + 1 + n) (rest.drop n)).map
            (fun ds => p ++ c :: ds)
        | .fault n =>
          faultToQuote .badEscape (size + (Utf8.encode p).length + 1 + n) (rest.drop n)
        | .wait => .wait := by
  have htake : (Utf8.encode p ++ q :: rest).takeWhile isPlainOctet = Utf8.encode p :=
    takeWhile_before (isPlainOctet_encode h) hq
  have hdrop : (Utf8.encode p ++ q :: rest).drop
      ((Utf8.encode p ++ q :: rest).takeWhile isPlainOctet).length = q :: rest := by
    rw [htake, List.drop_left]
  have hlines : ¬(decide (mode = .strict) && false) = true := by simp
  rw [scanValue_eq mode size hdrop, htake, not_isLineEnd_encode h, Utf8.decode_encode]
  exact if_neg hlines

theorem scanValue_escape {mode : Mode} (size : Nat) {p : List Char} {c : Char} {escape : Bytes}
    (rest : Bytes) (h : ∀ c ∈ p, isPlainChar c = true)
    (hescape : lexEscape mode true (escape ++ rest) = .char c escape.length) :
    scanValue mode size (Utf8.encode p ++ octet '\\' :: (escape ++ rest)) =
      (scanValue mode (size + (Utf8.encode p).length + 1 + escape.length) rest).map
        (fun ds => p ++ c :: ds) := by
  rw [scanValue_stretch mode size _ h (by decide), if_neg (by decide), hescape]
  simp only [List.drop_left]

theorem lexEscape_letter (mode : Mode) {c k : Char} (names : letterEscape? k = some c)
    (number : numberEscape? k = none) (ascii : k.toNat < 0x80) (rest : Bytes) :
    lexEscape mode true ([octet k] ++ rest) = .char c 1 := by
  rw [List.singleton_append, lexEscape, Utf8.ofUInt8_octet ascii, number, names]
  rfl

theorem lexEscape_number (mode : Mode) {c : Char} (small : c.toNat < 65536) (rest : Bytes) :
    lexEscape mode true ((octet 'u' :: (Hex.render4 c.toNat).map octet) ++ rest) = .char c 5 := by
  have hk : numberEscape? (Char.ofUInt8 (octet 'u')) = some 4 := by decide
  have htake : ((Hex.render4 c.toNat).map octet ++ rest).take 4 =
      (Hex.render4 c.toNat).map octet := rfl
  have hlength : ¬((Hex.render4 c.toNat).map octet).length < 4 := Nat.lt_irrefl 4
  have hread : hexNumber? 4 (Hex.render4 c.toNat) = some c.toNat := by
    have h := Hex.read_render4 small []
    rw [List.append_nil] at h
    rw [hexNumber?, h]
    rfl
  rw [List.cons_append, lexEscape, hk]
  simp only [htake, if_neg hlength, hread, Hex.scalar?_toNat,
    Utf8.ofUInt8_map_octet fun x hx => (Hex.render4_ascii _ x hx).2]

theorem encode_escaped {c : Char} {written : List Char} (h : Escaped c written) :
    (written = [c] ∧ isPlainChar c = true) ∨
      ∃ escape, Utf8.encode written = octet '\\' :: escape ∧
        ∀ mode rest, lexEscape mode true (escape ++ rest) = .char c escape.length := by
  cases h with
  | plain plain => exact .inl ⟨rfl, plain⟩
  | letter k names number visible ascii =>
    refine .inr ⟨[octet k], ?_, fun mode rest => lexEscape_letter mode names number ascii rest⟩
    rw [Utf8.encode_cons_ascii (by decide), Utf8.encode_cons_ascii ascii, Utf8.encode_nil]
  | number small =>
    refine .inr ⟨octet 'u' :: (Hex.render4 c.toNat).map octet, ?_,
      fun mode rest => lexEscape_number mode small rest⟩
    rw [Utf8.encode_cons_ascii (by decide), Utf8.encode_cons_ascii (by decide),
      Utf8.encode_ascii fun x hx => (Hex.render4_ascii _ x hx).2]

/-- A value is read up to its closing quote. `p` stands for itself and comes before; characters
that stand for themselves join it, and an escape ends it. -/
theorem scanValue_flatMap (mode : Mode) (size : Nat) (p cs : List Char) (rest : Bytes)
    (h : ∀ c ∈ p, isPlainChar c = true) :
    scanValue mode size
        (Utf8.encode p ++ (Utf8.encode (cs.flatMap escapeValue) ++ octet '"' :: rest)) =
      .done (p ++ cs)
        (size + (Utf8.encode p).length + (Utf8.encode (cs.flatMap escapeValue)).length + 1) := by
  induction cs generalizing size p with
  | nil =>
    rw [List.flatMap_nil, Utf8.encode_nil, List.nil_append, scanValue_stretch mode size rest h
      (by decide), if_pos rfl, List.append_nil]
    rfl
  | cons c cs ih =>
    rw [List.flatMap_cons, Utf8.encode_append]
    rcases encode_escaped (escapeValue_escaped c) with ⟨hwritten, hplain⟩ | ⟨escape, hwritten, hlex⟩
    · have hp : ∀ x ∈ p ++ [c], isPlainChar x = true := by
        intro x hx
        rcases List.mem_append.1 hx with hx | hx
        · exact h x hx
        · rwa [List.mem_singleton.1 hx]
      have hread := ih size (p ++ [c]) hp
      rw [Utf8.encode_append, List.append_assoc] at hread
      rw [hwritten, List.append_assoc, hread, List.append_assoc, List.singleton_append]
      simp only [List.length_append]
      congr 1
      omega
    · have hread := ih (size + (Utf8.encode p).length + 1 + escape.length) [] (by simp)
      rw [Utf8.encode_nil, List.nil_append, List.nil_append, List.length_nil] at hread
      rw [hwritten, List.cons_append, List.cons_append, List.append_assoc,
        scanValue_escape size _ h (hlex mode _), hread, Scan.map]
      simp only [List.length_append, List.length_cons]
      congr 1
      omega

theorem encode_value (value : String) :
    Utf8.encode (valueChars value) =
      octet '"' :: (Utf8.encode (value.toList.flatMap escapeValue) ++ [octet '"']) := by
  rw [valueChars, List.cons_append, Utf8.encode_cons_ascii (by decide), Utf8.encode_append,
    Utf8.encode_cons_ascii (by decide), Utf8.encode_nil]

theorem spells_value (mode : Mode) (value : String) (next : UInt8) :
    Spells mode (.value value) (Utf8.encode (valueChars value)) next := by
  refine ⟨_, _, encode_value value, by decide, by decide, fun ended rest => ?_⟩
  have hread := scanValue_flatMap mode 1 [] value.toList (next :: rest) (by simp)
  rw [Utf8.encode_nil, List.nil_append, List.nil_append, List.length_nil] at hread
  have hlex : lexValue mode
      (Utf8.encode (value.toList.flatMap escapeValue) ++ octet '"' :: next :: rest) =
        .token (.value value) (Utf8.encode (valueChars value)).length := by
    rw [lexValue, hread, encode_value]
    simp only [String.ofList_toList, List.length_cons, List.length_append, List.length_nil]
    congr 1
    omega
  rw [List.append_assoc, List.singleton_append, ← hlex]
  rfl

/-! ## Marks -/

theorem spells_datatypeMark (mode : Mode) (next : UInt8) :
    Spells mode .datatypeMark [octet '^', octet '^'] next :=
  ⟨_, _, rfl, by decide, by decide, fun _ _ => rfl⟩

/-! ## Labels -/

/-- A label is read up to the space after it. `size` octets of it are read already. -/
theorem scanLabel_chars (ended : Bool) (label : Bytes) (size : Nat) (cs : List Char) (rest : Bytes)
    (hchars : ∀ c ∈ cs, isLabelChar c = true)
    (hfirst : size = 0 → ∃ c ∈ cs.head?, isNameStart c = true) :
    scanLabel ended label size (Utf8.encode cs ++ octet ' ' :: rest) =
      labelToken (label.take (size + (Utf8.encode cs).length)) := by
  induction cs generalizing size with
  | nil =>
    have hsize : size ≠ 0 := fun h => by simpa using hfirst h
    have hhead : Utf8.head (octet ' ') rest = .char ' ' 1 := rfl
    rw [Utf8.encode_nil, List.nil_append, scanLabel_char hhead, if_neg hsize,
      if_neg (by decide), if_neg hsize]
    rfl
  | cons c cs ih =>
    obtain ⟨b, bs, henc, hhead⟩ := Utf8.head_encodeChar c (Utf8.encode cs ++ octet ' ' :: rest)
    have hc : (if size = 0 then isNameStart c else isLabelChar c) = true := by
      split
      · rename_i hsize
        simpa using hfirst hsize
      · exact hchars c (by simp)
    rw [Utf8.encode_cons, henc, List.cons_append, List.cons_append, List.append_assoc,
      scanLabel_char hhead, if_pos hc, Nat.add_sub_cancel, List.drop_left,
      ih _ (fun x hx => hchars x (by simp [hx])) (fun h => by omega)]
    congr 2
    simp only [List.length_cons, List.length_append]
    omega

/-- No dot stands at the end of a label. -/
theorem trailingDots_encode {cs : List Char} (hcs : cs ≠ []) (hdot : cs.getLast? ≠ some '.') :
    trailingDots (Utf8.encode cs) = 0 := by
  obtain ⟨init, c, rfl⟩ : ∃ init c, cs = init ++ [c] :=
    ⟨_, _, (List.dropLast_concat_getLast hcs).symm⟩
  have hc : '.' ∉ [c] := by
    simpa using Ne.symm (by simpa using hdot)
  have hlast : octet '.' ∉ Utf8.encode [c] := by
    rwa [Utf8.octet_mem_encode (by decide)]
  obtain ⟨b, bs, henc, -⟩ := Utf8.head_encodeChar c []
  have hfull : Utf8.encode [c] = b :: bs := by
    rw [Utf8.encode_cons, henc, Utf8.encode_nil, List.append_nil]
  rw [hfull] at hlast
  rw [trailingDots, Utf8.encode_append, hfull, List.reverse_append]
  cases hrev : (b :: bs).reverse with
  | nil => simp at hrev
  | cons x xs =>
    have hx : x ≠ octet '.' := by
      rintro rfl
      exact hlast (List.mem_reverse.1 (hrev ▸ List.mem_cons_self))
    rw [List.cons_append, List.takeWhile_cons_of_neg (by simpa using hx)]
    rfl

theorem encode_blank (b : BlankNode) :
    Utf8.encode b.chars = octet '_' :: octet ':' :: Utf8.encode b.label.toList := by
  rw [BlankNode.chars, Utf8.encode_cons_ascii (by decide), Utf8.encode_cons_ascii (by decide)]

theorem labelToken_encode {cs : List Char} (hcs : cs ≠ []) (hdot : cs.getLast? ≠ some '.') :
    labelToken (Utf8.encode cs) =
      .token (.blank ⟨String.ofList cs⟩) (2 + (Utf8.encode cs).length) := by
  rw [labelToken, trailingDots_encode hcs hdot, Nat.sub_zero, List.take_length,
    Utf8.decodeLossy_encode]

theorem isLabelChar_of_isBlankNodeChar {c : Char} (h : isBlankNodeChar c = true) (hc : c ≠ ':') :
    isLabelChar c = true := by
  simpa [isBlankNodeChar, isLabelChar, hc] using h

theorem spells_blank (mode : Mode) {b : BlankNode} (hb : b.IsLegible) :
    Spells mode (.blank b) (Utf8.encode b.chars) (octet ' ') := by
  obtain ⟨h, hcolon⟩ := hb
  refine ⟨_, _, encode_blank b, by decide, by decide, fun ended rest => ?_⟩
  have hne {c : Char} (hc : c ∈ b.label.toList) : c ≠ ':' := by
    rintro rfl
    exact hcolon hc
  have hchars : ∀ c ∈ b.label.toList, isLabelChar c = true := fun c hc =>
    isLabelChar_of_isBlankNodeChar (isBlankNodeId_chars h c hc) (hne hc)
  obtain ⟨c, cs, hlabel, hfirst, -, hdot⟩ := isBlankNodeId_cons h
  have hstart : isNameStart c = true := hfirst.resolve_right (hne (by simp [hlabel]))
  have hlex : scanLabel ended (Utf8.encode b.label.toList ++ octet ' ' :: rest) 0
      (Utf8.encode b.label.toList ++ octet ' ' :: rest) =
        .token (.blank b) (Utf8.encode b.chars).length := by
    rw [scanLabel_chars ended _ 0 _ rest hchars (fun _ => by simp [hlabel, hstart]), Nat.zero_add,
      List.take_left, labelToken_encode (by simp [hlabel]) hdot, String.ofList_toList,
      encode_blank]
    simp only [List.length_cons]
    congr 1
    omega
  rw [← hlex]
  rfl

/-! ## Languages -/

theorem scanTag_block (mode : Mode) (tag : Bytes) (size : Nat) (first filled : Bool)
    (block : List Char) (rest : Bytes)
    (h : ∀ c ∈ block, c.toNat < 0x80 ∧ (c.isAlpha || (!first && c.isDigit)) = true) :
    scanTag mode tag size first filled (block.map octet ++ rest) =
      scanTag mode tag (size + block.length) first (filled || !block.isEmpty) rest := by
  induction block generalizing size filled with
  | nil => simp
  | cons c block ih =>
    obtain ⟨hascii, hc⟩ := h c (by simp)
    rw [List.map_cons, List.cons_append, scanTag_cons, Utf8.ofUInt8_octet hascii, if_pos hc,
      ih _ _ fun x hx => h x (by simp [hx])]
    simp only [List.length_cons, List.isEmpty_cons, Bool.not_false, Bool.or_true, Bool.true_or]
    congr 1
    omega

/-- Blocks after hyphens are read up to the space after them. -/
theorem scanTag_blocks (mode : Mode) (tag : Bytes) (size : Nat) (first : Bool)
    (blocks : List (List Char)) (rest : Bytes) (hsize : size ≠ 0)
    (h : blocks.all isTagBlock = true) :
    scanTag mode tag size first true
        ((blocks.flatMap ('-' :: ·)).map octet ++ octet ' ' :: rest) =
      tagToken mode (tag.take (size + (blocks.flatMap ('-' :: ·)).length))
        (size + (blocks.flatMap ('-' :: ·)).length) := by
  induction blocks generalizing size first with
  | nil =>
    have hspace : Char.ofUInt8 (octet ' ') = ' ' := by decide
    rw [List.flatMap_nil, List.map_nil, List.nil_append, scanTag_cons, hspace,
      if_neg (by cases first <;> decide), if_neg hsize, if_neg (by decide), if_pos rfl]
    rfl
  | cons block blocks ih =>
    have hhyphen : Char.ofUInt8 (octet '-') = '-' := by decide
    simp only [List.all_cons, Bool.and_eq_true, isTagBlock] at h
    obtain ⟨⟨hfull, hchars⟩, hblocks⟩ := h
    have hblock : ∀ c ∈ block, c.toNat < 0x80 ∧ (c.isAlpha || (!false && c.isDigit)) = true := by
      intro c hc
      have hc := List.all_eq_true.1 hchars c hc
      exact ⟨(isAlphanum_range hc).2, hc⟩
    rw [List.flatMap_cons, List.cons_append, List.map_cons, List.map_append, List.cons_append,
      List.append_assoc, scanTag_cons, hhyphen, if_neg (by cases first <;> decide), if_neg hsize,
      if_pos (by decide), scanTag_block mode tag _ _ _ block _ hblock, hfull, Bool.or_true,
      ih _ _ (by omega) hblocks]
    simp only [List.length_cons, List.length_append]
    rw [show size + 1 + block.length + (blocks.flatMap ('-' :: ·)).length =
      size + (block.length + (blocks.flatMap ('-' :: ·)).length + 1) by omega]

theorem isTagBlock_ascii {block : List Char} (h : block.all Char.isAlphanum = true) :
    ∀ c ∈ block, c.toNat < 0x80 := by
  intro c hc
  exact (isAlphanum_range (List.all_eq_true.1 h c hc)).2

theorem scanTag_tag (mode : Mode) {tag : List Char} (h : areTagBlocks (tag.splitOn '-') = true)
    (rest : Bytes) :
    scanTag mode (tag.map octet ++ octet ' ' :: rest) 0 true false
        (tag.map octet ++ octet ' ' :: rest) =
      tagToken mode (tag.map octet) tag.length := by
  have hjoin := @List.intercalate_splitOn Char tag _ _ '-'
  cases hsplit : tag.splitOn '-' with
  | nil => simp [hsplit, areTagBlocks] at h
  | cons first blocks =>
    simp only [hsplit, areTagBlocks, Bool.and_eq_true] at h
    obtain ⟨⟨hfull, hletters⟩, hblocks⟩ := h
    have hfirst : ∀ c ∈ first, c.toNat < 0x80 ∧ (c.isAlpha || (!true && c.isDigit)) = true := by
      intro c hc
      have hascii := isTagBlock_ascii (all_isAlphanum_of_isAlpha hletters) c hc
      exact ⟨hascii, by simp [List.all_eq_true.1 hletters c hc]⟩
    have hsize : first.length ≠ 0 := by simpa using hfull
    rw [hsplit, intercalate_cons] at hjoin
    -- the octets at hand are read block by block; those of the whole token stay as they are
    have hread (whole : Bytes) :
        scanTag mode whole 0 true false (tag.map octet ++ octet ' ' :: rest) =
          tagToken mode (whole.take tag.length) tag.length := by
      rw [← hjoin, List.map_append, List.append_assoc, scanTag_block mode whole 0 _ _ _ _ hfirst,
        hfull, Nat.zero_add, Bool.or_true, scanTag_blocks mode whole _ _ _ _ hsize hblocks,
        List.length_append]
    have hlength : (tag.map octet).length = tag.length := List.length_map _
    rw [hread, ← hlength, List.take_left]

theorem spells_tag {mode : Mode} {tag : String} (h : IsLegibleTag mode tag) :
    Spells mode (.tag tag) (Utf8.encode ('@' :: tag.toList)) (octet ' ') := by
  obtain ⟨hblocks, hlower, hstrict⟩ := h
  have hascii : ∀ c ∈ tag.toList, c.toNat < 0x80 := by
    intro c hc
    rcases areTagBlocks_chars hblocks c hc with hc | rfl
    · exact (isAlphanum_range hc).2
    · decide
  have henc : Utf8.encode ('@' :: tag.toList) = octet '@' :: tag.toList.map octet := by
    rw [Utf8.encode_cons_ascii (by decide), Utf8.encode_ascii hascii]
  have hmap : (tag.toList.map octet).map (fun b => (Char.ofUInt8 b).toLower) = tag.toList := by
    have hchars : ((tag.toList.map octet).map Char.ofUInt8).map Char.toLower = tag.toList := by
      rw [Utf8.ofUInt8_map_octet hascii, hlower]
    rwa [List.map_map] at hchars
  have hallowed : (decide (mode = .lenient) || isLanguageTag tag.toList) = true := by
    cases mode with
    | strict => rw [hstrict rfl, Bool.or_true]
    | lenient => rfl
  have htoken : tagToken mode (tag.toList.map octet) tag.toList.length =
      .token (.tag tag) (Utf8.encode ('@' :: tag.toList)).length := by
    simp only [tagToken, hmap, hallowed, if_true, String.ofList_toList, henc,
      List.length_cons, List.length_map]
  refine ⟨_, _, henc, by decide, by decide, fun ended rest => ?_⟩
  rw [← htoken, ← scanTag_tag mode hblocks rest]
  rfl

end NTriples
end RdfExport
