import Mathlib.Data.List.TakeWhile
import RdfExport.Proofs.Rdf.WellFormed
import RdfExport.Proofs.Text.Pieces
import RdfExport.Proofs.Text.Trimmed
import RdfExport.Rdf.Term.Reader

/-!
# RdfExport.Proofs.Rdf.Fields

A well-formed term is read from a field of a result table that holds it as it is written, unless
its label has a colon, white space or two dots in a row, which the reader of fields does not take.

* `readIri_chars`, `readValue_valueChars`: the parts of terms, before whatever follows them.
* `isFieldLabel`: the labels that the reader of fields takes.
* `ofField_chars`: whole fields.
-/

namespace RdfExport

namespace Rdf

/-! ## IRIs -/

theorem unescapeIri_eq_self {cs : List Char} (h : ∀ c ∈ cs, c ≠ '\\') :
    unescapeIri cs = some cs := by
  induction cs with
  | nil => rw [unescapeIri]
  | cons c cs ih =>
    have hc : c ≠ '\\' := h c (by simp)
    rw [unescapeIri.eq_3 _ _ fun _ _ heq => absurd heq hc, ih fun x hx => h x (by simp [hx])]
    rfl

theorem isIriChar_ne {c d : Char} (hc : isIriChar c = true) (hd : isIriChar d = false) :
    c ≠ d := by
  rintro rfl
  rw [hc] at hd
  cases hd

theorem readIri_chars {i : Iri} (h : i.isWellFormed = true) (after : List Char) :
    readIri (i.chars ++ after) = .ok (i, after) := by
  have hchars := isAbsoluteIri_chars h
  have hbracket : ∀ c ∈ i.text.toList, (c != '>') = true := by
    intro c hc
    exact bne_iff_ne.2 (isIriChar_ne (hchars c hc) (by decide))
  have hslash : ∀ c ∈ i.text.toList, c ≠ '\\' := by
    intro c hc
    exact isIriChar_ne (hchars c hc) (by decide)
  have habsolute : isAbsoluteIri i.text.toList = true := h
  rw [Iri.chars, List.cons_append, List.cons_append, List.append_assoc, List.singleton_append,
    readIri, dropWhile_before hbracket (by decide), takeWhile_before hbracket (by decide)]
  simp only [unescapeIri_eq_self hslash, if_pos habsolute, String.ofList_toList]

/-! ## Values -/

theorem readValue_escaped {c : Char} {cs : List Char} (h : Escaped c cs) (rest : List Char) :
    readValue (cs ++ rest) = (readValue rest).map fun p => (c :: p.1, p.2) := by
  cases h with
  | plain plain =>
    simp only [isPlainChar, Bool.and_eq_true, decide_eq_true_eq] at plain
    obtain ⟨⟨quote, slash⟩, -⟩ := plain
    rw [List.singleton_append, readValue]
    · exact fun heq => absurd heq quote
    · exact fun heq => absurd heq slash
    · exact fun _ _ heq => absurd heq slash
  | letter k names =>
    rw [List.cons_append, List.singleton_append, readValue, names]
  | number small =>
    have hletter : letterEscape? 'u' = none := by decide
    have hnumber : numberEscape? 'u' = some 4 := by decide
    have hchar : hexChar? 4 (Hex.render4 c.toNat ++ rest) = some c := by
      rw [hexChar?, hexNumber?, Hex.read_render4 small]
      exact Hex.scalar?_toNat c
    have hdrop : (Hex.render4 c.toNat ++ rest).drop 4 = rest := rfl
    rw [List.cons_append, List.cons_append, readValue, hletter, hnumber]
    simp only [hchar, hdrop]

theorem readValue_flatMap (cs after : List Char) :
    readValue (cs.flatMap escapeValue ++ '"' :: after) = .ok (cs, after) := by
  induction cs with
  | nil =>
    rw [List.flatMap_nil, List.nil_append, readValue]
  | cons c cs ih =>
    rw [List.flatMap_cons, List.append_assoc, readValue_escaped (escapeValue_escaped c), ih]
    rfl

/-! ## Marks -/

theorem isTagChar_range {c : Char} (h : isTagChar c = true) : 0x20 < c.toNat ∧ c.toNat < 0x80 := by
  simp only [isTagChar, Bool.or_eq_true, decide_eq_true_eq] at h
  rcases h with h | rfl
  · exact isAlphanum_range h
  · decide

theorem isTagChar_of_isLanguageTag {cs : List Char} (h : isLanguageTag cs = true)
    (hlower : cs.map Char.toLower = cs) : ∀ c ∈ cs, isTagChar c = true := by
  intro c hc
  rcases areTagBlocks_chars (isLanguageTag_blocks h hlower) c hc with hc | rfl
  · simp [isTagChar, hc]
  · decide

theorem tag_getLast?_not_blank {tag : List Char} (h : ∀ c ∈ tag, isTagChar c = true) :
    ∀ c ∈ ('@' :: tag).getLast?, Text.isBlank c = false := by
  intro c hc
  rcases List.mem_cons.1 (List.mem_of_getLast? hc) with rfl | hc
  · decide
  · obtain ⟨hlow, hhigh⟩ := isTagChar_range (h c hc)
    exact Text.isBlank_ascii hlow hhigh

theorem iri_getLast?_not_blank (before : List Char) (i : Iri) :
    ∀ c ∈ (before ++ i.chars).getLast?, Text.isBlank c = false := by
  intro c hc
  rw [Iri.chars, ← List.append_assoc, List.getLast?_concat] at hc
  obtain rfl := Option.mem_some.1 hc
  decide

theorem readMark_tag (value : String) {tag : String} (h : isLanguageTag tag.toList = true)
    (hlower : tag.toList.map Char.toLower = tag.toList) :
    readMark value ('@' :: tag.toList) = .ok (.literal (.tagged value tag)) := by
  have hchars := isTagChar_of_isLanguageTag h hlower
  have htrim : Text.trim ('@' :: tag.toList) = '@' :: tag.toList :=
    Text.trim_eq_self (by simp; decide) (tag_getLast?_not_blank hchars)
  rw [readMark, htrim]
  simp only [List.takeWhile_eq_self_iff.2 hchars, List.dropWhile_eq_nil_iff.2 hchars, hlower,
    if_pos h, String.ofList_toList]
  rfl

theorem readMark_datatype (value : String) {datatype : Iri} (h : datatype.isWellFormed = true)
    (hstring : datatype ≠ xsd "string") :
    readMark value ('^' :: '^' :: datatype.chars) = .ok (.literal (.typed value datatype)) := by
  have htrim : Text.trim ('^' :: '^' :: datatype.chars) = '^' :: '^' :: datatype.chars :=
    Text.trim_eq_self (by simp; decide) (iri_getLast?_not_blank ['^', '^'] datatype)
  have htrim' : Text.trim datatype.chars = datatype.chars :=
    Text.trim_eq_self (by simp [Iri.chars]; decide) (iri_getLast?_not_blank [] datatype)
  have hread := readIri_chars h []
  rw [List.append_nil] at hread
  rw [readMark, htrim]
  simp only [htrim', hread, Literal.ofDatatype, if_neg hstring]
  rfl

/-! ## Whole fields -/

/-- Labels that the reader of fields takes: no colon, no white space, no two dots in a row. -/
def isFieldLabel (cs : List Char) : Bool :=
  isStatementLabel cs && !cs.any Text.isBlank && !hasDoubleDot cs

theorem endsLabel_eq_false {c : Char} (hchar : isBlankNodeChar c = true) (hcolon : c ≠ ':')
    (hblank : Text.isBlank c = false) : endsLabel c = false := by
  have hne {d : Char} (hd : isBlankNodeChar d = false) : c ≠ d := by
    rintro rfl
    rw [hchar] at hd
    cases hd
  simp (disch := decide) [endsLabel, hblank, hcolon, hne]

theorem readLabel_label {b : BlankNode} (h : b.isWellFormed = true)
    (hfield : isFieldLabel b.label.toList = true) : readLabel b.label.toList = .ok b := by
  have hid : isBlankNodeId b.label.toList = true := h
  simp only [isFieldLabel, isStatementLabel, Bool.and_eq_true, Bool.not_eq_true',
    List.any_eq_false] at hfield
  obtain ⟨⟨hcolon, hblank⟩, hdots⟩ := hfield
  have hends : b.label.toList.any endsLabel = false := by
    rw [List.any_eq_false]
    intro c hc
    have hne : c ≠ ':' := by
      rintro rfl
      rw [List.contains_iff_mem.2 hc] at hcolon
      cases hcolon
    rw [endsLabel_eq_false (isBlankNodeId_chars h c hc) hne (by simpa using hblank c hc)]
    exact Bool.false_ne_true
  simp [readLabel, hends, hdots, hid]

theorem readTerm_iri {i : Iri} (h : i.isWellFormed = true) :
    readTerm i.chars = .ok (.node (.iri i)) := by
  obtain ⟨c, rest, htext, hletter⟩ := isAbsoluteIri_head h
  have hc : c ≠ '<' := by
    rintro rfl
    cases hletter
  have hread := readIri_chars h []
  rw [List.append_nil] at hread
  rw [Iri.chars, htext, List.cons_append, List.cons_append] at hread ⊢
  rw [readTerm, hread]
  · rfl
  · exact fun _ heq => absurd (List.cons.inj heq).1 hc

theorem readTerm_value (value : String) (after : List Char) :
    readTerm (valueChars value ++ after) = readMark value after := by
  rw [valueChars, List.cons_append, List.cons_append, List.append_assoc, List.singleton_append,
    readTerm, readValue_flatMap]
  simp only [String.ofList_toList]

/-- A value in quotes is not trimmed, and what follows it only at its end. -/
theorem trim_value (value : String) {after : List Char}
    (h : ∀ c ∈ after.getLast?, Text.isBlank c = false) :
    Text.trim (valueChars value ++ after) = valueChars value ++ after := by
  refine Text.trim_eq_self (by simp [valueChars]; decide) ?_
  rw [List.getLast?_append]
  cases hlast : after.getLast? with
  | none =>
    intro c hc
    rw [valueChars, List.getLast?_concat] at hc
    obtain rfl := Option.mem_some.1 hc
    decide
  | some c => simpa [hlast] using h

theorem trim_label {b : BlankNode} (hlabel : isFieldLabel b.label.toList = true) :
    Text.trim b.chars = b.chars := by
  refine Text.trim_eq_self (by simp [BlankNode.chars]; decide) ?_
  intro c hc
  have hmem := List.mem_of_getLast? hc
  simp only [BlankNode.chars, List.mem_cons] at hmem
  rcases hmem with rfl | rfl | hmem
  · decide
  · decide
  · simp only [isFieldLabel, Bool.and_eq_true, Bool.not_eq_true', List.any_eq_false] at hlabel
    simpa using hlabel.1.2 c hmem

/-- **A well-formed term is read from the field that holds it as it is written.** -/
theorem ofField_chars {t : Term} (h : t.isWellFormed = true)
    (hlabel : t.everyLabel isFieldLabel = true) : Term.ofField t.chars = .ok t := by
  rw [Term.ofField]
  cases t with
  | node n =>
    cases n with
    | iri i =>
      have htrim : Text.trim i.chars = i.chars :=
        Text.trim_eq_self (by simp [Iri.chars]; decide) (iri_getLast?_not_blank [] i)
      rw [Term.chars, Node.chars, htrim]
      exact readTerm_iri h
    | blank b =>
      rw [Term.chars, Node.chars, trim_label hlabel, BlankNode.chars, readTerm,
        readLabel_label h hlabel]
      rfl
  | literal l =>
    cases l with
    | plain value =>
      have htrim := @trim_value value [] (by simp)
      have hread := readTerm_value value []
      rw [List.append_nil] at htrim hread
      rw [Term.chars, Literal.chars, htrim, hread]
      rfl
    | tagged value tag =>
      simp only [Term.isWellFormed, Literal.isWellFormed, Bool.and_eq_true, decide_eq_true_eq] at h
      have hchars := isTagChar_of_isLanguageTag h.1 h.2
      rw [Term.chars, Literal.chars, trim_value value (tag_getLast?_not_blank hchars),
        readTerm_value]
      exact readMark_tag value h.1 h.2
    | typed value datatype =>
      simp only [Term.isWellFormed, Literal.isWellFormed, Bool.and_eq_true, decide_eq_true_eq] at h
      have htrim := @trim_value value ('^' :: '^' :: datatype.chars)
        (iri_getLast?_not_blank ['^', '^'] datatype)
      rw [Term.chars, Literal.chars, htrim, readTerm_value]
      exact readMark_datatype value h.1 h.2

end Rdf
end RdfExport
