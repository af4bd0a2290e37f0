import RdfExport.Proofs.Rdf.Iri
import RdfExport.Proofs.Rdf.LanguageTag
import RdfExport.Proofs.Text.Hex
import RdfExport.Rdf.Name
import RdfExport.Rdf.Term.Escape
import RdfExport.Rdf.Term.Printer

/-!
# RdfExport.Proofs.Rdf.WellFormed

Well-formed terms, and what they are written with.

* `Term.isWellFormed`, `Triple.isWellFormed`: absolute IRIs, valid labels and valid languages.
* `Term.everyLabel`, `isStatementLabel`, `Term.datatype?`: what a reader may ask of terms besides.
* `Escaped`: how a character of a value is written.
* `Term.chars_printable`: a well-formed term is written without control characters.
-/

namespace RdfExport

namespace Rdf

/-! ## Well-formed terms -/

def Iri.isWellFormed (i : Iri) : Bool := isAbsoluteIri i.text.toList

def BlankNode.isWellFormed (b : BlankNode) : Bool := isBlankNodeId b.label.toList

def Node.isWellFormed : Node → Bool
  | .iri i => i.isWellFormed
  | .blank b => b.isWellFormed

/-- Languages are kept in lowercase, and text of the datatype `xsd:string` as plain text. -/
def Literal.isWellFormed : Literal → Bool
  | .plain _ => true
  | .tagged _ tag => isLanguageTag tag.toList && tag.toList.map Char.toLower = tag.toList
  | .typed _ datatype => datatype.isWellFormed && datatype ≠ xsd "string"

def Term.isWellFormed : Term → Bool
  | .node n => n.isWellFormed
  | .literal l => l.isWellFormed

def Triple.isWellFormed (t : Triple) : Bool :=
  t.subject.isWellFormed && t.predicate.isWellFormed && t.object.isWellFormed

def Node.everyLabel (p : List Char → Bool) : Node → Bool
  | .iri _ => true
  | .blank b => p b.label.toList

def Term.everyLabel (p : List Char → Bool) : Term → Bool
  | .node n => n.everyLabel p
  | .literal _ => true

def Triple.everyLabel (p : List Char → Bool) (t : Triple) : Bool :=
  t.subject.everyLabel p && t.object.everyLabel p

/-- Labels that the reader of statements takes: no colon. -/
def isStatementLabel (cs : List Char) : Bool := !cs.contains ':'

def Term.datatype? : Term → Option Iri
  | .literal (.typed _ datatype) => some datatype
  | _ => none

/-! ## Characters -/

theorem not_below_space {p : Char → Bool} (hp : ∀ n < 0x20, p (Char.ofNat n) = false) {c : Char}
    (hc : p c = true) : 0x20 ≤ c.toNat := by
  refine Nat.not_lt.1 fun hlow => ?_
  have h := hp c.toNat hlow
  rw [Char.ofNat_toNat, hc] at h
  cases h

theorem isIriChar_printable {c : Char} (h : isIriChar c = true) : 0x20 ≤ c.toNat :=
  not_below_space (by decide) h

theorem isBlankNodeChar_printable {c : Char} (h : isBlankNodeChar c = true) : 0x20 ≤ c.toNat :=
  not_below_space (by decide) h

theorem isBlankNodeId_cons {cs : List Char} (h : isBlankNodeId cs = true) :
    ∃ c rest, cs = c :: rest ∧ (isNameStart c = true ∨ c = ':') ∧
      (∀ x ∈ rest, isBlankNodeChar x = true) ∧ cs.getLast? ≠ some '.' := by
  cases cs with
  | nil => cases h
  | cons c rest =>
    simp only [isBlankNodeId, Bool.and_eq_true, Bool.or_eq_true, decide_eq_true_eq, bne_iff_ne,
      List.all_eq_true] at h
    exact ⟨c, rest, rfl, h.1.1, h.1.2, h.2⟩

theorem isBlankNodeId_chars {cs : List Char} (h : isBlankNodeId cs = true) :
    ∀ c ∈ cs, isBlankNodeChar c = true := by
  obtain ⟨c, rest, rfl, hfirst, hrest, -⟩ := isBlankNodeId_cons h
  intro x hx
  rcases List.mem_cons.1 hx with rfl | hx
  · rcases hfirst with hfirst | rfl
    · simp [isBlankNodeChar, isNameChar, hfirst]
    · decide
  · exact hrest x hx

/-! ## Values -/

/-- Characters that may stand for themselves in a value. -/
def isPlainChar (c : Char) : Bool := c ≠ '"' && c ≠ '\\' && 0x20 ≤ c.toNat

/-- How a character of a value is written: as it is, by a letter or by its number. -/
inductive Escaped (c : Char) : List Char → Prop where
  | plain (plain : isPlainChar c = true) : Escaped c [c]
  | letter (k : Char) (names : letterEscape? k = some c) (number : numberEscape? k = none)
      (visible : 0x20 ≤ k.toNat) (ascii : k.toNat < 0x80) : Escaped c ['\\', k]
  | number (small : c.toNat < 65536) : Escaped c ('\\' :: 'u' :: Hex.render4 c.toNat)

theorem escapeValue_escaped (c : Char) : Escaped c (escapeValue c) := by
  unfold escapeValue
  split
  · subst_vars
    exact .letter 'b' (by decide) (by decide) (by decide) (by decide)
  split
  · subst_vars
    exact .letter 't' (by decide) (by decide) (by decide) (by decide)
  split
  · subst_vars
    exact .letter 'n' (by decide) (by decide) (by decide) (by decide)
  split
  · subst_vars
    exact .letter 'f' (by decide) (by decide) (by decide) (by decide)
  split
  · subst_vars
    exact .letter 'r' (by decide) (by decide) (by decide) (by decide)
  split
  · subst_vars
    exact .letter '"' (by decide) (by decide) (by decide) (by decide)
  split
  · subst_vars
    exact .letter '\\' (by decide) (by decide) (by decide) (by decide)
  split
  · exact .number (by omega)
  · rename_i hquote hslash hnumber
    refine .plain ?_
    simp only [isPlainChar, Bool.and_eq_true, decide_eq_true_eq]
    exact ⟨⟨hquote, hslash⟩, by omega⟩

theorem Escaped.chars_printable {c : Char} {cs : List Char} (h : Escaped c cs) :
    ∀ x ∈ cs, 0x20 ≤ x.toNat := by
  cases h with
  | plain plain =>
    simp only [isPlainChar, Bool.and_eq_true, decide_eq_true_eq] at plain
    simpa using plain.2
  | letter k _ _ visible =>
    intro x hx
    simp only [List.mem_cons, List.not_mem_nil, or_false] at hx
    rcases hx with rfl | rfl
    · decide
    · exact visible
  | number =>
    intro x hx
    rcases List.mem_cons.1 hx with rfl | hx
    · decide
    rcases List.mem_cons.1 hx with rfl | hx
    · decide
    · have := Hex.render4_ascii _ x hx
      omega

theorem valueChars_printable (value : String) : ∀ c ∈ valueChars value, 0x20 ≤ c.toNat := by
  intro c hc
  simp only [valueChars, List.cons_append, List.mem_cons, List.mem_append, List.mem_flatMap,
    List.not_mem_nil, or_false] at hc
  rcases hc with rfl | ⟨x, -, hc⟩ | rfl
  · decide
  · exact (escapeValue_escaped x).chars_printable c hc
  · decide

theorem Iri.chars_printable {i : Iri} (h : i.isWellFormed = true) :
    ∀ c ∈ i.chars, 0x20 ≤ c.toNat := by
  intro c hc
  simp only [Iri.chars, List.cons_append, List.mem_cons, List.mem_append, List.not_mem_nil,
    or_false] at hc
  rcases hc with rfl | hc | rfl
  · decide
  · exact isIriChar_printable (isAbsoluteIri_chars h c hc)
  · decide

theorem Node.chars_printable {n : Node} (h : n.isWellFormed = true) :
    ∀ c ∈ n.chars, 0x20 ≤ c.toNat := by
  cases n with
  | iri i => exact Iri.chars_printable h
  | blank b =>
    intro c hc
    simp only [Node.chars, BlankNode.chars, List.mem_cons] at hc
    rcases hc with rfl | rfl | hc
    · decide
    · decide
    · exact isBlankNodeChar_printable (isBlankNodeId_chars h c hc)

/-- **A well-formed term is written without control characters**, so without a TAB or a line end. -/
theorem Term.chars_printable {t : Term} (h : t.isWellFormed = true) :
    ∀ c ∈ t.chars, 0x20 ≤ c.toNat := by
  cases t with
  | node n => exact Node.chars_printable h
  | literal l =>
    cases l with
    | plain value => exact valueChars_printable value
    | tagged value tag =>
      simp only [Term.isWellFormed, Literal.isWellFormed, Bool.and_eq_true,
        decide_eq_true_eq] at h
      intro c hc
      simp only [Term.chars, Literal.chars, List.mem_append, List.mem_cons] at hc
      rcases hc with hc | rfl | hc
      · exact valueChars_printable value c hc
      · decide
      · rcases areTagBlocks_chars (isLanguageTag_blocks h.1 h.2) c hc with hc | rfl
        · exact isIriChar_printable (isIriChar_of_isAlphanum hc)
        · decide
    | typed value datatype =>
      simp only [Term.isWellFormed, Literal.isWellFormed, Bool.and_eq_true] at h
      intro c hc
      simp only [Term.chars, Literal.chars, List.mem_append, List.mem_cons] at hc
      rcases hc with hc | rfl | rfl | hc
      · exact valueChars_printable value c hc
      · decide
      · decide
      · exact Iri.chars_printable h.1 c hc

end Rdf
end RdfExport
