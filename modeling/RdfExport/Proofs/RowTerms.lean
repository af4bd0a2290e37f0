import RdfExport.Proofs.Conversion
import RdfExport.Proofs.Counting

/-!
# RdfExport.Proofs.RowTerms

What the rows of a table hold. A field holds a well-formed term if it holds one at all, so a
statement that a row describes is written on one line.

* `ofField_isWellFormed`: one field, part by part.
* `Bindings.isWellFormed`: rows of well-formed terms.
* `decoding_isRow`: the rows of a table, whatever octets it is read from.
-/

namespace RdfExport
namespace Rdf

/-! ## Fields -/

theorem finish_eq_ok {left : List Char} {t t' : Term} (h : finish left t = .ok t') : t = t' := by
  unfold finish at h
  split at h
  · cases h
    rfl
  · cases h

theorem readIri_isWellFormed {cs after : List Char} {i : Iri} (h : readIri cs = .ok (i, after)) :
    i.isWellFormed = true := by
  unfold readIri at h
  split at h
  case h_2 => cases h
  case h_1 rest =>
    split at h
    case h_1 => cases h
    case h_2 =>
      split at h
      case h_2 => cases h
      case h_1 text _ =>
        split at h
        case isFalse => cases h
        case isTrue habsolute =>
          cases h
          simpa [Iri.isWellFormed] using habsolute

theorem readLabel_isWellFormed {cs : List Char} {b : BlankNode} (h : readLabel cs = .ok b) :
    b.isWellFormed = true := by
  unfold readLabel at h
  split at h
  · cases h
  split at h
  · cases h
  · rename_i hid
    cases h
    simp only [Bool.or_eq_true, Bool.not_eq_true', not_or, Bool.not_eq_true,
      Bool.not_eq_false] at hid
    simpa [BlankNode.isWellFormed] using hid.2

theorem Literal.ofDatatype_isWellFormed {value : String} {datatype : Iri}
    (h : datatype.isWellFormed = true) :
    (Literal.ofDatatype value datatype).isWellFormed = true := by
  unfold Literal.ofDatatype
  split
  · rfl
  · rename_i hstring
    simp [Literal.isWellFormed, h, hstring]

theorem readMark_isWellFormed {value : String} {after : List Char} {t : Term}
    (h : readMark value after = .ok t) :
    t.isWellFormed = true := by
  unfold readMark at h
  split at h
  case h_1 rest =>
    dsimp only at h
    split at h
    case isFalse => cases h
    case isTrue htag =>
      obtain rfl := finish_eq_ok h
      simpa [Term.isWellFormed, Literal.isWellFormed, Function.comp_def, toLower_toLower] using htag
  case h_2 rest =>
    split at h
    case h_2 => cases h
    case h_1 datatype left hread =>
      obtain rfl := finish_eq_ok h
      exact Literal.ofDatatype_isWellFormed (readIri_isWellFormed hread)
  case h_3 =>
    obtain rfl := finish_eq_ok h
    rfl

theorem readNumber_isWellFormed {cs left : List Char} {l : Literal}
    (h : readNumber cs = .ok (l, left)) : l.isWellFormed = true := by
  unfold readNumber at h
  extract_lets unsigned whole afterWhole hasPoint fraction afterFraction number at h
  have hnumber : ∀ name ∈ ["double", "decimal", "integer"], ∀ rest,
      (Except.ok (number rest name) : Except TermFault _) = .ok (l, left) →
        l.isWellFormed = true := by
    intro name hname rest heq
    obtain rfl : (number rest name).1 = l := congrArg Prod.fst (Except.ok.inj heq)
    have hdatatype : ∀ name ∈ ["double", "decimal", "integer"],
        ((xsd name).isWellFormed && xsd name ≠ xsd "string") = true := by decide
    exact hdatatype name hname
  split at h
  · split at h
    · exact hnumber _ (by simp) _ h
    · cases h
  split at h
  · split at h
    · cases h
    · exact hnumber _ (by simp) _ h
  split at h
  · cases h
  · exact hnumber _ (by simp) _ h

theorem readTerm_isWellFormed {cs : List Char} {t : Term} (h : readTerm cs = .ok t) :
    t.isWellFormed = true := by
  unfold readTerm at h
  split at h
  case h_1 => cases h
  case h_2 =>
    split at h
    case h_2 => cases h
    case h_1 i left hread =>
      obtain rfl := finish_eq_ok h
      exact readIri_isWellFormed hread
  case h_3 =>
    split at h
    case h_2 => cases h
    case h_1 label =>
      cases hlabel : readLabel label with
      | error f =>
        rw [hlabel] at h
        cases h
      | ok b =>
        rw [hlabel] at h
        cases h
        exact readLabel_isWellFormed hlabel
  case h_4 =>
    split at h
    case h_2 => cases h
    case h_1 => exact readMark_isWellFormed h
  case h_5 | h_6 =>
    obtain rfl := finish_eq_ok h
    decide
  case h_7 =>
    split at h
    case h_2 => cases h
    case h_1 l left hread =>
      obtain rfl := finish_eq_ok h
      exact readNumber_isWellFormed hread

/-- **A field holds a well-formed term, if it holds one at all.** -/
theorem ofField_isWellFormed {field : List Char} {t : Term} (h : Term.ofField field = .ok t) :
    t.isWellFormed = true := readTerm_isWellFormed h

/-! ## Rows -/

def Bindings.isWellFormed (b : Bindings) : Bool := b.values.all fun p => p.2.isWellFormed

theorem Bindings.Binds.isWellFormed {b : Bindings} {name : String} {t : Term}
    (h : b.Binds name t) (hb : b.isWellFormed = true) : t.isWellFormed = true := by
  obtain ⟨before, v, after, hvalues, -⟩ := h
  exact List.all_eq_true.1 hb (v, t) (by simp [hvalues])

theorem Bindings.isWellFormed_toQuad? {b : Bindings} {q : Quad} (hb : b.isWellFormed = true)
    (hq : b.toQuad? = some q) : q.isWellFormed = true := by
  have hstates := Bindings.toQuad?_eq_some_iff.1 hq
  have hs : (Term.node q.subject).isWellFormed = true := hstates.subject.isWellFormed hb
  have hp : (Term.node (.iri q.predicate)).isWellFormed = true := hstates.predicate.isWellFormed hb
  have ho : q.object.isWellFormed = true := hstates.object.isWellFormed hb
  have hg : q.graph.all Node.isWellFormed = true := by
    cases hgraph : q.graph with
    | none => rfl
    | some g => exact (hstates.graph g hgraph).isWellFormed hb
  simp only [Quad.isWellFormed, Quad.triple, Triple.isWellFormed, Bool.and_eq_true]
  exact ⟨⟨⟨hs, hp⟩, ho⟩, hg⟩

end Rdf

open Rdf

theorem readFields_isWellFormed {n : Nat} {pairs : List (Variable × List Char)}
    {values : List (Variable × Term)} (h : readFields n pairs = .ok values) :
    ∀ p ∈ values, p.2.isWellFormed = true := by
  induction pairs generalizing values with
  | nil =>
    cases h
    simp
  | cons pair pairs ih =>
    obtain ⟨v, field⟩ := pair
    rw [readFields] at h
    split at h
    · exact ih h
    · cases hterm : Term.ofField field with
      | error f => simp [hterm] at h
      | ok t =>
        cases hrest : readFields n pairs with
        | error f => simp [hterm, hrest, Except.map] at h
        | ok rest =>
          simp only [hterm, hrest, Except.map, Except.ok.injEq] at h
          subst h
          exact List.forall_mem_cons.2 ⟨ofField_isWellFormed hterm, ih hrest⟩

theorem readRow_isWellFormed {vars : List Variable} {n : Nat} {text : List Char} {b : Bindings}
    (h : readRow vars n text = .ok (some b)) : b.isWellFormed = true := by
  unfold readRow at h
  split at h
  · cases h
  dsimp only at h
  split at h
  · cases h
  · cases hfields : readFields n (vars.zip (text.splitOn '\t')) with
    | error f => simp [hfields, Except.map] at h
    | ok values =>
      simp only [hfields, Except.map, Except.ok.injEq, Option.some.injEq] at h
      subst h
      exact List.all_eq_true.2 (readFields_isWellFormed hfields)

theorem Table.readLine_isWellFormed {header : Option (List Variable)} {n : Nat} {raw : Bytes}
    {vars : List Variable} {b : Bindings} (h : Table.readLine header n raw = .ok (vars, some b)) :
    b.isWellFormed = true := by
  unfold Table.readLine at h
  cases htext : readText n raw with
  | error f => simp [htext] at h
  | ok text =>
    simp only [htext] at h
    cases header with
    | none => cases hheader : readHeader text <;> simp [hheader, Except.map] at h
    | some known =>
      cases hrow : readRow known n text with
      | error f => simp [hrow, Except.map] at h
      | ok row =>
        simp only [hrow, Except.map, Except.ok.injEq, Prod.mk.injEq] at h
        rw [h.2] at hrow
        exact readRow_isWellFormed hrow

namespace TupleDecoder

/-- That a record is a row of well-formed terms. -/
def IsRow (record : Record) : Prop := ∃ b, record = .row b ∧ b.isWellFormed = true

theorem takeLine_isRow (raw : Bytes) (s : TupleDecoder × List Record)
    (hkept : ∀ r ∈ s.2, IsRow r) : ∀ r ∈ (takeLine Sink.collect raw s).2.2, IsRow r := by
  obtain ⟨d, kept⟩ := s
  rw [takeLine_eq]
  cases hline : Table.readLine d.header (d.line + 1) raw with
  | error f => exact hkept
  | ok line =>
    obtain ⟨vars, row⟩ := line
    cases row with
    | none => exact hkept
    | some b =>
      intro r hr
      rcases List.mem_append.1 hr with hr | hr
      · exact hkept r hr
      · exact ⟨b, List.mem_singleton.1 hr, Table.readLine_isWellFormed hline⟩

theorem lineWise_isRow : LineWise Sink.collect fun s s' =>
    (∀ r ∈ s.2, IsRow r) → ∀ r ∈ s'.2, IsRow r where
  line := takeLine_isRow
  held _ _ _ _ h := h
  trans h h' := h' ∘ h

theorem fed_isRow (chunk : Bytes) (d : TupleDecoder) :
    ∀ r ∈ (Decoder.fed chunk d).records, IsRow r := by
  rw [Decoder.fed, Emission.ofCollected, Outcome.settled_snd]
  exact lineWise_isRow.feed chunk (d, []) (by simp)

theorem closed_isRow (d : TupleDecoder) : ∀ r ∈ (Decoder.closed d).records, IsRow r := by
  rw [Decoder.closed, Emission.ofCollected, Outcome.settled_snd]
  exact lineWise_isRow.close (d, []) (by simp)

/-- **The rows of a table hold well-formed terms**, whatever octets it is read from. -/
theorem decoding_isRow (bytes : Bytes) (d : TupleDecoder) :
    ∀ r ∈ (Decoder.decoding bytes d).records, IsRow r := by
  intro r hr
  rw [Decoder.decoding] at hr
  cases hfed : (Decoder.fed bytes d).ending with
  | error e =>
    rw [Emission.andThen_error hfed] at hr
    exact fed_isRow bytes d r hr
  | ok d' =>
    rw [Emission.andThen_ok hfed] at hr
    rcases List.mem_append.1 hr with hr | hr
    · exact fed_isRow bytes d r hr
    · exact closed_isRow d' r hr

end TupleDecoder
end RdfExport
