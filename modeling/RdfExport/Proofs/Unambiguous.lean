import RdfExport.Proofs.Conversion
import RdfExport.Proofs.Forwarding

/-!
# RdfExport.Proofs.Unambiguous

What is written of statements can be read in one way only. Each part of a line shows where it
ends: a resource at the first space, a value in quotes at the first quote that is not escaped, and
what marks a value at the first space again; and each line at its line end.

* `Node.chars_prefix`, `Term.chars_prefix`: a term and the space after it.
* `Quad.line_inj`: one line.
* `Quad.row`: the row that describes a statement.
* `nquads_unambiguous`: what is written of a list of statements.
-/

namespace RdfExport

theorem cut_at_space {a b r r' : List Char} (ha : ' ' ∉ a) (hb : ' ' ∉ b)
    (h : a ++ ' ' :: r = b ++ ' ' :: r') : a = b ∧ r = r' := by
  have hne {cs : List Char} (hcs : ' ' ∉ cs) : ∀ c ∈ cs, (c != ' ') = true := by
    intro c hc
    exact bne_iff_ne.2 fun heq => hcs (heq ▸ hc)
  have hbefore := congrArg (List.takeWhile (· != ' ')) h
  rw [takeWhile_before (hne ha) (by decide), takeWhile_before (hne hb) (by decide)] at hbefore
  subst hbefore
  exact ⟨rfl, List.cons.inj (List.append_cancel_left h) |>.2⟩

namespace Rdf

/-! ## Resources -/

theorem Iri.space_not_mem {i : Iri} (h : i.isWellFormed = true) : ' ' ∉ i.chars := by
  have htext : ' ' ∉ i.text.toList := fun hmem =>
    isIriChar_ne (isAbsoluteIri_chars h _ hmem) (by decide) rfl
  simpa [Iri.chars] using htext

theorem Node.space_not_mem {n : Node} (h : n.isWellFormed = true) : ' ' ∉ n.chars := by
  cases n with
  | iri i => exact Iri.space_not_mem h
  | blank b =>
    have hlabel : ' ' ∉ b.label.toList := by
      intro hmem
      have := isBlankNodeId_chars h _ hmem
      revert this
      decide
    simpa [Node.chars, BlankNode.chars] using hlabel

theorem Iri.chars_injective : Function.Injective Iri.chars := by
  rintro ⟨text⟩ ⟨text'⟩ h
  simp only [Iri.chars, List.cons_append, List.cons.injEq, List.append_cancel_right_eq, true_and,
    String.toList_inj] at h
  rw [h]

theorem Node.chars_injective : Function.Injective Node.chars := by
  intro n n' h
  cases n with
  | iri i =>
    cases n' with
    | iri i' => rw [Iri.chars_injective h]
    | blank b' => simp [Node.chars, Iri.chars, BlankNode.chars] at h
  | blank b =>
    cases n' with
    | iri i' => simp [Node.chars, Iri.chars, BlankNode.chars] at h
    | blank b' =>
      obtain ⟨label⟩ := b
      obtain ⟨label'⟩ := b'
      simp only [Node.chars, BlankNode.chars, List.cons.injEq, true_and, String.toList_inj] at h
      rw [h]

theorem Node.chars_prefix {n n' : Node} (h : n.isWellFormed = true) (h' : n'.isWellFormed = true)
    {r r' : List Char} (heq : n.chars ++ ' ' :: r = n'.chars ++ ' ' :: r') : n = n' ∧ r = r' := by
  obtain ⟨hchars, hrest⟩ := cut_at_space (Node.space_not_mem h) (Node.space_not_mem h') heq
  exact ⟨Node.chars_injective hchars, hrest⟩

/-! ## Literals -/

def Literal.value : Literal → String
  | .plain value => value
  | .tagged value _ => value
  | .typed value _ => value

/-- What is written of a literal after its value. -/
def Literal.mark : Literal → List Char
  | .plain _ => []
  | .tagged _ tag => '@' :: tag.toList
  | .typed _ datatype => '^' :: '^' :: datatype.chars

theorem Literal.chars_eq (l : Literal) : l.chars = valueChars l.value ++ l.mark := by
  cases l with
  | plain value => exact (List.append_nil _).symm
  | tagged value tag => rfl
  | typed value datatype => rfl

theorem Literal.eq_of_mark {l l' : Literal} (hvalue : l.value = l'.value)
    (hmark : l.mark = l'.mark) : l = l' := by
  cases l <;> cases l' <;> simp_all [Literal.value, Literal.mark, Iri.chars_injective.eq_iff,
    String.toList_inj]

theorem Literal.space_not_mem_mark {l : Literal} (h : l.isWellFormed = true) : ' ' ∉ l.mark := by
  cases l with
  | plain value => simp [Literal.mark]
  | tagged value tag =>
    simp only [Literal.isWellFormed, Bool.and_eq_true, decide_eq_true_eq] at h
    have htag : ' ' ∉ tag.toList := by
      intro hmem
      have := isTagChar_of_isLanguageTag h.1 h.2 _ hmem
      revert this
      decide
    simpa [Literal.mark] using htag
  | typed value datatype =>
    simp only [Literal.isWellFormed, Bool.and_eq_true] at h
    simpa [Literal.mark] using Iri.space_not_mem h.1

/-- A value ends at its closing quote, whatever it holds and whatever follows. -/
theorem valueChars_prefix {value value' : String} {r r' : List Char}
    (h : valueChars value ++ r = valueChars value' ++ r') : value = value' ∧ r = r' := by
  simp only [valueChars, List.cons_append, List.append_assoc, List.nil_append,
    List.cons.injEq, true_and] at h
  have hread := congrArg readValue h
  simpa only [readValue_flatMap, Except.ok.injEq, Prod.mk.injEq, String.toList_inj] using hread

theorem Literal.chars_prefix {l l' : Literal} (h : l.isWellFormed = true)
    (h' : l'.isWellFormed = true) {r r' : List Char}
    (heq : l.chars ++ ' ' :: r = l'.chars ++ ' ' :: r') : l = l' ∧ r = r' := by
  rw [Literal.chars_eq, Literal.chars_eq, List.append_assoc, List.append_assoc] at heq
  obtain ⟨hvalue, hafter⟩ := valueChars_prefix heq
  obtain ⟨hmark, hrest⟩ :=
    cut_at_space (Literal.space_not_mem_mark h) (Literal.space_not_mem_mark h') hafter
  exact ⟨Literal.eq_of_mark hvalue hmark, hrest⟩

/-! ## Terms and lines -/

theorem Node.chars_append_ne {n : Node} {c : Char} (hiri : c ≠ '<') (hblank : c ≠ '_')
    (r r' : List Char) : n.chars ++ r ≠ c :: r' := by
  intro h
  cases n with
  | iri i => exact hiri (List.cons.inj h).1.symm
  | blank b => exact hblank (List.cons.inj h).1.symm

/-- **A term shows where it ends**: two texts that start with a term and a space are the same only
if the terms are. -/
theorem Term.chars_prefix {t t' : Term} (h : t.isWellFormed = true) (h' : t'.isWellFormed = true)
    {r r' : List Char} (heq : t.chars ++ ' ' :: r = t'.chars ++ ' ' :: r') : t = t' ∧ r = r' := by
  cases t with
  | node n =>
    cases t' with
    | node n' =>
      obtain ⟨rfl, hrest⟩ := Node.chars_prefix h h' heq
      exact ⟨rfl, hrest⟩
    | literal l' =>
      rw [Term.chars, Term.chars, Literal.chars_eq] at heq
      exact absurd heq (Node.chars_append_ne (by decide) (by decide) _ _)
  | literal l =>
    cases t' with
    | node n' =>
      rw [Term.chars, Term.chars, Literal.chars_eq] at heq
      exact absurd heq.symm (Node.chars_append_ne (by decide) (by decide) _ _)
    | literal l' =>
      obtain ⟨rfl, hrest⟩ := Literal.chars_prefix h h' heq
      exact ⟨rfl, hrest⟩

def graphTail : Option Node → List Char
  | none => ['.', '\n']
  | some g => g.chars ++ [' ', '.', '\n']

theorem graphTail_inj {g g' : Option Node} (h : g.all Node.isWellFormed = true)
    (h' : g'.all Node.isWellFormed = true) (heq : graphTail g = graphTail g') : g = g' := by
  cases g with
  | none =>
    cases g' with
    | none => rfl
    | some g' => exact absurd heq.symm (Node.chars_append_ne (by decide) (by decide) _ _)
  | some g =>
    cases g' with
    | none => exact absurd heq (Node.chars_append_ne (by decide) (by decide) _ _)
    | some g' => rw [(Node.chars_prefix h h' heq).1]

theorem Quad.line_eq (q : Quad) :
    q.line = q.subject.chars ++ ' ' :: ((Node.iri q.predicate).chars ++
      ' ' :: (q.object.chars ++ ' ' :: graphTail q.graph)) := by
  cases hgraph : q.graph <;> simp [Quad.line, Node.chars, graphTail, hgraph]

/-- **A line is written of one statement only.** -/
theorem Quad.line_inj {q q' : Quad} (h : q.isWellFormed = true) (h' : q'.isWellFormed = true)
    (heq : q.line = q'.line) : q = q' := by
  simp only [Quad.isWellFormed, Quad.triple, Triple.isWellFormed, Bool.and_eq_true] at h h'
  obtain ⟨⟨⟨hs, hp⟩, ho⟩, hg⟩ := h
  obtain ⟨⟨⟨hs', hp'⟩, ho'⟩, hg'⟩ := h'
  rw [Quad.line_eq, Quad.line_eq] at heq
  -- from left to right, each term with the space after it
  obtain ⟨hsubject, heq⟩ := Node.chars_prefix hs hs' heq
  obtain ⟨hpredicate, heq⟩ := @Node.chars_prefix (.iri _) (.iri _) hp hp' _ _ heq
  obtain ⟨hobject, heq⟩ := Term.chars_prefix ho ho' heq
  have hgraph := graphTail_inj hg hg' heq
  cases q
  cases q'
  cases hsubject
  cases hpredicate
  cases hobject
  cases hgraph
  rfl

/-- The row that describes a statement: no column for the default graph. -/
def Quad.row (q : Quad) : Bindings :=
  ⟨[(⟨"s"⟩, .node q.subject), (⟨"p"⟩, .node (.iri q.predicate)), (⟨"o"⟩, q.object)] ++
    (q.graph.map fun g => (⟨"g"⟩, .node g)).toList⟩

theorem Quad.toQuad?_row (q : Quad) : q.row.toQuad? = some q := by
  obtain ⟨s, p, o, g⟩ := q
  cases g <;> rfl

end Rdf

/-! ## What is written of lists -/

open Rdf

def quadRows (qs : List Quad) : List Record := qs.map fun q => .row q.row

section

variable {ω : Type} {out : Output ω} {held : ω → Bytes}

theorem Output.Accepts.offer_quadRows (hout : out.Accepts held) (qs : List Quad) (w : ω) :
    ∃ w', (Output.nquads out).offer (quadRows qs) w = (.ok (), w') ∧
      held w' = held w ++ Utf8.encode (qs.map Quad.line).flatten := by
  induction qs generalizing w with
  | nil => exact ⟨w, rfl, by simp⟩
  | cons q qs ih =>
    obtain ⟨w₁, hfirst, hline⟩ := hout.accept_row q.toQuad?_row w
    obtain ⟨w₂, hrest, hlines⟩ := ih w₁
    refine ⟨w₂, ?_, ?_⟩
    · rw [quadRows, List.map_cons, Sink.offer, hfirst]
      exact hrest
    · rw [hlines, hline, List.map_cons, List.flatten_cons, Utf8.encode_append, encode_quadLine,
        quadOctets, List.append_assoc]

theorem splitLines_quads {qs : List Quad} (h : ∀ q ∈ qs, q.isWellFormed = true) :
    TupleDecoder.splitLines (Utf8.encode (qs.map Quad.line).flatten) = (qs.map quadOctets, []) :=
  splitLines_written encode_quadLine fun q hq => endsLine_not_mem_quadOctets (h q hq)

theorem map_quadOctets_inj {qs qs' : List Quad} (h : ∀ q ∈ qs, q.isWellFormed = true)
    (h' : ∀ q ∈ qs', q.isWellFormed = true) (heq : qs.map quadOctets = qs'.map quadOctets) :
    qs = qs' := by
  induction qs generalizing qs' with
  | nil => exact (List.map_eq_nil_iff.1 heq.symm).symm
  | cons q qs ih =>
    cases qs' with
    | nil => cases heq
    | cons q' qs' =>
      simp only [List.map_cons, List.cons.injEq] at heq
      obtain ⟨hq, hqs⟩ := List.forall_mem_cons.1 h
      obtain ⟨hq', hqs'⟩ := List.forall_mem_cons.1 h'
      have hline : Utf8.encode q.line = Utf8.encode q'.line := by
        rw [encode_quadLine, encode_quadLine]
        exact congrArg (· ++ [endsLine]) heq.1
      rw [Quad.line_inj hq hq' (Utf8.encode_injective hline), ih hqs hqs' heq.2]

/-- **What is written of statements can be read in one way only.** The rows of well-formed
statements are written one by one to an output that accepts octets. All are written; the octets
hold one line end for each statement, at the end of its line and nowhere else; and if the same
octets are written of two lists, the lists are the same. -/
theorem nquads_unambiguous (hout : out.Accepts held) {start : ω} (hstart : held start = [])
    {qs qs' : List Quad} (h : ∀ q ∈ qs, q.isWellFormed = true)
    (h' : ∀ q ∈ qs', q.isWellFormed = true) :
    ∃ w w', (Output.nquads out).offer (quadRows qs) start = (.ok (), w) ∧
      (Output.nquads out).offer (quadRows qs') start = (.ok (), w') ∧
      TupleDecoder.splitLines (held w) = (qs.map quadOctets, []) ∧
      (held w).count endsLine = qs.length ∧ (held w = held w' → qs = qs') := by
  obtain ⟨w, hoffer, hheld⟩ := hout.offer_quadRows qs start
  obtain ⟨w', hoffer', hheld'⟩ := hout.offer_quadRows qs' start
  rw [hstart, List.nil_append] at hheld hheld'
  have hlines : TupleDecoder.splitLines (held w) = (qs.map quadOctets, []) := by
    rw [hheld, splitLines_quads h]
  refine ⟨w, w', hoffer, hoffer', hlines, ?_, fun heq => ?_⟩
  · rw [TupleDecoder.count_endsLine, hlines, List.length_map]
  · rw [heq, hheld', splitLines_quads h', Prod.mk.injEq] at hlines
    exact map_quadOctets_inj h h' hlines.1.symm

/-- A dot in a label, a space and a line end in a value, and a value that reads like the rest of a
line with a graph. -/
theorem nquads_unambiguous_quoted :
    let subject : Node := .blank ⟨"a.b"⟩
    let qs : List Quad := [⟨subject, ⟨"urn:p"⟩, .literal (.plain "x\" <urn:g> .\n"), none⟩,
      ⟨subject, ⟨"urn:p"⟩, .literal (.tagged "x" "en"), some subject⟩]
    let qs' : List Quad :=
      [⟨subject, ⟨"urn:p"⟩, .literal (.plain "x"), some (.iri ⟨"urn:g"⟩)⟩]
    (∀ q ∈ qs, q.isWellFormed = true) ∧ (∀ q ∈ qs', q.isWellFormed = true) ∧
      ∃ w w' : Bytes, (Output.nquads .memory).offer (quadRows qs) [] = (.ok (), w) ∧
        (Output.nquads .memory).offer (quadRows qs') [] = (.ok (), w') ∧
        TupleDecoder.splitLines w = (qs.map quadOctets, []) ∧ w.count endsLine = 2 ∧
        (w = w' → qs = qs') := by
  intro subject qs qs'
  have h : ∀ q ∈ qs, q.isWellFormed = true := by decide
  have h' : ∀ q ∈ qs', q.isWellFormed = true := by decide
  exact ⟨h, h', nquads_unambiguous Output.accepts_memory rfl h h'⟩

end

end RdfExport
