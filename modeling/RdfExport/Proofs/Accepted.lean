import RdfExport.Proofs.Documents
import RdfExport.Proofs.NTriples.Shape

/-!
# RdfExport.Proofs.Accepted

What a decoder of graphs hands over, whatever octets it has read, and whether it can be written and
read again. Labels, languages and datatypes can. IRIs can where the reader is strict; a lenient
reader takes IRIs that end early when they are written.

* `Iri.IsTaken`: what a reader asks of an IRI.
* `Expect.Fits`, `move_fits`: what a reader has taken in, and that a step without a fault keeps it.
* `run_fits`, `readOn_fits`: the statements of octets, and of a body in chunks.
* `accepted_is_written_and_read`: writing and reading what was accepted.
* `accepted_is_not_always_read`: IRIs that are not read again.
-/

namespace RdfExport

namespace Rdf

open NTriples

/-- What a reader asks of an IRI: that it is well-formed, if the reader is strict. -/
def Iri.IsTaken (mode : Mode) (i : Iri) : Prop := mode = .strict → i.isWellFormed = true

/-! ## The IRIs of a statement -/

def Node.iris : Node → List Iri
  | .iri i => [i]
  | .blank _ => []

def Term.iris : Term → List Iri
  | .node n => n.iris
  | .literal (.typed _ datatype) => [datatype]
  | .literal _ => []

def Triple.iris (t : Triple) : List Iri := t.subject.iris ++ t.predicate :: t.object.iris

section

variable {mode : Mode} {p q : Iri → Prop}

theorem Node.Fits.imp {n : Node} (h : n.Fits p) (himp : ∀ i ∈ n.iris, p i → q i) : n.Fits q := by
  cases n with
  | iri i => exact himp i (by simp [iris]) h
  | blank b => exact h

theorem Term.Fits.imp {t : Term} (h : t.Fits mode p) (himp : ∀ i ∈ t.iris, p i → q i) :
    t.Fits mode q := by
  cases t with
  | node n => exact Node.Fits.imp h himp
  | literal l =>
    cases l with
    | plain value => trivial
    | tagged value tag => exact h
    | typed value datatype => exact ⟨himp datatype (by simp [iris]) h.1, h.2⟩

theorem Triple.Fits.imp {t : Triple} (h : t.Fits mode p) (himp : ∀ i ∈ t.iris, p i → q i) :
    t.Fits mode q where
  subject := h.subject.imp fun i hi => himp i (by simp [iris, hi])
  predicate := himp t.predicate (by simp [iris]) h.predicate
  object := h.object.imp fun i hi => himp i (by simp [iris, hi])

end

/-! ## Line ends -/

/-- That an IRI is written on one line and read as it is written where IRIs are not checked. -/
structure Iri.IsPlain (i : Iri) : Prop where
  bracket : '>' ∉ i.text.toList
  slash : '\\' ∉ i.text.toList
  first : i.text.toList.head? ≠ some '<'
  lineEnd : '\n' ∉ i.text.toList

theorem Iri.lineEnd_not_mem {i : Iri} (h : i.isWellFormed = true) : '\n' ∉ i.text.toList :=
  lineEnd_not_mem_of_printable fun c hc => isIriChar_printable (isAbsoluteIri_chars h c hc)

theorem Iri.lineEnd_not_mem_chars {i : Iri} (h : '\n' ∉ i.text.toList) : '\n' ∉ i.chars := by
  simp [chars, h]

section

variable {mode : Mode}

theorem Node.Fits.lineEnd_not_mem {n : Node} (h : n.Fits fun i => '\n' ∉ i.text.toList) :
    '\n' ∉ n.chars := by
  cases n with
  | iri i => exact Iri.lineEnd_not_mem_chars h
  | blank b =>
    have hlabel : '\n' ∉ b.label.toList := lineEnd_not_mem_of_printable fun c hc =>
      isBlankNodeChar_printable (isBlankNodeId_chars h.1 c hc)
    simp [Node.chars, BlankNode.chars, hlabel]

theorem Term.Fits.lineEnd_not_mem {t : Term} (h : t.Fits mode fun i => '\n' ∉ i.text.toList) :
    '\n' ∉ t.chars := by
  cases t with
  | node n => exact Node.Fits.lineEnd_not_mem h
  | literal l =>
    cases l with
    | plain value => exact lineEnd_not_mem_of_printable (valueChars_printable value)
    | tagged value tag =>
      have hvalue := lineEnd_not_mem_of_printable (valueChars_printable value)
      have htag : '\n' ∉ tag.toList := by
        intro hmem
        rcases areTagBlocks_chars h.blocks _ hmem with hc | hc <;> cases hc
      simp [Term.chars, Literal.chars, hvalue, htag]
    | typed value datatype =>
      have hvalue := lineEnd_not_mem_of_printable (valueChars_printable value)
      simp [Term.chars, Literal.chars, hvalue, Iri.lineEnd_not_mem_chars h.1]

theorem Triple.Fits.endsLine_not_mem {t : Triple}
    (h : t.Fits mode fun i => '\n' ∉ i.text.toList) : endsLine ∉ statementOctets t := by
  refine endsLine_not_mem_encode ?_
  have hsubject := h.subject.lineEnd_not_mem
  have hpredicate := Iri.lineEnd_not_mem_chars h.predicate
  have hobject := h.object.lineEnd_not_mem
  simp [hsubject, hpredicate, hobject]

end

end Rdf

namespace NTriples

open Rdf

/-! ## One step -/

def Expect.Fits (mode : Mode) : Expect → Prop
  | .predicate s => s.Fits (Iri.IsTaken mode)
  | .object s p | .afterValue s p _ | .datatype s p _ =>
    s.Fits (Iri.IsTaken mode) ∧ p.IsTaken mode
  | .dot t => t.Fits mode (Iri.IsTaken mode)
  | .subject | .lineEnd | .recovery => True

/-- That what is read fits and that the statement that is complete does, if no fault was found. -/
def Reply.Fits (mode : Mode) (r : Reply) : Prop :=
  r.faults = [] → r.expect.Fits mode ∧ ∀ t ∈ r.statement, t.Fits mode (Iri.IsTaken mode)

section

variable {mode : Mode} {t : Token} {e : Expect}

theorem Reply.Fits.quiet (h : e.Fits mode) : (Reply.quiet e).Fits mode :=
  fun _ => ⟨h, by simp [Reply.quiet]⟩

theorem Reply.Fits.refuse (f : Fault) : (Reply.refuse f).Fits mode := by
  intro h
  cases h

theorem Reply.Fits.before (statement : Option Triple) (f : Fault) (r : Reply) :
    (r.before statement f).Fits mode := by
  intro h
  simp [Reply.before] at h

theorem onFirst_fits (ht : t.IsShaped mode) : (onFirst t).Fits mode := by
  cases t with
  | iri i => exact .quiet ht
  | blank b => exact .quiet ht
  | _ => exact .refuse _

theorem onDot_fits {statement : Triple} (h : statement.Fits mode (Iri.IsTaken mode)) :
    (onDot statement t).Fits mode := by
  cases t with
  | dot =>
    refine fun _ => ⟨trivial, fun s hs => ?_⟩
    cases hs
    exact h
  | _ => exact .before _ _ _

/-- **A token that a reader takes in keeps what is read in shape.** -/
theorem onToken_fits (he : e.Fits mode) (ht : t.IsShaped mode) : (e.onToken mode t).Fits mode := by
  cases e with
  | subject => exact onFirst_fits ht
  | predicate s =>
    cases t with
    | iri p => exact .quiet ⟨he, ht⟩
    | _ => exact .refuse _
  | object s p =>
    cases t with
    | iri i => exact .quiet ⟨he.1, he.2, ht⟩
    | blank b => exact .quiet ⟨he.1, he.2, ht⟩
    | value v => exact .quiet he
    | _ => exact .refuse _
  | afterValue s p v =>
    have hplain : Triple.Fits mode (Iri.IsTaken mode) ⟨s, p, .literal (.plain v)⟩ :=
      ⟨he.1, he.2, trivial⟩
    cases t with
    | tag language => exact .quiet ⟨he.1, he.2, ht⟩
    | datatypeMark => exact .quiet he
    | _ => exact onDot_fits hplain
  | datatype s p v =>
    cases t with
    | iri d =>
      intro hfaults
      have hallowed : allowsDatatype mode d = true := by
        by_contra hrefused
        simp [Expect.onToken, hrefused] at hfaults
      refine ⟨⟨he.1, he.2, ?_⟩, fun s hs => by cases hs⟩
      show Term.Fits mode _ (.literal (.ofDatatype v d))
      by_cases hstring : d = xsd "string"
      · rw [Literal.ofDatatype, if_pos hstring]
        trivial
      · rw [Literal.ofDatatype, if_neg hstring]
        exact ⟨ht, hstring, hallowed⟩
    | _ => exact .refuse _
  | dot statement => exact onDot_fits he
  | lineEnd => exact .before _ _ _
  | recovery => exact .quiet trivial

theorem onLineEnd_fits (he : e.Fits mode) : e.onLineEnd.Fits mode := by
  intro hfaults
  refine ⟨trivial, fun t ht => ?_⟩
  cases e <;> cases hfaults <;> cases ht

theorem onEnd_fits (h : e.onEnd.2 = []) : e.onEnd.1 = none := by
  cases e <;> first | rfl | cases h

theorem move_fits {ended : Bool} {expect expect' : Option Expect} {b : UInt8} {rest : Bytes}
    {size : Nat} {statement : Option Triple}
    (h : move mode ended expect b rest = .step size expect' statement [])
    (he : ∀ e ∈ expect, e.Fits mode) :
    (∀ e ∈ expect', e.Fits mode) ∧ ∀ t ∈ statement, t.Fits mode (Iri.IsTaken mode) := by
  have hreply {r : Option Reply} {n : Nat} (hr : ∀ r' ∈ r, r'.Fits mode)
      (h : Move.ofReply n r = .step size expect' statement []) :
      (∀ e ∈ expect', e.Fits mode) ∧ ∀ t ∈ statement, t.Fits mode (Iri.IsTaken mode) := by
    cases r with
    | none =>
      cases h
      exact ⟨by simp, by simp⟩
    | some r =>
      simp only [Move.ofReply, Move.step.injEq] at h
      obtain ⟨-, rfl, rfl, hfaults⟩ := h
      have hfits := hr r rfl hfaults
      exact ⟨by simpa using hfits.1, hfits.2⟩
  unfold move at h
  split at h
  · cases h
    exact ⟨he, fun t ht => by cases ht⟩
  split at h
  · rename_i token n hlex
    refine hreply ?_ h
    intro r hr
    obtain ⟨e, hmem, rfl⟩ := Option.map_eq_some_iff.1 hr
    exact onToken_fits (he e hmem) (lexeme_shaped mode ended b rest _ _ hlex)
  · refine hreply ?_ h
    intro r hr
    obtain ⟨e, hmem, rfl⟩ := Option.map_eq_some_iff.1 hr
    exact onLineEnd_fits (he e hmem)
  · cases h
    exact ⟨he, fun t ht => by cases ht⟩
  · cases h
  · split at h <;> cases h

end

end NTriples

/-! ## Whole bodies -/

theorem Emission.andThen_eq_ok {δ δ' : Type} {em : Emission δ} {next : δ → Emission δ'}
    {records : List Record} {d' : δ'} (h : em.andThen next = ⟨records, .ok d'⟩) :
    ∃ d r r', em = ⟨r, .ok d⟩ ∧ next d = ⟨r', .ok d'⟩ ∧ records = r ++ r' := by
  obtain ⟨r, ending⟩ := em
  cases ending with
  | error e => cases h
  | ok d =>
    cases hnext : next d with
    | mk r' ending' =>
      simp only [andThen, hnext, mk.injEq] at h
      obtain ⟨rfl, rfl⟩ := h
      exact ⟨d, r, r', rfl, hnext, rfl⟩

namespace GraphDecoder

open Rdf NTriples

/-- That what a decoder has read fits, and the statement that it is to hand over, unless it has a
fault to report. -/
def Fits (d : GraphDecoder) : Prop :=
  d.faults = [] → (∀ e ∈ d.expect, e.Fits d.mode) ∧
    ∀ t ∈ d.ready, t.Fits d.mode (Iri.IsTaken d.mode)

/-- What octets without a fault hand over: statements, all of which fit. -/
theorem run_fits {bytes : Bytes} {d d' : GraphDecoder} {kept kept' : List Record} (hd : d.Fits)
    (h : run Sink.collect bytes d kept = (.ok (), d', kept')) :
    d'.mode = d.mode ∧ d'.Fits ∧ ∃ ts : List Triple, kept' = kept ++ ts.map .statement ∧
      ∀ t ∈ ts, t.Fits d.mode (Iri.IsTaken d.mode) := by
  fun_induction run Sink.collect bytes d kept with
  | case1 => cases h
  | case2 d kept t bytes hr hf kept₁ haccept ih =>
    simp only [wfParam] at haccept ih
    cases haccept
    obtain ⟨hexpect, hready⟩ := hd hf
    obtain ⟨hmode, hfits, ts, rfl, hts⟩ := ih (fun _ => ⟨hexpect, by simp⟩) h
    refine ⟨hmode, hfits, t :: ts, by simp, fun x hx => ?_⟩
    rcases List.mem_cons.1 hx with rfl | hx
    · exact hready x hr
    · exact hts x hx
  | case3 d kept t bytes hr hf e kept₁ haccept => cases h
  | case4 d kept b rest hr hf size expect ready faults hm ih =>
    simp only [wfParam] at hm
    refine ih (fun hfaults => ?_) h
    cases hfaults
    exact move_fits hm (hd hf).1
  | case5 d kept b rest hr hf hm =>
    cases h
    exact ⟨rfl, hd, [], by simp, by simp⟩
  | case6 d kept e hr he hf hended ih =>
    refine ih (fun hfaults => ⟨by simp, ?_⟩) h
    have hnone : e.onEnd.1 = none := onEnd_fits hfaults
    simp [wfParam, hnone]
  | case7 d kept e hr he hf hended =>
    cases h
    exact ⟨rfl, hd, [], by simp, by simp⟩
  | case8 d kept hr he hf =>
    cases h
    exact ⟨rfl, hd, [], by simp, by simp⟩

theorem collected_fits {bytes : Bytes} {d d' : GraphDecoder} {records : List Record} (hd : d.Fits)
    (h : Emission.ofCollected (run Sink.collect bytes d []).settled = ⟨records, .ok d'⟩) :
    d'.mode = d.mode ∧ d'.Fits ∧ ∃ ts : List Triple, records = ts.map .statement ∧
      ∀ t ∈ ts, t.Fits d.mode (Iri.IsTaken d.mode) := by
  cases hrun : run Sink.collect bytes d [] with
  | mk r s =>
    obtain ⟨d₁, kept⟩ := s
    rw [hrun] at h
    cases r with
    | error e => cases h
    | ok u =>
      cases h
      simpa using run_fits hd hrun

/-- **What is handed over of a body that is accepted are statements that fit.** -/
theorem readOn_fits {mode : Mode} {chunks : List Bytes} {d : GraphDecoder} {records : List Record}
    (h : Decoder.readOn Sink.collect chunks (initial mode, []) = (.ok (), d, records)) :
    Decoder.decoding chunks.flatten (initial mode) = ⟨records, .ok d⟩ ∧
      ∃ ts : List Triple, records = ts.map .statement ∧
        ∀ t ∈ ts, t.Fits mode (Iri.IsTaken mode) := by
  have hready : LawfulDecoder.Ready (initial mode) := initial_ready mode
  have hsettled := Decoder.readOn_settled Sink.collect chunks hready []
  rw [h, Emission.into_collect, List.nil_append] at hsettled
  obtain ⟨hending, hrecords⟩ := Prod.mk.inj hsettled
  have hdecoding : Decoder.decoding chunks.flatten (initial mode) = ⟨records, .ok d⟩ := by
    rw [hrecords, hending]
  refine ⟨hdecoding, ?_⟩
  obtain ⟨d₁, records₁, records₂, hfed, hclosed, rfl⟩ := Emission.andThen_eq_ok hdecoding
  have hinitial : (initial mode).Fits :=
    fun _ => ⟨by simp [initial, Expect.Fits], by simp [initial]⟩
  obtain ⟨hmode, hfits, ts₁, rfl, hts₁⟩ := collected_fits hinitial hfed
  have hended : GraphDecoder.Fits { d₁ with ended := true } := hfits
  obtain ⟨-, -, ts₂, rfl, hts₂⟩ := collected_fits hended hclosed
  refine ⟨ts₁ ++ ts₂, by simp, fun t ht => ?_⟩
  rcases List.mem_append.1 ht with ht | ht
  · exact hts₁ t ht
  · have hfits₂ : t.Fits d₁.mode (Iri.IsTaken d₁.mode) := hts₂ t ht
    have hsame : d₁.mode = mode := hmode
    rwa [hsame] at hfits₂

/-! ## Written and read again -/

/-- **What was accepted can be written and read again.** A strict reader hands over statements that
are written as one line each, and that a strict reader hands over again. So does a lenient one if
their IRIs hold nothing that would end them, name another character or end the line. -/
theorem accepted_is_written_and_read {mode : Mode} {chunks : List Bytes} {d : GraphDecoder}
    {records : List Record}
    (h : Decoder.readOn Sink.collect chunks (initial mode, []) = (.ok (), d, records))
    (hlenient : mode = .lenient → ∀ t, .statement t ∈ records → ∀ i ∈ t.iris, i.IsPlain) :
    ∃ (ts : List Triple) (document : Bytes), records = ts.map .statement ∧
      Decoder.readOn (Output.nquads .memory) chunks (initial mode, []) = (.ok (), d, document) ∧
      TupleDecoder.splitLines document = (ts.map (statementOctets · ++ closingDot), []) ∧
      ∀ chunks', chunks'.flatten = document →
        ∃ d', Decoder.readOn Sink.collect chunks' (initial mode, []) = (.ok (), d', records) ∧
          Decoder.records d' = ts.length := by
  obtain ⟨hdecoding, ts, rfl, hts⟩ := readOn_fits h
  have hready : LawfulDecoder.Ready (initial mode) := initial_ready mode
  have hplain : ∀ t ∈ ts, ∀ i ∈ t.iris, i.IsTaken mode →
      i.IsLegible mode ∧ '\n' ∉ i.text.toList := by
    intro t ht i hi htaken
    cases mode with
    | strict =>
      have hwell := htaken rfl
      exact ⟨Iri.isLegible_of_isWellFormed hwell .strict, Iri.lineEnd_not_mem hwell⟩
    | lenient =>
      have hi := hlenient rfl t (List.mem_map_of_mem ht) i hi
      exact ⟨⟨hi.bracket, hi.slash, hi.first, nofun⟩, hi.lineEnd⟩
  have hlegible : ∀ t ∈ ts, t.Fits mode (Iri.IsLegible mode) := fun t ht =>
    (hts t ht).imp fun i hi htaken => (hplain t ht i hi htaken).1
  have hone : ∀ t ∈ ts, t.Fits mode fun i => '\n' ∉ i.text.toList := fun t ht =>
    (hts t ht).imp fun i hi htaken => (hplain t ht i hi htaken).2
  refine ⟨ts, Utf8.encode (ts.map Triple.line).flatten, rfl, ?_, ?_, ?_⟩
  · obtain ⟨hoffer, hleft⟩ := Decoder.readOn_of_decoding (Output.nquads .memory) hready [] hdecoding
    rw [Output.offer_statements, List.nil_append, Prod.mk.injEq] at hoffer
    rw [← List.flatMap_def, ← hoffer.2, ← hleft hoffer.1, ← hoffer.1]
  · refine splitLines_written encode_tripleLine fun t ht => ?_
    rw [List.mem_append, not_or]
    exact ⟨(hone t ht).endsLine_not_mem, endsLine_not_mem_closingDot⟩
  · intro chunks' hchunks'
    rw [← List.flatMap_def] at hchunks'
    obtain ⟨hoffer, hcount⟩ := readOn_legible hlegible hchunks' Sink.collect []
    have hall := Sink.offered_collect hoffer
    exact ⟨_, hall, hcount (congrArg (·.1) hall)⟩

/-- An IRI that a strict reader refuses, an empty one, a private language and the datatype of tagged
text. -/
theorem accepted_is_written_and_read_with_space :
    let ts : List Triple := [
      ⟨.iri ⟨"a b"⟩, ⟨"urn:p"⟩, .literal (.tagged "x\n" "x")⟩,
      ⟨.blank ⟨"0.a"⟩, ⟨""⟩, .literal (.typed "" rdfLangString)⟩]
    let chunks := [Utf8.encode (ts.flatMap Triple.line)]
    ∃ d, Decoder.readOn Sink.collect chunks (initial .lenient, []) =
        (.ok (), d, ts.map .statement) ∧
      (∀ t, .statement t ∈ ts.map Record.statement → ∀ i ∈ t.iris, i.IsPlain) ∧
      ∃ (ts' : List Triple) (document : Bytes), ts.map Record.statement = ts'.map .statement ∧
        Decoder.readOn (Output.nquads .memory) chunks (initial .lenient, []) =
          (.ok (), d, document) ∧
        TupleDecoder.splitLines document = (ts'.map (statementOctets · ++ closingDot), []) ∧
        ∀ chunks', chunks'.flatten = document →
          ∃ d', Decoder.readOn Sink.collect chunks' (initial .lenient, []) =
              (.ok (), d', ts.map .statement) ∧ Decoder.records d' = ts'.length := by
  intro ts chunks
  have hplain : ∀ t ∈ ts, ∀ i ∈ t.iris, i.IsPlain := by
    have hall : ∀ t ∈ ts, ∀ i ∈ t.iris, '>' ∉ i.text.toList ∧ '\\' ∉ i.text.toList ∧
        i.text.toList.head? ≠ some '<' ∧ '\n' ∉ i.text.toList := by
      decide
    intro t ht i hi
    obtain ⟨hbracket, hslash, hfirst, hlineEnd⟩ := hall t ht i hi
    exact ⟨hbracket, hslash, hfirst, hlineEnd⟩
  have hlegible : ∀ t ∈ ts, t.Fits .lenient (Iri.IsLegible .lenient) := by
    have htag : IsLegibleTag .lenient "x" := ⟨by decide, by decide, nofun⟩
    have hlabel : BlankNode.IsLegible ⟨"0.a"⟩ := ⟨by decide, by decide⟩
    have hfits : ∀ t ∈ ts, t.Fits .lenient fun _ => True := by
      simp only [ts, List.forall_mem_cons]
      exact ⟨⟨trivial, trivial, htag⟩, ⟨hlabel, trivial, trivial, by decide, rfl⟩, by simp⟩
    intro t ht
    refine (hfits t ht).imp fun i hi _ => ?_
    have hi := hplain t ht i hi
    exact ⟨hi.bracket, hi.slash, hi.first, nofun⟩
  have hchunks : chunks.flatten = Utf8.encode (ts.flatMap Triple.line) := List.append_nil _
  obtain ⟨hoffer, -⟩ := readOn_legible hlegible hchunks Sink.collect []
  have hread := Sink.offered_collect hoffer
  have hrecords : ∀ t, .statement t ∈ ts.map Record.statement → ∀ i ∈ t.iris, i.IsPlain := by
    intro t ht
    obtain ⟨t', ht', heq⟩ := List.mem_map.1 ht
    cases heq
    exact hplain t ht'
  exact ⟨_, hread, hrecords, accepted_is_written_and_read hread fun _ => hrecords⟩

/-- A bracket that an escape names is written as it is, and ends the IRI where it is read again. -/
theorem accepted_is_not_always_read :
    let body := Utf8.ofString "<urn:a\\u003Eb> <urn:p> <urn:o> .\n"
    let t : Triple := ⟨.iri ⟨"urn:a>b"⟩, ⟨"urn:p"⟩, .iri "urn:o"⟩
    let document := Utf8.ofString "<urn:a>b> <urn:p> <urn:o> .\n"
    (∃ d, Decoder.readOn Sink.collect [body] (initial .lenient, []) =
      (.ok (), d, [.statement t])) ∧
      (∃ d, Decoder.readOn (Output.nquads .memory) [body] (initial .lenient, []) =
        (.ok (), d, document)) ∧
      (Decoder.readOn Sink.collect [document] (initial .lenient, [])).settled =
        (.error (.protocol (.notNTriples .unexpectedToken)), []) := by
  intro body t document
  have hready : LawfulDecoder.Ready (initial .lenient) := initial_ready .lenient
  have hp : Iri.IsLegible .lenient ⟨"urn:p"⟩ := Iri.isLegible_of_isWellFormed (by decide) .lenient
  have ho : Iri.IsLegible .lenient ⟨"urn:o"⟩ := Iri.isLegible_of_isWellFormed (by decide) .lenient
  have hread : (run Sink.collect body (initial .lenient) []).settled =
      (.ok (expecting .lenient .subject 1), [.statement t]) := by
    have hfirst : move .lenient false (some .subject) (octet '<')
        (Utf8.ofString "urn:a\\u003Eb> <urn:p> <urn:o> .\n") =
          .step 14 (some (.predicate t.subject)) none [] := by
      decide +kernel
    have hbody : body =
        octet '<' :: Utf8.ofString "urn:a\\u003Eb> <urn:p> <urn:o> .\n" := by decide
    have hrest : (Utf8.ofString "urn:a\\u003Eb> <urn:p> <urn:o> .\n").drop (14 - 1) =
        octet ' ' :: (Utf8.encode t.predicate.chars ++ octet ' ' ::
          (Utf8.encode t.object.chars ++ [octet ' ', octet '.', octet '\n'])) := by decide
    have hsubject := run_afterSubject Sink.collect t.subject hp
      (show Term.Fits .lenient _ t.object from ho) 0 [] []
    rw [hbody, run_step Sink.collect [] rfl rfl hfirst, hrest]
    refine hsubject.trans ?_
    simp only [Sink.collect, List.nil_append]
    rw [run_pause _ _ rfl rfl (.inr rfl)]
    rfl
  obtain ⟨d, -, hdecoding⟩ := decoding_of_run hread
  have hchunks : Decoder.decoding [body].flatten (initial .lenient) = ⟨[.statement t], .ok d⟩ := by
    rwa [List.flatten_singleton]
  refine ⟨?_, ?_, ?_⟩
  · obtain ⟨hoffer, -⟩ := Decoder.readOn_of_decoding Sink.collect hready [] hchunks
    exact ⟨_, Sink.offered_collect hoffer⟩
  · obtain ⟨hoffer, -⟩ := Decoder.readOn_of_decoding (Output.nquads .memory) hready [] hchunks
    have hline : (Output.nquads .memory).offer [.statement t] [] = (.ok (), document) := by
      rw [show document = Utf8.encode ([t].flatMap Triple.line) by decide]
      exact Output.offer_statements [t] []
    rw [hline, Prod.mk.injEq] at hoffer
    refine ⟨(Decoder.readOn (Output.nquads .memory) [body] (initial .lenient, [])).2.1, ?_⟩
    rw [← hoffer.1, ← hoffer.2]
  · have hsubject : move .lenient false (some .subject) (octet '<')
        (Utf8.ofString "urn:a>b> <urn:p> <urn:o> .\n") =
          .step 7 (some (.predicate (.iri ⟨"urn:a"⟩))) none [] := by
      decide +kernel
    have hname : move .lenient false (some (.predicate (.iri ⟨"urn:a"⟩))) (octet 'b')
        (Utf8.ofString "> <urn:p> <urn:o> .\n") =
          .step 1 (some .recovery) none [.unexpectedToken] := by
      decide +kernel
    have hdocument : document = octet '<' :: Utf8.ofString "urn:a>b> <urn:p> <urn:o> .\n" := by
      decide
    have hrest : (Utf8.ofString "urn:a>b> <urn:p> <urn:o> .\n").drop (7 - 1) =
        octet 'b' :: Utf8.ofString "> <urn:p> <urn:o> .\n" := by decide
    have hrun : (run Sink.collect document (initial .lenient) []).settled =
        (.error (.protocol (.notNTriples .unexpectedToken)), []) := by
      rw [hdocument, run_step Sink.collect [] rfl rfl hsubject, hrest,
        run_step Sink.collect [] rfl rfl hname, run_fault Sink.collect [] rfl]
      rfl
    exact Decoder.readOn_failed hrun

end GraphDecoder
end RdfExport
