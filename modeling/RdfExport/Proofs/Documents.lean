import RdfExport.Proofs.Delivery
import RdfExport.Proofs.NTriples.Printed
import RdfExport.Proofs.Statements
import RdfExport.Proofs.Writing

/-!
# RdfExport.Proofs.Documents

Statements that were written are read back, one statement from each line.

* `run_token`, `run_space`, `run_dot`, `run_lineEnd`: the steps of the reader over a written line.
* `run_line`, `run_lines`: a line, and a document of lines.
* `readOn_legible`, `readOn_lines`: a document of lines in chunks.
* `written_is_read`: what was written of well-formed statements, and read again.
-/

namespace RdfExport

open Rdf NTriples

namespace GraphDecoder

def expecting (mode : Mode) (e : Expect) (n : Nat) : GraphDecoder :=
  ⟨mode, [], false, some e, [], none, n⟩

/-! ## Steps over a line -/

section

variable {σ : Type} (sink : Sink σ) {mode : Mode} {e : Expect} (n : Nat) (rest : Bytes) (w : σ)

theorem run_token {t : Token} {bytes : Bytes} {next : UInt8} {e' : Expect}
    (h : Spells mode t bytes next) (hreply : e.onToken mode t = .quiet e') :
    run sink (bytes ++ next :: rest) (expecting mode e n) w =
      run sink (next :: rest) (expecting mode e' n) w := by
  obtain ⟨b, bs, rfl, hspace, htab, hlex⟩ := h
  have hmove : move mode false (some e) b (bs ++ next :: rest) =
      .step (bs.length + 1) (some e') none [] := by
    have hblank : ¬((b = octet ' ' || b = octet '\t') = true) := by simp [hspace, htab]
    simp only [move, if_neg hblank, hlex, Option.map_some, hreply, Move.ofReply, Reply.quiet,
      List.length_cons]
  rw [List.cons_append, run_step sink w rfl rfl hmove, Nat.add_sub_cancel, List.drop_left]
  rfl

theorem run_space :
    run sink (octet ' ' :: rest) (expecting mode e n) w = run sink rest (expecting mode e n) w := by
  have hmove : move mode false (some e) (octet ' ') rest = .step 1 (some e) none [] := rfl
  rw [run_step sink w rfl rfl hmove]
  rfl

theorem run_lineEnd :
    run sink (octet '\n' :: rest) (expecting mode .lineEnd n) w =
      run sink rest (expecting mode .subject n) w := by
  have hmove : move mode false (some .lineEnd) (octet '\n') rest =
      .step 1 (some .subject) none [] := rfl
  rw [run_step sink w rfl rfl hmove]
  rfl

theorem run_dot {t : Triple} (hreply : e.onToken mode .dot = ⟨.lineEnd, some t, []⟩) :
    run sink (octet '.' :: octet '\n' :: rest) (expecting mode e n) w =
      match sink.accept (.statement t) w with
      | (.ok (), w) => run sink (octet '\n' :: rest) (expecting mode .lineEnd (n + 1)) w
      | (.error f, w) =>
        (.error f, { expecting mode .lineEnd n with buffer := octet '\n' :: rest }, w) := by
  have hmove : move mode false (some e) (octet '.') (octet '\n' :: rest) =
      .step 1 (some .lineEnd) (some t) [] := by
    have hlex : lexeme mode false (octet '.') (octet '\n' :: rest) = .token .dot 1 := rfl
    have hblank : ¬((octet '.' = octet ' ' || octet '.' = octet '\t') = true) := by decide
    simp only [move, if_neg hblank, hlex, Option.map_some, hreply, Move.ofReply]
  rw [run_step sink w rfl rfl hmove, run_statement sink w rfl rfl]
  rfl

end

/-! ## Terms -/

/-- What is expected after an object. A plain value may still get a language or a datatype. -/
def afterObject (s : Node) (p : Iri) : Term → Expect
  | .literal (.plain value) => .afterValue s p value
  | o => .dot ⟨s, p, o⟩

theorem afterObject_dot (mode : Mode) (s : Node) (p : Iri) (o : Term) :
    (afterObject s p o).onToken mode .dot = ⟨.lineEnd, some ⟨s, p, o⟩, []⟩ := by
  unfold afterObject
  split <;> rfl

section

variable {σ : Type} (sink : Sink σ) {mode : Mode} (n : Nat) (rest : Bytes) (w : σ)

theorem run_subject {s : Node} (h : s.Fits (Iri.IsLegible mode)) :
    run sink (Utf8.encode s.chars ++ octet ' ' :: rest) (expecting mode .subject n) w =
      run sink (octet ' ' :: rest) (expecting mode (.predicate s) n) w := by
  cases s with
  | iri i => exact run_token sink n rest w (spells_iri h _) rfl
  | blank b => exact run_token sink n rest w (spells_blank mode h) rfl

theorem run_predicate {s : Node} {p : Iri} (h : p.IsLegible mode) :
    run sink (Utf8.encode p.chars ++ octet ' ' :: rest) (expecting mode (.predicate s) n) w =
      run sink (octet ' ' :: rest) (expecting mode (.object s p) n) w :=
  run_token sink n rest w (spells_iri h _) rfl

theorem run_typed {s : Node} {p : Iri} {value : String} {datatype : Iri} :
    run sink (Utf8.encode (Literal.typed value datatype).chars ++ rest)
        (expecting mode (.object s p) n) w =
      run sink (Utf8.encode datatype.chars ++ rest)
        (expecting mode (.datatype s p value) n) w := by
  have hmark : Utf8.encode ('^' :: '^' :: datatype.chars) =
      octet '^' :: octet '^' :: Utf8.encode datatype.chars := by
    rw [Utf8.encode_cons_ascii (by decide), Utf8.encode_cons_ascii (by decide)]
  rw [Literal.chars, Utf8.encode_append, List.append_assoc, hmark, List.cons_append,
    run_token sink n _ w (spells_value mode value _) rfl, List.cons_append, encode_iri,
    List.cons_append]
  exact run_token sink n _ w (spells_datatypeMark mode _) rfl

theorem run_object {s : Node} {p : Iri} {o : Term} (h : o.Fits mode (Iri.IsLegible mode)) :
    run sink (Utf8.encode o.chars ++ octet ' ' :: rest) (expecting mode (.object s p) n) w =
      run sink (octet ' ' :: rest) (expecting mode (afterObject s p o) n) w := by
  cases o with
  | node o =>
    cases o with
    | iri i => exact run_token sink n rest w (spells_iri h _) rfl
    | blank b => exact run_token sink n rest w (spells_blank mode h) rfl
  | literal l =>
    cases l with
    | plain value => exact run_token sink n rest w (spells_value mode value _) rfl
    | tagged value tag =>
      have htag : Utf8.encode ('@' :: tag.toList) = octet '@' :: Utf8.encode tag.toList :=
        Utf8.encode_cons_ascii (by decide) _
      rw [Term.chars, Literal.chars, Utf8.encode_append, List.append_assoc, htag,
        List.cons_append, run_token sink n _ w (spells_value mode value _) rfl,
        ← List.cons_append, ← htag]
      exact run_token sink n rest w (spells_tag h) rfl
    | typed value datatype =>
      obtain ⟨hdatatype, hstring, hallowed⟩ := h
      have hreply : (Expect.datatype s p value).onToken mode (.iri datatype) =
          .quiet (.dot ⟨s, p, .literal (.typed value datatype)⟩) := by
        simp [Expect.onToken, Reply.quiet, Literal.ofDatatype, hstring, hallowed]
      rw [Term.chars, run_typed sink n (octet ' ' :: rest) w]
      exact run_token sink n rest w (spells_iri hdatatype _) hreply

end

/-! ## Lines -/

theorem encode_line (t : Triple) (rest : Bytes) :
    Utf8.encode t.line ++ rest =
      Utf8.encode t.subject.chars ++ octet ' ' :: (Utf8.encode t.predicate.chars ++ octet ' ' ::
        (Utf8.encode t.object.chars ++ octet ' ' :: octet '.' :: octet '\n' :: rest)) := by
  simp (disch := decide) only [Triple.line, Utf8.encode_append, Utf8.encode_cons_ascii,
    Utf8.encode_nil, List.append_assoc, List.cons_append, List.nil_append]

/-- What is written after a subject is read as the statement of that subject. -/
theorem run_afterSubject {σ : Type} (sink : Sink σ) {mode : Mode} (s : Node) {p : Iri} {o : Term}
    (hp : p.IsLegible mode) (ho : o.Fits mode (Iri.IsLegible mode)) (n : Nat) (rest : Bytes)
    (w : σ) :
    (run sink (octet ' ' :: (Utf8.encode p.chars ++ octet ' ' ::
        (Utf8.encode o.chars ++ octet ' ' :: octet '.' :: octet '\n' :: rest)))
      (expecting mode (.predicate s) n) w).settled =
      match sink.accept (.statement ⟨s, p, o⟩) w with
      | (.ok (), w) => (run sink rest (expecting mode .subject (n + 1)) w).settled
      | (.error f, w) => (.error f, w) := by
  rw [run_space, run_predicate sink n _ w hp, run_space, run_object sink n _ w ho, run_space,
    run_dot sink n rest w (afterObject_dot mode s p o)]
  cases sink.accept (.statement ⟨s, p, o⟩) w with
  | mk r w' =>
    cases r with
    | error f => rfl
    | ok u => exact congrArg Outcome.settled (run_lineEnd sink (n + 1) rest w')

/-- A written line is read as its statement. -/
theorem run_line {σ : Type} (sink : Sink σ) {mode : Mode} {t : Triple}
    (h : t.Fits mode (Iri.IsLegible mode)) (n : Nat) (rest : Bytes) (w : σ) :
    (run sink (Utf8.encode t.line ++ rest) (expecting mode .subject n) w).settled =
      match sink.accept (.statement t) w with
      | (.ok (), w) => (run sink rest (expecting mode .subject (n + 1)) w).settled
      | (.error f, w) => (.error f, w) := by
  rw [encode_line, run_subject sink n _ w h.subject]
  exact run_afterSubject sink t.subject h.predicate h.object n rest w

theorem run_lines {σ : Type} (sink : Sink σ) {mode : Mode} {ts : List Triple}
    (h : ∀ t ∈ ts, t.Fits mode (Iri.IsLegible mode)) (n : Nat) (w : σ) :
    (run sink (Utf8.encode (ts.flatMap Triple.line)) (expecting mode .subject n) w).settled =
      Emission.into ⟨ts.map .statement, .ok (expecting mode .subject (n + ts.length))⟩ sink w := by
  induction ts generalizing n w with
  | nil =>
    rw [List.flatMap_nil, Utf8.encode_nil, run_pause sink w rfl rfl (.inr rfl)]
    rfl
  | cons t ts ih =>
    rw [List.flatMap_cons, Utf8.encode_append, run_line sink (h t (by simp))]
    simp only [List.map_cons, Emission.into, Sink.offer]
    cases sink.accept (.statement t) w with
    | mk r w' =>
      cases r with
      | error f => rfl
      | ok u =>
        have hrest := ih (fun x hx => h x (by simp [hx])) (n + 1) w'
        rw [Nat.add_right_comm] at hrest
        exact hrest

/-- What octets say as a whole that end between two statements. -/
theorem decoding_of_run {mode : Mode} {bytes : Bytes} {records : List Record} {n : Nat}
    (h : (run Sink.collect bytes (initial mode) []).settled =
      (.ok (expecting mode .subject n), records)) :
    ∃ d : GraphDecoder, d.statements = n ∧
      Decoder.decoding bytes (initial mode) = ⟨records, .ok d⟩ := by
  have hfed : Decoder.fed bytes (initial mode) = ⟨records, .ok (expecting mode .subject n)⟩ := by
    have hfeed : Decoder.fed bytes (initial mode) =
        .ofCollected (run Sink.collect bytes (initial mode) []).settled := rfl
    rw [hfeed, h]
    rfl
  let closing : GraphDecoder := { expecting mode .subject n with ended := true }
  have hclosed : Decoder.closed (expecting mode .subject n) =
      ⟨[], .ok { closing with expect := none }⟩ := by
    have hend : run Sink.collect [] closing [] = (.ok (), { closing with expect := none }, []) := by
      rw [run_end Sink.collect [] rfl rfl rfl rfl]
      exact run_pause Sink.collect [] rfl rfl (.inl rfl)
    have hclose : Decoder.close Sink.collect (expecting mode .subject n, []) =
        run Sink.collect [] closing [] := rfl
    rw [Decoder.closed, hclose, hend]
    rfl
  refine ⟨{ closing with expect := none }, rfl, ?_⟩
  rw [Decoder.decoding, hfed, Emission.andThen_ok rfl, hclosed, List.append_nil]

/-- What a document of written lines says as a whole. -/
theorem decoding_lines {mode : Mode} {ts : List Triple}
    (h : ∀ t ∈ ts, t.Fits mode (Iri.IsLegible mode)) :
    ∃ d : GraphDecoder, d.statements = ts.length ∧
      Decoder.decoding (Utf8.encode (ts.flatMap Triple.line)) (initial mode) =
        ⟨ts.map .statement, .ok d⟩ := by
  have hrun := run_lines Sink.collect h 0 []
  rw [Nat.zero_add, Emission.into_collect] at hrun
  exact decoding_of_run hrun

/-! ## Written and read -/

/-- The chunks of a document of written lines offer their statements to any sink. -/
theorem readOn_legible {mode : Mode} {ts : List Triple}
    (h : ∀ t ∈ ts, t.Fits mode (Iri.IsLegible mode)) {chunks : List Bytes}
    (hchunks : chunks.flatten = Utf8.encode (ts.flatMap Triple.line)) {σ : Type} (sink : Sink σ)
    (w : σ) :
    let o := Decoder.readOn sink chunks (initial mode, w)
    (o.1, o.2.2) = sink.offer (ts.map .statement) w ∧
      (o.1 = .ok () → Decoder.records o.2.1 = ts.length) := by
  obtain ⟨d, hd, hdecoding⟩ := decoding_lines h
  rw [← hchunks] at hdecoding
  obtain ⟨hoffer, hleft⟩ := Decoder.readOn_of_decoding sink (initial_ready mode) w hdecoding
  exact ⟨hoffer, fun hok => by rw [hleft hok]; exact hd⟩

theorem readOn_lines {mode : Mode} {ts : List Triple} (h : ∀ t ∈ ts, t.isWellFormed = true)
    (hlabel : ∀ t ∈ ts, t.everyLabel isStatementLabel = true)
    (hdatatype : ∀ t ∈ ts, t.object.datatype?.all (allowsDatatype mode) = true)
    {chunks : List Bytes} (hchunks : chunks.flatten = Utf8.encode (ts.flatMap Triple.line))
    {σ : Type} (sink : Sink σ) (w : σ) :
    let o := Decoder.readOn sink chunks (initial mode, w)
    (o.1, o.2.2) = sink.offer (ts.map .statement) w ∧
      (o.1 = .ok () → Decoder.records o.2.1 = ts.length) :=
  readOn_legible (fun t ht => Triple.fits_of_isWellFormed (h t ht) (hlabel t ht) (hdatatype t ht))
    hchunks sink w

/-- **Written statements are read back.** Well-formed statements, written one after the other, are
read from the octets in any chunks as the same statements in the same order. Labels with a colon
are left out, and where the reader is strict the datatype of tagged text. -/
theorem written_is_read (mode : Mode) {ts : List Triple} (h : ∀ t ∈ ts, t.isWellFormed = true)
    (hlabel : ∀ t ∈ ts, t.everyLabel isStatementLabel = true)
    (hdatatype : ∀ t ∈ ts, t.object.datatype?.all (allowsDatatype mode) = true) :
    ∃ document, (Output.nquads .memory).offer (ts.map .statement) [] = (.ok (), document) ∧
      ∀ chunks, chunks.flatten = document →
        (∃ d, Decoder.readOn Sink.collect chunks (initial mode, []) =
            (.ok (), d, ts.map .statement) ∧ Decoder.records d = ts.length) ∧
          ∀ (σ : Type) (sink : Sink σ) (w : σ),
            let o := Decoder.readOn sink chunks (initial mode, w)
            (o.1, o.2.2) = sink.offer (ts.map .statement) w ∧
              (o.1 = .ok () → Decoder.records o.2.1 = ts.length) := by
  refine ⟨Utf8.encode (ts.flatMap Triple.line), Output.offer_statements ts [], ?_⟩
  intro chunks hchunks
  obtain ⟨hoffer, hcount⟩ := readOn_lines h hlabel hdatatype hchunks Sink.collect []
  have hall := Sink.offered_collect hoffer
  exact ⟨⟨_, hall, hcount (congrArg (·.1) hall)⟩,
    fun _ sink w => readOn_lines h hlabel hdatatype hchunks sink w⟩

/-- Labels with dots, escapes of every kind, a language and a datatype, read strictly. -/
theorem written_is_read_with_escapes :
    let ts : List Triple := [
      ⟨.blank ⟨"a..b"⟩, ⟨"urn:p"⟩, .literal (.plain "q\" s\\ \t\r\n\x00\uFFFF é")⟩,
      ⟨.iri ⟨"http://é.example/?q#f"⟩, ⟨"urn:p"⟩, .literal (.tagged "" "en-us")⟩,
      ⟨.blank ⟨"0"⟩, ⟨"urn:p"⟩, .literal (.typed "." (xsd "integer"))⟩]
    (∀ t ∈ ts, t.isWellFormed = true) ∧ (∀ t ∈ ts, t.everyLabel isStatementLabel = true) ∧
      (∀ t ∈ ts, t.object.datatype?.all (allowsDatatype .strict) = true) ∧
      ∃ document, (Output.nquads .memory).offer (ts.map .statement) [] = (.ok (), document) ∧
        ∀ chunks, chunks.flatten = document →
          (∃ d, Decoder.readOn Sink.collect chunks (initial .strict, []) =
              (.ok (), d, ts.map .statement) ∧ Decoder.records d = ts.length) ∧
            ∀ (σ : Type) (sink : Sink σ) (w : σ),
              let o := Decoder.readOn sink chunks (initial .strict, w)
              (o.1, o.2.2) = sink.offer (ts.map .statement) w ∧
                (o.1 = .ok () → Decoder.records o.2.1 = ts.length) := by
  intro ts
  have h : ∀ t ∈ ts, t.isWellFormed = true := by decide
  have hlabel : ∀ t ∈ ts, t.everyLabel isStatementLabel = true := by decide
  have hdatatype : ∀ t ∈ ts, t.object.datatype?.all (allowsDatatype .strict) = true := by decide
  exact ⟨h, hlabel, hdatatype, written_is_read .strict h hlabel hdatatype⟩

/-! ## What is not read back -/

/-- A strict reader refuses text without a language that has the datatype of tagged text. -/
theorem run_langString {σ : Type} (sink : Sink σ) {s : Node} {p : Iri} {value : String}
    (hs : s.isWellFormed = true) (hlabel : s.everyLabel isStatementLabel = true)
    (hp : p.isWellFormed = true) (n : Nat) (rest : Bytes) (w : σ) :
    (run sink (Utf8.encode (Triple.line ⟨s, p, .literal (.typed value rdfLangString)⟩) ++ rest)
      (expecting .strict .subject n) w).settled =
        (.error (.protocol (.notNTriples .langStringDatatype)), w) := by
  have hd : rdfLangString.IsLegible .strict := Iri.isLegible_of_isWellFormed (by decide) .strict
  obtain ⟨b, bs, hbytes, hspace, htab, hlex⟩ := spells_iri hd (octet ' ')
  have hmove (rest : Bytes) :
      move .strict false (some (.datatype s p value)) b (bs ++ octet ' ' :: rest) =
        .step (bs.length + 1)
          (some (.dot ⟨s, p, .literal (.typed value rdfLangString)⟩)) none
          [.langStringDatatype] := by
    have hblank : ¬((b = octet ' ' || b = octet '\t') = true) := by simp [hspace, htab]
    simp only [move, if_neg hblank, hlex, hbytes, List.length_cons]
    rfl
  have hfits : Triple.Fits .strict (Iri.IsLegible .strict) ⟨s, p, .node (.iri rdfLangString)⟩ := by
    refine Triple.fits_of_isWellFormed ?_ ?_ rfl
    · simp only [Triple.isWellFormed, hs, hp, Bool.and_true]
      decide
    · simp only [Triple.everyLabel, hlabel]
      rfl
  rw [encode_line, run_subject sink n _ w hfits.subject, run_space,
    run_predicate sink n _ w hfits.predicate, run_space, Term.chars, run_typed sink n, hbytes,
    List.cons_append, run_step sink w rfl rfl (hmove _), run_fault sink w rfl]
  rfl

/-- What is left out above is written and not read back: a label with a colon ends before its
colon, and a strict reader refuses the datatype of tagged text. -/
theorem written_is_not_always_read :
    let colon : Triple := ⟨.blank ⟨"a:b"⟩, ⟨"urn:p"⟩, .iri "urn:o"⟩
    let tagged : Triple := ⟨.iri ⟨"urn:s"⟩, ⟨"urn:p"⟩, .literal (.typed "x" rdfLangString)⟩
    colon.isWellFormed = true ∧ tagged.isWellFormed = true ∧
      (Output.nquads .memory).offer [.statement colon] [] =
        (.ok (), Utf8.ofString "_:a:b <urn:p> <urn:o> .\n") ∧
      (∀ mode, (Decoder.readOn Sink.collect [Utf8.ofString "_:a:b <urn:p> <urn:o> .\n"]
        (initial mode, [])).settled = (.error (.protocol (.notNTriples .unexpectedToken)), [])) ∧
      ∃ document, (Output.nquads .memory).offer [.statement tagged] [] = (.ok (), document) ∧
        (Decoder.readOn Sink.collect [document] (initial .strict, [])).settled =
          (.error (.protocol (.notNTriples .langStringDatatype)), []) := by
  intro colon tagged
  have hwritten (t : Triple) : (Output.nquads .memory).offer [.statement t] [] =
      (.ok (), Utf8.encode t.line) := by
    rw [← List.append_nil t.line]
    exact Output.offer_statements [t] []
  refine ⟨by decide, by decide, ?_, ?_, _, hwritten tagged, ?_⟩
  · have hline : Utf8.encode colon.line = Utf8.ofString "_:a:b <urn:p> <urn:o> .\n" := by decide
    rw [hwritten, hline]
  · intro mode
    have hlabel : move mode false (some .subject) (octet '_')
        (Utf8.ofString ":a:b <urn:p> <urn:o> .\n") =
          .step 3 (some (.predicate (.blank ⟨"a"⟩))) none [] := by
      cases mode <;> decide +kernel
    have hname : move mode false (some (.predicate (.blank ⟨"a"⟩))) (octet ':')
        (Utf8.ofString "b <urn:p> <urn:o> .\n") =
          .step 2 (some .recovery) none [.unexpectedToken] := by
      cases mode <;> decide +kernel
    have hfirst : Utf8.ofString "_:a:b <urn:p> <urn:o> .\n" =
        octet '_' :: Utf8.ofString ":a:b <urn:p> <urn:o> .\n" := by decide
    have hsecond : (Utf8.ofString ":a:b <urn:p> <urn:o> .\n").drop 2 =
        octet ':' :: Utf8.ofString "b <urn:p> <urn:o> .\n" := by decide
    have hrun : (run Sink.collect (Utf8.ofString "_:a:b <urn:p> <urn:o> .\n") (initial mode)
        []).settled = (.error (.protocol (.notNTriples .unexpectedToken)), []) := by
      rw [hfirst, run_step Sink.collect [] rfl rfl hlabel, hsecond,
        run_step Sink.collect [] rfl rfl hname, run_fault Sink.collect [] rfl]
      rfl
    exact Decoder.readOn_failed hrun
  · have hrun := @run_langString _ Sink.collect (.iri ⟨"urn:s"⟩) ⟨"urn:p"⟩ "x" (by decide)
      (by decide) (by decide) 0 [] []
    rw [List.append_nil] at hrun
    exact Decoder.readOn_failed hrun

end GraphDecoder
end RdfExport
