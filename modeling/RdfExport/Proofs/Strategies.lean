import Mathlib.Data.List.Forall2
import RdfExport.Proofs.Documents
import RdfExport.Proofs.Rdf.Fields
import RdfExport.Proofs.Rendering

/-!
# RdfExport.Proofs.Strategies

An export may ask for statements or for rows that describe them. Both write the same lines, but for
the graphs, which only rows name.

* `cell?`: the term in the column of a name. `Carries`: a row that describes a statement.
* `rowBindings_get?`: columns with distinct names are found by their names.
* `strategies_agree`: what the two ways write.
-/

namespace RdfExport

open Rdf

def cell? (vars : List Variable) (row : Cells) (name : String) : Option Term :=
  ((vars.zip row).find? fun p => p.1.name == name).bind (·.2)

/-- That a row describes a statement in a graph. Columns of other names may hold anything. -/
structure Carries (vars : List Variable) (row : Cells) (q : Quad) : Prop where
  subject : cell? vars row "s" = some (.node q.subject)
  predicate : cell? vars row "p" = some (.node (.iri q.predicate))
  object : cell? vars row "o" = some q.object
  graph : cell? vars row "g" = q.graph.map .node

def Rdf.Quad.triple (q : Quad) : Triple := ⟨q.subject, q.predicate, q.object⟩

/-! ## Rows that describe statements -/

theorem rowBindings_get?_none {vars : List Variable} {name : String}
    (h : name ∉ vars.map (·.name)) (row : Cells) : (rowBindings vars row).get? name = none := by
  have hnone : ∀ p ∈ (rowBindings vars row).values, ¬(p.1.name == name) = true := by
    intro p hp heq
    obtain ⟨cell, hcell, hbind⟩ := List.mem_filterMap.1 hp
    obtain ⟨t, -, rfl⟩ := Option.map_eq_some_iff.1 hbind
    have hname : cell.1.name = name := by simpa using heq
    exact h (List.mem_map.2 ⟨cell.1, (List.of_mem_zip hcell).1, hname⟩)
  rw [Bindings.get?, List.find?_eq_none.2 hnone]
  rfl

theorem rowBindings_get? {vars : List Variable} (h : (vars.map (·.name)).Nodup) (row : Cells)
    (name : String) : (rowBindings vars row).get? name = cell? vars row name := by
  induction vars generalizing row with
  | nil => rfl
  | cons v vars ih =>
    rw [List.map_cons, List.nodup_cons] at h
    cases row with
    | nil => rfl
    | cons cell row =>
      have hrest := ih h.2 row
      by_cases hname : v.name = name
      · subst hname
        cases cell with
        | none =>
          -- no other column has this name
          simpa [rowBindings, cell?] using rowBindings_get?_none h.1 row
        | some t => simp [rowBindings, cell?, Bindings.get?]
      · cases cell with
        | none => simpa [rowBindings, cell?, hname] using hrest
        | some t => simpa [rowBindings, cell?, Bindings.get?, hname] using hrest

theorem toQuad?_of_carries {vars : List Variable} (h : (vars.map (·.name)).Nodup) {row : Cells}
    {q : Quad} (hrow : Carries vars row q) : (rowBindings vars row).toQuad? = some q := by
  simp only [Bindings.toQuad?, Bindings.graph?, rowBindings_get? h, hrow.subject, hrow.predicate,
    hrow.object, hrow.graph]
  cases q with
  | mk s p o g => cases g <;> rfl

theorem mem_of_cell? {vars : List Variable} {row : Cells} {name : String} {t : Term}
    (h : cell? vars row name = some t) : some t ∈ row := by
  obtain ⟨p, hp, ht⟩ := Option.bind_eq_some_iff.1 h
  have hmem := (List.of_mem_zip (List.mem_of_find?_eq_some hp)).2
  rwa [ht] at hmem

/-! ## Lines -/

def graphOctets : Option Node → Bytes
  | none => []
  | some g => octet ' ' :: Utf8.encode g.chars

theorem encode_quadLine (q : Quad) :
    Utf8.encode q.line =
      statementOctets q.triple ++ graphOctets q.graph ++ closingDot ++ [endsLine] := by
  rw [Quad.line, Utf8.encode_append, encode_dot, Utf8.encode_append]
  cases q.graph with
  | none => rfl
  | some g =>
    rw [graphOctets, Utf8.encode_cons_ascii (by decide)]
    rfl

/-- A well-formed statement is written without an LF, up to the end of its line. -/
theorem endsLine_not_mem_statementOctets {t : Triple} (h : t.isWellFormed = true) :
    endsLine ∉ statementOctets t := by
  simp only [Triple.isWellFormed, Bool.and_eq_true] at h
  refine endsLine_not_mem_of_printable fun c hc => ?_
  simp only [List.mem_append, List.mem_cons] at hc
  rcases hc with (hc | rfl | hc) | rfl | hc
  · exact Node.chars_printable h.1.1 c hc
  · decide
  · exact Iri.chars_printable h.1.2 c hc
  · decide
  · exact Term.chars_printable h.2 c hc

theorem endsLine_not_mem_graphOctets {g : Option Node} (h : g.all Node.isWellFormed = true) :
    endsLine ∉ graphOctets g := by
  cases g with
  | none => simp [graphOctets]
  | some g =>
    have hg := endsLine_not_mem_of_printable (Node.chars_printable h)
    have hspace : endsLine ≠ octet ' ' := by decide
    simp [graphOctets, hspace, hg]

/-! ## Both ways -/

section

variable {vars : List Variable} {rows : List Cells} {quads : List Quad}

theorem rows_lines (h : List.Forall₂ (Carries vars) rows quads)
    (hnames : (vars.map (·.name)).Nodup) :
    (rows.map fun row => Record.row (rowBindings vars row)).map Record.line? =
      (quads.map Quad.line).map some := by
  induction h with
  | nil => rfl
  | cons first rest ih =>
    simp only [List.map_cons, Record.line?, toQuad?_of_carries hnames first, Option.map_some]
    exact congrArg _ ih

theorem exists_carries (h : List.Forall₂ (Carries vars) rows quads) {q : Quad} (hq : q ∈ quads) :
    ∃ row ∈ rows, Carries vars row q := by
  induction h with
  | nil => cases hq
  | @cons row q' rows quads first rest ih =>
    rcases List.mem_cons.1 hq with rfl | hq
    · exact ⟨row, List.mem_cons_self, first⟩
    · obtain ⟨other, hother, hcarries⟩ := ih hq
      exact ⟨other, List.mem_cons_of_mem _ hother, hcarries⟩

/-- What holds of all terms in the cells holds of the terms of the statement. -/
theorem Carries.terms {row : Cells} {q : Quad} {p : Term → Prop} (h : Carries vars row q)
    (hp : ∀ t, some t ∈ row → p t) :
    p (.node q.subject) ∧ p (.node (.iri q.predicate)) ∧ p q.object ∧
      ∀ g, q.graph = some g → p (.node g) := by
  have hcell {name : String} {t : Term} (ht : cell? vars row name = some t) : p t :=
    hp t (mem_of_cell? ht)
  refine ⟨hcell h.subject, hcell h.predicate, hcell h.object, fun g hg => ?_⟩
  have hgraph := h.graph
  rw [hg] at hgraph
  exact hcell hgraph

end

/-- A table that describes statements: columns with distinct valid names, `s`, `p` and `o` among
them, one row for each statement, and terms that are well-formed. -/
structure Describes (columns : List Column) (rows : List Cells) (quads : List Quad) : Prop where
  names : ∀ c ∈ columns, isVariableName c.2.name.toList = true
  distinct : (columns.map (·.2.name)).Nodup
  statement : ∀ name ∈ ["s", "p", "o"], name ∈ columns.map (·.2.name)
  width : ∀ row ∈ rows, row.length = columns.length
  terms : ∀ row ∈ rows, ∀ cell ∈ row, cell.all Term.isWellFormed = true
  carries : List.Forall₂ (Carries (columns.map (·.2))) rows quads

namespace Describes

variable {columns : List Column} {rows : List Cells} {quads : List Quad}

theorem tabular (h : Describes columns rows quads)
    (hlabel : ∀ row ∈ rows, ∀ cell ∈ row, cell.all (Term.everyLabel isFieldLabel) = true) :
    Tabular columns rows where
  columns_ne_nil := by
    rintro rfl
    exact absurd (h.statement "s" (by simp)) (by simp)
  names := h.names
  width := h.width
  cells row hrow t ht :=
    ⟨ofField_chars (h.terms row hrow _ ht) (hlabel row hrow _ ht), fun c hc =>
      isFieldChar_of_printable (Term.chars_printable (h.terms row hrow _ ht) c hc)⟩

theorem isWellFormed (h : Describes columns rows quads) {q : Quad} (hq : q ∈ quads) :
    q.triple.isWellFormed = true ∧ q.graph.all Node.isWellFormed = true := by
  obtain ⟨row, hrow, hcarries⟩ := exists_carries h.carries hq
  obtain ⟨hs, hp, ho, hg⟩ := hcarries.terms fun t ht => h.terms row hrow _ ht
  constructor
  · simp only [Triple.isWellFormed, Bool.and_eq_true]
    exact ⟨⟨hs, hp⟩, ho⟩
  · cases hgraph : q.graph with
    | none => rfl
    | some g => exact hg g hgraph

theorem everyLabel (h : Describes columns rows quads)
    (hlabel : ∀ row ∈ rows, ∀ cell ∈ row, cell.all (Term.everyLabel isFieldLabel) = true) {q : Quad}
    (hq : q ∈ quads) : q.triple.everyLabel isStatementLabel = true := by
  obtain ⟨row, hrow, hcarries⟩ := exists_carries h.carries hq
  have hstatement : ∀ t, some t ∈ row → t.everyLabel isStatementLabel = true := by
    intro t ht
    have := hlabel row hrow _ ht
    cases t with
    | literal l => rfl
    | node n =>
      cases n with
      | iri i => rfl
      | blank b =>
        simp only [Option.all_some, Term.everyLabel, Node.everyLabel, isFieldLabel,
          Bool.and_eq_true] at this
        exact this.1.1
  obtain ⟨hs, -, ho, -⟩ := hcarries.terms hstatement
  simp only [Triple.everyLabel, Bool.and_eq_true]
  exact ⟨hs, ho⟩

theorem rows_written (h : Describes columns rows quads)
    (hlabel : ∀ row ∈ rows, ∀ cell ∈ row, cell.all (Term.everyLabel isFieldLabel) = true)
    {text : List Char} (htext : Renders columns rows text) {chunks : List Bytes}
    (hchunks : chunks.flatten = Utf8.encode text) :
    ∃ o, TupleDecoder.readOn? (Output.nquads .memory) chunks (TupleDecoder.initial, []) = some o ∧
      o.1 = .ok () ∧ Decoder.records o.2.1 = quads.length ∧
      o.2.2 = Utf8.encode (quads.map Quad.line).flatten := by
  obtain ⟨o, ho, hoffer, -, hcount⟩ := TupleDecoder.readOn?_renders (h.tabular hlabel) htext
    hchunks (Output.nquads .memory) []
  have hdistinct : ((columns.map (·.2)).map (·.name)).Nodup := by
    rw [List.map_map]
    exact h.distinct
  rw [Output.offer_memory (rows_lines h.carries hdistinct), List.nil_append,
    Prod.mk.injEq] at hoffer
  exact ⟨o, ho, hoffer.1, (hcount hoffer.1).trans h.carries.length_eq, hoffer.2⟩

theorem statements_written (h : Describes columns rows quads)
    (hlabel : ∀ q ∈ quads, q.triple.everyLabel isStatementLabel = true) {mode : NTriples.Mode}
    (hdatatype : ∀ q ∈ quads, q.object.datatype?.all (NTriples.allowsDatatype mode) = true)
    {chunks : List Bytes}
    (hchunks : chunks.flatten = Utf8.encode (quads.flatMap fun q => q.triple.line)) :
    let o := Decoder.readOn (Output.nquads .memory) chunks (GraphDecoder.initial mode, [])
    o.1 = .ok () ∧ Decoder.records o.2.1 = quads.length ∧
      o.2.2 = Utf8.encode (quads.map fun q => q.triple.line).flatten := by
  intro o
  have hdocument : chunks.flatten = Utf8.encode ((quads.map Quad.triple).flatMap Triple.line) := by
    rw [hchunks, List.flatMap_map]
  have hall {p : Triple → Prop} (hp : ∀ q ∈ quads, p q.triple) :
      ∀ t ∈ quads.map Quad.triple, p t := by
    intro t ht
    obtain ⟨q, hq, rfl⟩ := List.mem_map.1 ht
    exact hp q hq
  obtain ⟨hoffer, hcount⟩ := GraphDecoder.readOn_lines (hall fun q hq => (h.isWellFormed hq).1)
    (hall hlabel)
    (hall (p := fun t => t.object.datatype?.all (NTriples.allowsDatatype mode) = true) hdatatype)
    hdocument (Output.nquads .memory) []
  rw [Output.offer_statements, List.flatMap_map, List.nil_append, Prod.mk.injEq] at hoffer
  rw [List.length_map] at hcount
  exact ⟨hoffer.1, hcount hoffer.1, hoffer.2⟩

end Describes

/-- **Both ways to export write the same lines.** A table that describes statements, and a document
of these statements, are both read in any chunks and written as N-Quads; as many records are
counted. Each line of the table's output is the line of the document's output with the graph of
the row before its final dot; without graphs the two outputs are the same octets. Labels are left
out that the reader of fields does not take, and where the reader of statements is strict the
datatype of tagged text. -/
theorem strategies_agree {columns : List Column} {rows : List Cells} {quads : List Quad}
    (h : Describes columns rows quads)
    (hlabel : ∀ row ∈ rows, ∀ cell ∈ row, cell.all (Term.everyLabel isFieldLabel) = true)
    {mode : NTriples.Mode}
    (hdatatype : ∀ q ∈ quads, q.object.datatype?.all (NTriples.allowsDatatype mode) = true)
    {text : List Char} (htext : Renders columns rows text) {chunks chunks' : List Bytes}
    (hchunks : chunks.flatten = Utf8.encode text)
    (hchunks' : chunks'.flatten = Utf8.encode (quads.flatMap fun q => q.triple.line)) :
    ∃ o, TupleDecoder.readOn? (Output.nquads .memory) chunks (TupleDecoder.initial, []) = some o ∧
      let o' := Decoder.readOn (Output.nquads .memory) chunks' (GraphDecoder.initial mode, [])
      o.1 = .ok () ∧ o'.1 = .ok () ∧ Decoder.records o.2.1 = quads.length ∧
        Decoder.records o'.2.1 = quads.length ∧
        ((∀ q ∈ quads, q.graph = none) → o.2.2 = o'.2.2) ∧
        ∃ statements : List Bytes, statements.length = quads.length ∧
          TupleDecoder.splitLines o'.2.2 = (statements.map (· ++ closingDot), []) ∧
          TupleDecoder.splitLines o.2.2 =
            (List.zipWith (fun s q => s ++ graphOctets q.graph ++ closingDot) statements quads,
              []) := by
  obtain ⟨o, ho, hok, hcount, hout⟩ := h.rows_written hlabel htext hchunks
  obtain ⟨hok', hcount', hout'⟩ := h.statements_written (fun _ => h.everyLabel hlabel)
    hdatatype hchunks'
  refine ⟨o, ho, hok, hok', hcount, hcount', fun hgraph => ?_, ?_⟩
  · have hlines : quads.map Quad.line = quads.map fun q => q.triple.line := by
      refine List.map_congr_left fun q hq => ?_
      rw [Quad.line, hgraph q hq, List.append_nil]
      rfl
    rw [hout, hout', hlines]
  · have hstatement : ∀ q ∈ quads, endsLine ∉ statementOctets q.triple := fun q hq =>
      endsLine_not_mem_statementOctets (h.isWellFormed hq).1
    have hgraph : ∀ q ∈ quads, endsLine ∉ graphOctets q.graph := fun q hq =>
      endsLine_not_mem_graphOctets (h.isWellFormed hq).2
    refine ⟨quads.map fun q => statementOctets q.triple, List.length_map _, ?_, ?_⟩
    · rw [hout', splitLines_written (fun q : Quad => encode_tripleLine q.triple) fun q hq => ?_,
        List.map_map]
      · rfl
      · simp [hstatement q hq, endsLine_not_mem_closingDot]
    · rw [hout, splitLines_written encode_quadLine fun q hq => ?_, List.zipWith_map_left,
        List.zipWith_self]
      simp [hstatement q hq, hgraph q hq, endsLine_not_mem_closingDot]

/-- Columns in another order, one of them for something else, and a graph in one of the rows. -/
theorem strategies_agree_with_graph :
    let columns : List Column := [(.question, ⟨"o"⟩), (.dollar, ⟨"g"⟩), (.bare, ⟨"x"⟩),
      (.question, ⟨"s"⟩), (.question, ⟨"p"⟩)]
    let rows : List Cells := [
      [some (.literal (.plain "a\t\"b")), some (.blank "g1"), none, some (.blank "a.b"),
        some (.iri "urn:p")],
      [some (.literal (.tagged "é" "fr")), none, some (.iri "urn:x"), some (.iri "urn:s"),
        some (.iri "urn:p")]]
    let quads : List Quad := [
      ⟨.blank ⟨"a.b"⟩, ⟨"urn:p"⟩, .literal (.plain "a\t\"b"), some (.blank ⟨"g1"⟩)⟩,
      ⟨.iri ⟨"urn:s"⟩, ⟨"urn:p"⟩, .literal (.tagged "é" "fr"), none⟩]
    let text : List Char :=
      ("?o\t$g\tx\t?s\t?p\r\n\"a\\t\\\"b\"\t_:g1\t\t_:a.b\t<urn:p>\n" ++
        "\"é\"@fr\t\t<urn:x>\t<urn:s>\t<urn:p>").toList
    let chunks : List Bytes := [(Utf8.encode text).take 20, (Utf8.encode text).drop 20]
    let document : Bytes := Utf8.encode (quads.flatMap fun q => q.triple.line)
    let chunks' : List Bytes := [document.take 5, document.drop 5]
    Describes columns rows quads ∧
      (∀ row ∈ rows, ∀ cell ∈ row, cell.all (Term.everyLabel isFieldLabel) = true) ∧
      (∀ q ∈ quads, q.object.datatype?.all (NTriples.allowsDatatype .strict) = true) ∧
      Renders columns rows text ∧ chunks.flatten = Utf8.encode text ∧ chunks'.flatten = document ∧
      ∃ o, TupleDecoder.readOn? (Output.nquads .memory) chunks (TupleDecoder.initial, []) = some o ∧
        let o' := Decoder.readOn (Output.nquads .memory) chunks' (GraphDecoder.initial .strict, [])
        o.1 = .ok () ∧ o'.1 = .ok () ∧ Decoder.records o.2.1 = quads.length ∧
          Decoder.records o'.2.1 = quads.length ∧
          ((∀ q ∈ quads, q.graph = none) → o.2.2 = o'.2.2) ∧
          ∃ statements : List Bytes, statements.length = quads.length ∧
            TupleDecoder.splitLines o'.2.2 = (statements.map (· ++ closingDot), []) ∧
            TupleDecoder.splitLines o.2.2 =
              (List.zipWith (fun s q => s ++ graphOctets q.graph ++ closingDot) statements quads,
                []) := by
  intro columns rows quads text chunks document chunks'
  have h : Describes columns rows quads :=
    ⟨by decide, by decide, by decide, by decide, by decide,
      .cons ⟨by decide, by decide, by decide, by decide⟩
        (.cons ⟨by decide, by decide, by decide, by decide⟩ .nil)⟩
  have hlabel : ∀ row ∈ rows, ∀ cell ∈ row, cell.all (Term.everyLabel isFieldLabel) = true := by
    decide
  have hdatatype : ∀ q ∈ quads,
      q.object.datatype?.all (NTriples.allowsDatatype .strict) = true := by decide
  have htext : Renders columns rows text := by
    have hlines : text = headerText columns ++ (LineEnd.crlf.chars ++
        (rowText rows[0] ++ (LineEnd.lf.chars ++ rowText rows[1]))) := by decide
    rw [hlines]
    exact .cons _ .crlf (.cons _ .lf (.last (by decide)))
  have hchunks : chunks.flatten = Utf8.encode text := by simp [chunks]
  have hchunks' : chunks'.flatten = document := by simp [chunks']
  exact ⟨h, hlabel, hdatatype, htext, hchunks, hchunks',
    strategies_agree h hlabel hdatatype htext hchunks hchunks'⟩

/-- A label with two dots in a row: the reader of statements takes it, the reader of fields does
not. -/
theorem strategies_do_not_always_agree :
    let columns : List Column := [(.question, ⟨"s"⟩), (.question, ⟨"p"⟩), (.question, ⟨"o"⟩)]
    let rows : List Cells := [[some (.blank "a..b"), some (.iri "urn:p"), some (.iri "urn:o")]]
    let q : Quad := ⟨.blank ⟨"a..b"⟩, ⟨"urn:p"⟩, .iri "urn:o", none⟩
    Describes columns rows [q] ∧
      Renders columns rows "?s\t?p\t?o\n_:a..b\t<urn:p>\t<urn:o>\n".toList ∧
      (∃ o, TupleDecoder.readOn? (Output.nquads .memory)
          [Utf8.ofString "?s\t?p\t?o\n_:a..b\t<urn:p>\t<urn:o>\n"] (TupleDecoder.initial, []) =
            some o ∧
        o.1 = .error (.protocol (.badValue 2 "_:a..b" ⟨"s"⟩ (.badLabel "a..b"))) ∧ o.2.2 = []) ∧
      ∀ mode,
        let o := Decoder.readOn (Output.nquads .memory) [Utf8.encode q.triple.line]
          (GraphDecoder.initial mode, [])
        o.1 = .ok () ∧ Decoder.records o.2.1 = 1 ∧
          o.2.2 = Utf8.ofString "_:a..b <urn:p> <urn:o> .\n" := by
  intro columns rows q
  have h : Describes columns rows [q] :=
    ⟨by decide, by decide, by decide, by decide, by decide,
      .cons ⟨by decide, by decide, by decide, by decide⟩ .nil⟩
  refine ⟨h, ?_, ?_, fun mode => ?_⟩
  · have hlines : "?s\t?p\t?o\n_:a..b\t<urn:p>\t<urn:o>\n".toList = headerText columns ++
        (LineEnd.lf.chars ++ (rowText rows[0] ++ (LineEnd.lf.chars ++ []))) := by decide
    rw [hlines]
    exact .cons _ .lf (.cons _ .lf .nothing)
  · obtain ⟨o, ho, hview⟩ := TupleDecoder.readOn?_view (Output.nquads .memory)
      [Utf8.ofString "?s\t?p\t?o\n_:a..b\t<urn:p>\t<urn:o>\n"] []
    have hdecode : Table.decode (Output.nquads .memory)
        [Utf8.ofString "?s\t?p\t?o\n_:a..b\t<urn:p>\t<urn:o>\n"].flatten [] =
          (.error (.protocol (.badValue 2 "_:a..b" ⟨"s"⟩ (.badLabel "a..b"))),
            ⟨some [⟨"s"⟩, ⟨"p"⟩, ⟨"o"⟩], 0⟩, []) := by decide +kernel
    rw [hdecode] at hview
    exact ⟨o, ho, congrArg (·.1) hview, congrArg (·.2.2) hview⟩
  · have hwritten := @Describes.statements_written columns rows [q] h (by decide) mode
      (by cases mode <;> decide) [Utf8.encode q.triple.line] (by simp)
    have hline : Utf8.encode ([q].map fun q => q.triple.line).flatten =
        Utf8.ofString "_:a..b <urn:p> <urn:o> .\n" := by decide
    rwa [hline] at hwritten

end RdfExport
