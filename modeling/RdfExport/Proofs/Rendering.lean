import Mathlib.Data.List.Basic
import RdfExport.Proofs.Delivery
import RdfExport.Proofs.Rdf.WellFormed
import RdfExport.Proofs.Table
import RdfExport.Proofs.Text.Pieces
import RdfExport.Proofs.Text.Utf8

/-!
# RdfExport.Proofs.Rendering

Result tables as they may be written, and what is read of them. The header marks each variable with
`?`, with `$` or not at all; fields stand between TABs, and an unbound one is empty; each line ends
in LF or CRLF, and the last may lack its end unless it is empty.

* `Lined`: a text made of lines. `Renders`: a text made of the lines of a table.
* `Tabular`: tables that can be written so.
* `decode_renders`: what the reference reads of a rendering.
* `renderings_are_read`: what is read of it in any chunks. `readOn?_renders` is that for one sink.
-/

namespace RdfExport

open Rdf

inductive Mark where
  | question
  | dollar
  | bare

def Mark.chars : Mark → List Char
  | .question => ['?']
  | .dollar => ['$']
  | .bare => []

inductive LineEnd where
  | lf
  | crlf

def LineEnd.chars : LineEnd → List Char
  | .lf => ['\n']
  | .crlf => ['\r', '\n']

/-- That a text is made of lines. The last may lack its end, unless it is empty. -/
inductive Lined : List (List Char) → List Char → Prop where
  | nothing : Lined [] []
  | last {line : List Char} (full : line ≠ []) : Lined [line] line
  | cons (line : List Char) (ending : LineEnd) {lines : List (List Char)} {text : List Char}
      (rest : Lined lines text) : Lined (line :: lines) (line ++ (ending.chars ++ text))

/-- A variable of a header and its mark. -/
abbrev Column := Mark × Variable

/-- A row of a table: for each column its term, if it is bound. -/
abbrev Cells := List (Option Term)

def headerField (c : Column) : List Char := c.1.chars ++ c.2.name.toList

def cellField : Option Term → List Char
  | none => []
  | some t => t.chars

def headerText (columns : List Column) : List Char := ['\t'].intercalate (columns.map headerField)

def rowText (row : Cells) : List Char := ['\t'].intercalate (row.map cellField)

/-- That a text is a rendering of a table. -/
def Renders (columns : List Column) (rows : List Cells) (text : List Char) : Prop :=
  Lined (headerText columns :: rows.map rowText) text

/-- What a row binds: the terms of its bound columns, in the order of the header. -/
def rowBindings (vars : List Variable) (row : Cells) : Bindings :=
  ⟨(vars.zip row).filterMap fun p => p.2.map (p.1, ·)⟩

def isFieldChar (c : Char) : Bool := c ≠ '\t' && c ≠ '\n' && c ≠ '\r'

/-- A term that is read from a field that holds it as it is written. -/
structure Readable (t : Term) : Prop where
  reads : Term.ofField t.chars = .ok t
  fits : ∀ c ∈ t.chars, isFieldChar c = true

/-- A table that can be written: some columns, with valid names, and in each row one cell for each
column. -/
structure Tabular (columns : List Column) (rows : List Cells) : Prop where
  columns_ne_nil : columns ≠ []
  names : ∀ c ∈ columns, isVariableName c.2.name.toList = true
  width : ∀ row ∈ rows, row.length = columns.length
  cells : ∀ row ∈ rows, ∀ t, some t ∈ row → Readable t

/-! ## Fields -/

theorem isFieldChar_of_printable {c : Char} (h : 0x20 ≤ c.toNat) : isFieldChar c = true := by
  have hne {d : Char} (hd : d.toNat < 0x20) : c ≠ d := by
    rintro rfl
    omega
  simp [isFieldChar, hne]

theorem isVariableName_cons {name : List Char} (h : isVariableName name = true) :
    ∃ c cs, name = c :: cs ∧ c ≠ '?' ∧ c ≠ '$' ∧ ∀ x ∈ name, 0x20 ≤ x.toNat := by
  cases name with
  | nil => cases h
  | cons c cs =>
    simp only [isVariableName, Bool.and_eq_true, List.all_eq_true] at h
    have hc (d : Char) (hd : (isNameStart d || d = ':') = false) : c ≠ d := by
      rintro rfl
      rw [hd] at h
      cases h.1
    refine ⟨c, cs, rfl, hc _ (by decide), hc _ (by decide), fun x hx => ?_⟩
    have hchar : (isNameChar x || x = ':') = true := by
      rcases List.mem_cons.1 hx with rfl | hx
      · rcases Bool.or_eq_true_iff.1 h.1 with hstart | hcolon
        · simp [isNameChar, hstart]
        · simp [hcolon]
      · simp [h.2 x hx]
    exact @not_below_space (fun x => isNameChar x || x = ':') (by decide) x hchar

theorem headerField_fits {c : Column} (h : isVariableName c.2.name.toList = true) :
    ∀ x ∈ headerField c, isFieldChar x = true := by
  obtain ⟨_, _, -, -, -, hname⟩ := isVariableName_cons h
  intro x hx
  rcases List.mem_append.1 hx with hx | hx
  · cases hmark : c.1 <;> simp only [hmark, Mark.chars, List.mem_singleton, List.not_mem_nil] at hx
    all_goals
      subst hx
      decide
  · exact isFieldChar_of_printable (hname x hx)

theorem stripMark_headerField {c : Column} (h : isVariableName c.2.name.toList = true) :
    stripMark (headerField c) = c.2.name.toList := by
  obtain ⟨x, xs, hname, hquestion, hdollar, -⟩ := isVariableName_cons h
  obtain ⟨mark, v⟩ := c
  cases mark with
  | question => rfl
  | dollar => rfl
  | bare =>
    simp only [headerField, Mark.chars, List.nil_append] at hname ⊢
    rw [hname, stripMark.eq_3]
    · exact fun _ heq => hquestion (List.cons.inj heq).1
    · exact fun _ heq => hdollar (List.cons.inj heq).1

theorem headerVariable_headerField {c : Column} (h : isVariableName c.2.name.toList = true) :
    headerVariable (headerField c) = .ok c.2 := by
  simp only [headerVariable, stripMark_headerField h, Variable.ofName?, if_pos h,
    String.ofList_toList]

theorem cellField_ne_nil (t : Term) : cellField (some t) ≠ [] := by
  cases t with
  | node n => cases n <;> simp [cellField, Term.chars, Node.chars, Iri.chars, BlankNode.chars]
  | literal l => cases l <;> simp [cellField, Term.chars, Literal.chars, valueChars]

theorem cellField_fits {row : Cells} (h : ∀ t, some t ∈ row → Readable t) :
    ∀ field ∈ row.map cellField, ∀ c ∈ field, isFieldChar c = true := by
  intro field hfield c hc
  obtain ⟨cell, hcell, rfl⟩ := List.mem_map.1 hfield
  cases cell with
  | none => cases hc
  | some t => exact (h t hcell).fits c hc

/-- Fields between TABs are found again. -/
theorem splitOn_fields {fields : List (List Char)} (hne : fields ≠ [])
    (h : ∀ field ∈ fields, ∀ c ∈ field, isFieldChar c = true) :
    (['\t'].intercalate fields).splitOn '\t' = fields := by
  refine List.splitOn_intercalate '\t' (fun field hfield htab => ?_) hne
  have := h field hfield '\t' htab
  cases this

/-! ## Lines -/

theorem mapM_headerField {columns : List Column}
    (h : ∀ c ∈ columns, isVariableName c.2.name.toList = true) :
    (columns.map headerField).mapM headerVariable = .ok (columns.map (·.2)) := by
  induction columns with
  | nil => rfl
  | cons c columns ih =>
    rw [List.map_cons, List.mapM_cons, headerVariable_headerField (h c (by simp)),
      ih fun x hx => h x (by simp [hx])]
    rfl

theorem headerText_ne_nil {columns : List Column} (hne : columns ≠ [])
    (h : ∀ c ∈ columns, isVariableName c.2.name.toList = true) : headerText columns ≠ [] := by
  cases columns with
  | nil => exact absurd rfl hne
  | cons c columns =>
    obtain ⟨x, xs, hname, -⟩ := isVariableName_cons (h c (by simp))
    rw [headerText, List.map_cons, intercalate_cons, headerField, hname]
    simp

theorem readHeader_headerText {columns : List Column} (hne : columns ≠ [])
    (h : ∀ c ∈ columns, isVariableName c.2.name.toList = true) :
    readHeader (headerText columns) = .ok (columns.map (·.2)) := by
  have hfull : ¬(headerText columns).isEmpty = true := by
    simpa using headerText_ne_nil hne h
  have hfields : (headerText columns).splitOn '\t' = columns.map headerField := by
    refine splitOn_fields (by simpa using hne) fun field hfield => ?_
    obtain ⟨c, hc, rfl⟩ := List.mem_map.1 hfield
    exact headerField_fits (h c hc)
  rw [readHeader, if_neg hfull, hfields, mapM_headerField h]

theorem readFields_cells {line : Nat} {vars : List Variable} {row : Cells}
    (h : ∀ t, some t ∈ row → Readable t) :
    readFields line (vars.zip (row.map cellField)) =
      .ok ((vars.zip row).filterMap fun p => p.2.map (p.1, ·)) := by
  induction row generalizing vars with
  | nil => simp [readFields]
  | cons cell row ih =>
    cases vars with
    | nil => simp [readFields]
    | cons v vars =>
      have hrow := @ih vars fun t ht => h t (by simp [ht])
      rw [List.map_cons, List.zip_cons_cons, List.zip_cons_cons]
      cases cell with
      | none =>
        rw [readFields, cellField, if_pos List.isEmpty_nil, hrow]
        rfl
      | some t =>
        have hfull : ¬(cellField (some t)).isEmpty = true := by
          simpa using cellField_ne_nil t
        have hread : Term.ofField (cellField (some t)) = .ok t := (h t (by simp)).reads
        rw [readFields, if_neg hfull, hread, hrow]
        rfl

/-- A row is read from its line. An empty line is the row of one unbound variable. -/
theorem readRow_rowText {vars : List Variable} {row : Cells} (hne : vars ≠ [])
    (hwidth : row.length = vars.length) (h : ∀ t, some t ∈ row → Readable t) (line : Nat) :
    readRow vars line (rowText row) = .ok (some (rowBindings vars row)) := by
  have hrow : row ≠ [] := by
    rintro rfl
    exact hne (List.length_eq_zero_iff.1 hwidth.symm)
  have hblank : ¬((rowText row).isEmpty && vars.length != 1) = true := by
    cases row with
    | nil => exact absurd rfl hrow
    | cons cell rest =>
      cases rest with
      | nil => simp [← hwidth]
      | cons next rest => simp [rowText]
  have hfields : (rowText row).splitOn '\t' = row.map cellField :=
    splitOn_fields (by simpa using hrow) (cellField_fits h)
  have hcount : (row.map cellField).length = vars.length := by
    rw [List.length_map, hwidth]
  rw [readRow, if_neg hblank]
  simp only [hfields, hcount, readFields_cells h, ne_eq, not_true_eq_false, if_false]
  rfl

def isLineChar (c : Char) : Bool := c ≠ '\n' && c ≠ '\r'

theorem isLineChar_fields {fields : List (List Char)}
    (h : ∀ field ∈ fields, ∀ c ∈ field, isFieldChar c = true) :
    ∀ c ∈ ['\t'].intercalate fields, isLineChar c = true := by
  intro c hc
  rcases mem_intercalate hc with rfl | ⟨field, hfield, hc⟩
  · decide
  · have := h field hfield c hc
    simp only [isFieldChar, Bool.and_eq_true] at this
    simpa [isLineChar] using ⟨by simpa using this.1.2, by simpa using this.2⟩

/-- The text of a line, apart from its number. -/
def lineText? (raw : Bytes) : Option (List Char) :=
  match Utf8.decode raw with
  | .ok cs => some (stripReturn cs)
  | .error _ => none

theorem readText_of_lineText? {raw : Bytes} {text : List Char} (h : lineText? raw = some text)
    (line : Nat) : readText line raw = .ok text := by
  unfold lineText? at h
  unfold readText
  cases hraw : Utf8.decode raw with
  | error f => simp [hraw] at h
  | ok cs => simpa [hraw] using h

theorem lineText?_encode (cs : List Char) : lineText? (Utf8.encode cs) = some (stripReturn cs) := by
  simp only [lineText?, Utf8.decode_encode]

theorem isLineChar_ne {line : List Char} (h : ∀ c ∈ line, isLineChar c = true) :
    '\n' ∉ line ∧ '\r' ∉ line := by
  refine ⟨fun hmem => ?_, fun hmem => ?_⟩
  · cases h _ hmem
  · cases h _ hmem

theorem stripReturn_line {line : List Char} (h : '\r' ∉ line) : stripReturn line = line := by
  rw [stripReturn, if_neg fun hlast => h (List.mem_of_getLast? hlast)]

theorem encode_lineEnd (ending : LineEnd) {line : List Char}
    (h : ∀ c ∈ line, isLineChar c = true) (text : List Char) :
    ∃ raw, Utf8.encode (line ++ (ending.chars ++ text)) = raw ++ endsLine :: Utf8.encode text ∧
      endsLine ∉ raw ∧ lineText? raw = some line := by
  obtain ⟨hlf, hcr⟩ := isLineChar_ne h
  have hend : Utf8.encode ('\n' :: text) = endsLine :: Utf8.encode text :=
    Utf8.encode_cons_ascii (by decide) text
  cases ending with
  | lf =>
    refine ⟨Utf8.encode line, ?_, endsLine_not_mem_encode hlf, ?_⟩
    · rw [Utf8.encode_append, LineEnd.chars, List.singleton_append, hend]
    · rw [lineText?_encode, stripReturn_line hcr]
  | crlf =>
    refine ⟨Utf8.encode (line ++ ['\r']), ?_, endsLine_not_mem_encode (by simp [hlf]), ?_⟩
    · rw [LineEnd.chars, List.cons_append, List.singleton_append, List.append_cons,
        Utf8.encode_append, hend]
    · rw [lineText?_encode, stripReturn, List.getLast?_concat, if_pos rfl, List.dropLast_concat]

/-- The lines of a text are found again, whatever each of them ends in. -/
theorem tableLines_lined {lines : List (List Char)} {text : List Char} (h : Lined lines text)
    (hchars : ∀ line ∈ lines, ∀ c ∈ line, isLineChar c = true) :
    (tableLines (Utf8.encode text)).map lineText? = lines.map some := by
  induction h with
  | nothing => rfl
  | @last line full =>
    obtain ⟨hlf, hcr⟩ := isLineChar_ne (hchars line (by simp))
    have hfull : ¬(Utf8.encode line).isEmpty = true := by
      simpa using Utf8.encode_ne_nil full
    rw [TupleDecoder.tableLines_eq_self (endsLine_not_mem_encode hlf), if_neg hfull,
      List.map_singleton, lineText?_encode, stripReturn_line hcr]
    rfl
  | @cons line ending lines text rest ih =>
    obtain ⟨raw, hbytes, hraw, hline⟩ := encode_lineEnd ending (hchars line (by simp)) text
    rw [hbytes, TupleDecoder.tableLines_line hraw, List.map_cons, List.map_cons, hline,
      ih fun l hl => hchars l (by simp [hl])]

/-! ## Tables -/

theorem decodeRows_rows {σ : Type} (sink : Sink σ) {vars : List Variable} {raws : List Bytes}
    {rows : List Cells} (hraws : raws.map lineText? = (rows.map rowText).map some)
    (hrows : ∀ row ∈ rows, ∀ line,
      readRow vars line (rowText row) = .ok (some (rowBindings vars row)))
    (line count : Nat) (w : σ) :
    let o := Table.decodeRows sink vars line raws count w
    (o.1, o.2.2) = sink.offer (rows.map fun row => .row (rowBindings vars row)) w ∧
      (o.1 = .ok () → o.2.1 = count + rows.length) := by
  induction rows generalizing raws line count w with
  | nil =>
    obtain rfl : raws = [] := by simpa using hraws
    exact ⟨rfl, fun _ => rfl⟩
  | cons row rows ih =>
    cases raws with
    | nil => cases hraws
    | cons raw raws =>
      simp only [List.map_cons, List.cons.injEq] at hraws
      obtain ⟨hraw, hraws⟩ := hraws
      simp only [Table.decodeRows, readText_of_lineText? hraw, hrows row (by simp) line,
        List.map_cons, Sink.offer]
      cases sink.accept (.row (rowBindings vars row)) w with
      | mk r w' =>
        cases r with
        | error e => exact ⟨rfl, fun h => by cases h⟩
        | ok u =>
          obtain ⟨hoffer, hcount⟩ := ih hraws (fun r hr => hrows r (by simp [hr])) (line + 1)
            (count + 1) w'
          refine ⟨hoffer, fun h => ?_⟩
          rw [hcount h, List.length_cons]
          omega

theorem decode_renders {σ : Type} (sink : Sink σ) {columns : List Column} {rows : List Cells}
    {text : List Char} (h : Tabular columns rows) (htext : Renders columns rows text) (w : σ) :
    let o := Table.decode sink (Utf8.encode text) w
    (o.1, o.2.2) =
        sink.offer (rows.map fun row => .row (rowBindings (columns.map (·.2)) row)) w ∧
      o.2.1.header = some (columns.map (·.2)) ∧ (o.1 = .ok () → o.2.1.rows = rows.length) := by
  have hchars : ∀ line ∈ headerText columns :: rows.map rowText, ∀ c ∈ line,
      isLineChar c = true := by
    intro line hline
    rcases List.mem_cons.1 hline with rfl | hline
    · refine isLineChar_fields fun field hfield => ?_
      obtain ⟨c, hc, rfl⟩ := List.mem_map.1 hfield
      exact headerField_fits (h.names c hc)
    · obtain ⟨row, hrow, rfl⟩ := List.mem_map.1 hline
      exact isLineChar_fields (cellField_fits (h.cells row hrow))
  have hlines := tableLines_lined htext hchars
  have hrows : ∀ row ∈ rows, ∀ line, readRow (columns.map (·.2)) line (rowText row) =
      .ok (some (rowBindings (columns.map (·.2)) row)) := by
    intro row hrow line
    refine readRow_rowText (by simpa using h.columns_ne_nil) ?_ (h.cells row hrow) line
    rw [h.width row hrow, List.length_map]
  unfold Table.decode
  cases hraws : tableLines (Utf8.encode text) with
  | nil => simp [hraws] at hlines
  | cons raw raws =>
    rw [hraws, List.map_cons, List.map_cons, List.cons.injEq] at hlines
    obtain ⟨hoffer, hcount⟩ := decodeRows_rows sink hlines.2 hrows 2 0 w
    rw [Nat.zero_add] at hcount
    simp only [readText_of_lineText? hlines.1,
      readHeader_headerText h.columns_ne_nil h.names]
    exact ⟨hoffer, rfl, hcount⟩

namespace TupleDecoder

/-- The chunks of a rendering offer its rows to any sink. -/
theorem readOn?_renders {columns : List Column} {rows : List Cells} {text : List Char}
    (h : Tabular columns rows) (htext : Renders columns rows text) {chunks : List Bytes}
    (hchunks : chunks.flatten = Utf8.encode text) {σ : Type} (sink : Sink σ) (w : σ) :
    ∃ o, readOn? sink chunks (initial, w) = some o ∧
      (o.1, o.2.2) =
        sink.offer (rows.map fun row => .row (rowBindings (columns.map (·.2)) row)) w ∧
      o.2.1.header = some (columns.map (·.2)) ∧
      (o.1 = .ok () → Decoder.records o.2.1 = rows.length) := by
  obtain ⟨o, ho, hview⟩ := readOn?_view sink chunks w
  obtain ⟨hoffer, hheader, hcount⟩ := decode_renders sink h htext w
  rw [← hchunks, ← hview] at hoffer hheader hcount
  exact ⟨o, ho, hoffer, hheader, hcount⟩

/-- **Renderings of a table are read alike.** However a table is written and its octets are cut into
chunks, a fresh decoder reads it: it announces the variables and hands over what each row binds, in
order. -/
theorem renderings_are_read {columns : List Column} {rows : List Cells} {text : List Char}
    (h : Tabular columns rows) (htext : Renders columns rows text) {chunks : List Bytes}
    (hchunks : chunks.flatten = Utf8.encode text) :
    let vars := columns.map (·.2)
    let records : List Record := rows.map fun row => .row (rowBindings vars row)
    (∃ d : TupleDecoder, readOn? Sink.collect chunks (initial, []) = some (.ok (), d, records) ∧
        d.header = some vars ∧ Decoder.records d = rows.length) ∧
      ∀ (σ : Type) (sink : Sink σ) (w : σ), ∃ o, readOn? sink chunks (initial, w) = some o ∧
        (o.1, o.2.2) = sink.offer records w ∧ o.2.1.header = some vars ∧
        (o.1 = .ok () → Decoder.records o.2.1 = rows.length) := by
  intro vars records
  obtain ⟨o, ho, hoffer, hheader, hcount⟩ := readOn?_renders h htext hchunks Sink.collect []
  have hall := Sink.offered_collect hoffer
  rw [hall] at ho
  exact ⟨⟨_, ho, hheader, hcount (congrArg (·.1) hall)⟩,
    fun _ sink w => readOn?_renders h htext hchunks sink w⟩

/-- One variable: its empty line is a row, and the last line lacks its end. -/
theorem renderings_are_read_with_empty_line :
    let columns : List Column := [(.dollar, ⟨"x"⟩)]
    let rows : List Cells := [[none], [some (.iri "urn:a")]]
    let text : List Char := "$x\r\n\n<urn:a>".toList
    let chunks : List Bytes :=
      [Utf8.ofString "$x\r", [], Utf8.ofString "\n\n<urn:", Utf8.ofString "a>"]
    let vars := columns.map (·.2)
    let records : List Record := rows.map fun row => .row (rowBindings vars row)
    Tabular columns rows ∧ Renders columns rows text ∧ chunks.flatten = Utf8.encode text ∧
      (∃ d : TupleDecoder, readOn? Sink.collect chunks (initial, []) = some (.ok (), d, records) ∧
          d.header = some vars ∧ Decoder.records d = rows.length) ∧
        ∀ (σ : Type) (sink : Sink σ) (w : σ), ∃ o, readOn? sink chunks (initial, w) = some o ∧
          (o.1, o.2.2) = sink.offer records w ∧ o.2.1.header = some vars ∧
          (o.1 = .ok () → Decoder.records o.2.1 = rows.length) := by
  intro columns rows text chunks vars records
  have htable : Tabular columns rows := by
    refine ⟨by decide, by decide, by decide, fun row hrow t ht => ?_⟩
    have hrow : row = [none] ∨ row = [some (.iri "urn:a")] := by simpa [rows] using hrow
    rcases hrow with rfl | rfl
    · simp at ht
    · obtain rfl : t = .iri "urn:a" := by simpa using ht
      have hwell : (Term.iri "urn:a").isWellFormed = true := by decide
      exact ⟨by decide +kernel,
        fun c hc => isFieldChar_of_printable (Term.chars_printable hwell c hc)⟩
  have htext : Renders columns rows text := by
    have hlines : text = headerText columns ++ (LineEnd.crlf.chars ++ (rowText [none] ++
        (LineEnd.lf.chars ++ rowText [some (.iri "urn:a")]))) := by decide
    rw [hlines]
    exact .cons _ .crlf (.cons _ .lf (.last (by decide)))
  have hchunks : chunks.flatten = Utf8.encode text := by decide
  exact ⟨htable, htext, hchunks, renderings_are_read htable htext hchunks⟩

end TupleDecoder
end RdfExport
