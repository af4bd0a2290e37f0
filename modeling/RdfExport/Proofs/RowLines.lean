import Mathlib.Data.List.Basic
import Mathlib.Data.List.Forall2
import Mathlib.Logic.ExistsUnique
import RdfExport.Proofs.Forwarding
import RdfExport.Proofs.Rendering

/-!
# RdfExport.Proofs.RowLines

What one line after the header says, and what it does. A line says nothing, one row, or what is
wrong with it, by rules that do not mention how it is read (`LineSays`); the decoder does what the
line says and nothing else (`LineDoes`).

* `IsTextOf`: the text of a line, without the CR at its end.
* `FieldHolds`: what a field binds its column to.
* `lineSays_iff`: each line says exactly what the decoder reads in it.
* `NamesLine`: faults are told with the number of their line.
* `row_lines_exact`: one line, whatever came before it.
-/

namespace RdfExport

open Rdf

/-! ## What a line says -/

/-- The text of a line: its octets are the text and a CR, or the text, which then ends in no CR. -/
def IsTextOf (raw : Bytes) (text : List Char) : Prop :=
  raw = Utf8.encode (text ++ ['\r']) ∨ raw = Utf8.encode text ∧ text.getLast? ≠ some '\r'

/-- An empty field leaves its column unbound. Any other holds a term. -/
inductive FieldHolds : List Char → Option Term → Prop where
  | unbound : FieldHolds [] none
  | bound {field : List Char} {t : Term} (full : field ≠ []) (term : Term.ofField field = .ok t) :
      FieldHolds field (some t)

/-- A line without a field, which is no row unless there is one column. -/
def IsBlankLine (vars : List Variable) (text : List Char) : Prop := text = [] ∧ vars.length ≠ 1

/-- What line number `n` says under the columns `vars`: nothing, one row, or the first of the
faults that it has. A row needs a field for each column. -/
inductive LineSays (vars : List Variable) (n : Nat) (raw : Bytes) :
    Except ProtocolFault (Option Bindings) → Prop where
  | nothing {text : List Char} (isText : IsTextOf raw text) (blank : IsBlankLine vars text) :
      LineSays vars n raw (.ok none)
  | row {text : List Char} {cells : Cells} (isText : IsTextOf raw text)
      (full : ¬IsBlankLine vars text) (width : (text.splitOn '\t').length = vars.length)
      (holds : List.Forall₂ FieldHolds (text.splitOn '\t') cells) :
      LineSays vars n raw (.ok (some (rowBindings vars cells)))
  | notUtf8 {f : Utf8.Fault} (noText : ∀ text, raw ≠ Utf8.encode text)
      (fault : Utf8.decode raw = .error f) : LineSays vars n raw (.error (.notUtf8 n f))
  | fieldCount {text : List Char} (isText : IsTextOf raw text) (full : ¬IsBlankLine vars text)
      (width : (text.splitOn '\t').length ≠ vars.length) :
      LineSays vars n raw (.error (.fieldCount n (text.splitOn '\t').length vars.length))
  | badValue {text field : List Char} {before after : List (List Char)} {cells : Cells}
      {v : Variable} {f : TermFault} (isText : IsTextOf raw text) (full : ¬IsBlankLine vars text)
      (width : (text.splitOn '\t').length = vars.length)
      (fields : text.splitOn '\t' = before ++ field :: after)
      (holds : List.Forall₂ FieldHolds before cells) (column : vars[before.length]? = some v)
      (bad : field ≠ []) (fault : Term.ofField field = .error f) :
      LineSays vars n raw (.error (.badValue n (String.ofList field) v f))

/-! ### Texts -/

theorem IsTextOf.readText {raw : Bytes} {text : List Char} (h : IsTextOf raw text) (n : Nat) :
    readText n raw = .ok text := by
  obtain rfl | ⟨rfl, hlast⟩ := h
  · rw [RdfExport.readText, Utf8.decode_encode]
    simp [stripReturn]
  · simp [RdfExport.readText, Utf8.decode_encode, stripReturn, hlast]

theorem isTextOf_of_readText {n : Nat} {raw : Bytes} {text : List Char}
    (h : readText n raw = .ok text) : IsTextOf raw text := by
  simp only [readText] at h
  cases hdecode : Utf8.decode raw with
  | error f => simp [hdecode] at h
  | ok cs =>
    rw [hdecode] at h
    cases h
    have hraw : raw = Utf8.encode cs := (Utf8.encode_of_decodeFrom hdecode).symm
    by_cases hlast : cs.getLast? = some '\r'
    · left
      rw [stripReturn, if_pos hlast, hraw, List.dropLast_append_getLast? _ hlast]
    · right
      rw [stripReturn, if_neg hlast]
      exact ⟨hraw, hlast⟩

theorem readText_error {n : Nat} {raw : Bytes} {f : ProtocolFault}
    (h : readText n raw = .error f) :
    ∃ fault, f = .notUtf8 n fault ∧ Utf8.decode raw = .error fault ∧
      ∀ text, raw ≠ Utf8.encode text := by
  simp only [readText] at h
  cases hdecode : Utf8.decode raw with
  | ok cs => simp [hdecode] at h
  | error fault =>
    rw [hdecode] at h
    cases h
    refine ⟨fault, rfl, rfl, ?_⟩
    rintro text rfl
    rw [Utf8.decode_encode] at hdecode
    cases hdecode

/-! ### Fields -/

theorem readFields_holds {n : Nat} {vars : List Variable} {fields : List (List Char)}
    {cells : Cells} (h : List.Forall₂ FieldHolds fields cells) :
    readFields n (vars.zip fields) = .ok (rowBindings vars cells).values := by
  induction h generalizing vars with
  | nil => simp [readFields, rowBindings]
  | @cons field cell fields cells first rest ih =>
    cases vars with
    | nil => rfl
    | cons v vars =>
      have hrest := @ih vars
      cases first with
      | unbound =>
        rw [List.zip_cons_cons, readFields, List.isEmpty_nil,
          if_pos rfl, hrest]
        simp [rowBindings]
      | bound full term =>
        rw [List.zip_cons_cons, readFields, if_neg (by simpa using full), term]
        simp only [hrest, Except.map, rowBindings, List.zip_cons_cons, List.filterMap_cons,
          Option.map_some]

theorem readFields_bad {n : Nat} {vars : List Variable} {before after : List (List Char)}
    {field : List Char} {cells : Cells} {v : Variable} {f : TermFault}
    (h : List.Forall₂ FieldHolds before cells) (hcolumn : vars[before.length]? = some v)
    (hfield : field ≠ []) (hfault : Term.ofField field = .error f) :
    readFields n (vars.zip (before ++ field :: after)) =
      .error (.badValue n (String.ofList field) v f) := by
  induction h generalizing vars with
  | nil =>
    cases vars with
    | nil => cases hcolumn
    | cons v' vars =>
      obtain rfl : v' = v := by simpa using hcolumn
      rw [List.nil_append, List.zip_cons_cons, readFields, if_neg (by simpa using hfield), hfault]
  | @cons first cell before cells holds rest ih =>
    cases vars with
    | nil => cases hcolumn
    | cons v' vars =>
      have hrest := @ih vars (by simpa using hcolumn)
      cases holds with
      | unbound => rw [List.cons_append, List.zip_cons_cons, readFields, List.isEmpty_nil,
          if_pos rfl, hrest]
      | bound full term =>
        rw [List.cons_append, List.zip_cons_cons, readFields, if_neg (by simpa using full), term]
        simp only [hrest, Except.map]

/-- Either all fields hold something, or there is a first one that does not. -/
theorem fields_hold_or_bad (fields : List (List Char)) :
    (∃ cells, List.Forall₂ FieldHolds fields cells) ∨
      ∃ before field after cells f, fields = before ++ field :: after ∧
        List.Forall₂ FieldHolds before cells ∧ field ≠ [] ∧ Term.ofField field = .error f := by
  induction fields with
  | nil => exact .inl ⟨[], .nil⟩
  | cons field fields ih =>
    by_cases hfull : field = []
    · subst hfull
      obtain ⟨cells, hcells⟩ | ⟨before, bad, after, cells, f, rfl, hcells, hbad⟩ := ih
      · exact .inl ⟨none :: cells, .cons .unbound hcells⟩
      · exact .inr ⟨[] :: before, bad, after, none :: cells, f, rfl, .cons .unbound hcells, hbad⟩
    · cases hterm : Term.ofField field with
      | error f => exact .inr ⟨[], field, fields, [], f, rfl, .nil, hfull, hterm⟩
      | ok t =>
        have hfirst : FieldHolds field (some t) := .bound hfull hterm
        obtain ⟨cells, hcells⟩ | ⟨before, bad, after, cells, f, rfl, hcells, hbad⟩ := ih
        · exact .inl ⟨some t :: cells, .cons hfirst hcells⟩
        · exact .inr ⟨field :: before, bad, after, some t :: cells, f, rfl,
            .cons hfirst hcells, hbad⟩

/-! ### Lines -/

/-- What the decoder reads in a line after the header. -/
def readRowLine (vars : List Variable) (n : Nat) (raw : Bytes) :
    Except ProtocolFault (Option Bindings) :=
  match readText n raw with
  | .error f => .error f
  | .ok text => readRow vars n text

theorem readRow_blank {vars : List Variable} {text : List Char} (h : IsBlankLine vars text)
    (n : Nat) : readRow vars n text = .ok none := by
  obtain ⟨rfl, hone⟩ := h
  simp [readRow, hone]

theorem readRow_full {vars : List Variable} {text : List Char} (h : ¬IsBlankLine vars text)
    (n : Nat) :
    readRow vars n text =
      if (text.splitOn '\t').length ≠ vars.length then
        .error (.fieldCount n (text.splitOn '\t').length vars.length)
      else (readFields n (vars.zip (text.splitOn '\t'))).map fun values => some ⟨values⟩ := by
  rw [readRow, if_neg]
  simpa [IsBlankLine] using h

theorem LineSays.readRowLine {vars : List Variable} {n : Nat} {raw : Bytes}
    {said : Except ProtocolFault (Option Bindings)} (h : LineSays vars n raw said) :
    readRowLine vars n raw = said := by
  cases h with
  | nothing isText blank => simp only [RdfExport.readRowLine, isText.readText, readRow_blank blank]
  | row isText full width holds =>
    simp only [RdfExport.readRowLine, isText.readText, readRow_full full]
    rw [if_neg (by simpa using width), readFields_holds holds]
    rfl
  | notUtf8 noText fault => simp only [RdfExport.readRowLine, readText, fault]
  | fieldCount isText full width =>
    simp only [RdfExport.readRowLine, isText.readText, readRow_full full, if_pos width]
  | badValue isText full width fields holds column bad fault =>
    simp only [RdfExport.readRowLine, isText.readText, readRow_full full]
    rw [if_neg (by simpa using width), fields, readFields_bad holds column bad fault]
    rfl

theorem lineSays_readRowLine (vars : List Variable) (n : Nat) (raw : Bytes) :
    LineSays vars n raw (readRowLine vars n raw) := by
  cases htext : readText n raw with
  | error f =>
    obtain ⟨fault, rfl, hdecode, hnone⟩ := readText_error htext
    simpa only [readRowLine, htext] using LineSays.notUtf8 hnone hdecode
  | ok text =>
    have isText := isTextOf_of_readText htext
    simp only [readRowLine, htext]
    by_cases hblank : IsBlankLine vars text
    · rw [readRow_blank hblank]
      exact .nothing isText hblank
    rw [readRow_full hblank]
    by_cases hwidth : (text.splitOn '\t').length = vars.length
    · rw [if_neg (by simpa using hwidth)]
      obtain ⟨cells, holds⟩ | ⟨before, field, after, cells, f, hfields, holds, hbad, hfault⟩ :=
        fields_hold_or_bad (text.splitOn '\t')
      · rw [readFields_holds holds]
        exact .row isText hblank hwidth holds
      · have hplace : before.length < vars.length := by
          rw [← hwidth, hfields, List.length_append, List.length_cons]
          omega
        have hcolumn := List.getElem?_eq_getElem hplace
        rw [hfields, readFields_bad holds hcolumn hbad hfault]
        exact .badValue isText hblank hwidth hfields holds hcolumn hbad hfault
    · rw [if_pos hwidth]
      exact .fieldCount isText hblank hwidth

/-- A line says what the decoder reads in it, and nothing else. -/
theorem lineSays_iff {vars : List Variable} {n : Nat} {raw : Bytes}
    {said : Except ProtocolFault (Option Bindings)} :
    LineSays vars n raw said ↔ said = readRowLine vars n raw := by
  constructor
  · exact fun h => h.readRowLine.symm
  · rintro rfl
    exact lineSays_readRowLine vars n raw

/-! ### Faults -/

/-- That the text of a fault begins with the number of a line. -/
def NamesLine (n : Nat) (f : ProtocolFault) : Prop :=
  ∃ stop rest, (stop = " " ∨ stop = ":") ∧
    (ExportError.protocol f).message = "protocol error: line " ++ (toString n ++ (stop ++ rest))

theorem NamesLine.of_text {n : Nat} {f : ProtocolFault} {stop rest : String}
    (hstop : stop = " " ∨ stop = ":")
    (h : f.wording.text = "line " ++ (toString n ++ (stop ++ rest))) : NamesLine n f := by
  have hmessage : (ExportError.protocol f).message = "protocol error: " ++ f.wording.render id :=
    rfl
  have hrender : f.wording.render id = f.wording.text ++ f.wording.reason.getD "" := by
    cases hreason : f.wording.reason <;> simp [Wording.render, hreason]
  have hprefix : "protocol error: line " = "protocol error: " ++ "line " := by decide
  refine ⟨stop, rest ++ f.wording.reason.getD "", hstop, ?_⟩
  rw [hmessage, hrender, h, hprefix]
  simp only [String.append_assoc]

/-- What is wrong with a line is told with its number. -/
theorem LineSays.namesLine {vars : List Variable} {n : Nat} {raw : Bytes} {f : ProtocolFault}
    (h : LineSays vars n raw (.error f)) : NamesLine n f := by
  cases h with
  | @notUtf8 fault =>
    have htext : (ProtocolFault.notUtf8 n fault).wording.text =
        "line " ++ toString n ++ (" " ++ "is not UTF-8: ") ++ fault.message := rfl
    simp only [String.append_assoc] at htext
    exact .of_text (.inl rfl) htext
  | @fieldCount text =>
    have htext : (ProtocolFault.fieldCount n (text.splitOn '\t').length vars.length).wording.text =
        "line " ++ toString n ++ (" " ++ "has ") ++ toString (text.splitOn '\t').length ++
          " fields, header declared " ++ toString vars.length ++ " variables" := rfl
    simp only [String.append_assoc] at htext
    exact .of_text (.inl rfl) htext
  | @badValue text field before after cells v fault =>
    have htext : (ProtocolFault.badValue n (String.ofList field) v fault).wording.text =
        "line " ++ toString n ++ (":" ++ " invalid value ") ++ Text.quoted (String.ofList field) ++
          " for ?" ++ v.name ++ ": " := rfl
    simp only [String.append_assoc] at htext
    exact .of_text (.inr rfl) htext

/-! ## What a line does -/

namespace TupleDecoder

variable {σ : Type} {sink : Sink σ} {vars : List Variable} {d : TupleDecoder} {w : σ}

def passed (d : TupleDecoder) : TupleDecoder := { d with line := d.line + 1 }

/-- What comes of a line, by what it says. Only a row reaches the sink, once and as a whole, and is
counted if the sink accepts it. The line is counted in any case, and nothing else changes. -/
inductive LineDoes (sink : Sink σ) (d : TupleDecoder) (w : σ) :
    Except ProtocolFault (Option Bindings) → Outcome (TupleDecoder × σ) → Prop where
  | nothing : LineDoes sink d w (.ok none) (.ok (), d.passed, w)
  | accepted {row : Bindings} {w' : σ} (accepts : sink.accept (.row row) w = (.ok (), w')) :
      LineDoes sink d w (.ok (some row)) (.ok (), { d.passed with rows := d.rows + 1 }, w')
  | refused {row : Bindings} {e : ExportError} {w' : σ}
      (refuses : sink.accept (.row row) w = (.error e, w')) :
      LineDoes sink d w (.ok (some row)) (.error e, d.passed, w')
  | fault {f : ProtocolFault} :
      LineDoes sink d w (.error f) (.error (.protocol f), d.passed, w)

theorem lineDoes_takeLine (hd : d.header = some vars) (raw : Bytes) :
    LineDoes sink d w (readRowLine vars (d.line + 1) raw) (takeLine sink raw (d, w)) := by
  obtain ⟨p, k, _, n, rows⟩ := d
  cases hd
  simp only [takeLine, readRowLine]
  cases readText (n + 1) raw with
  | error f => exact .fault
  | ok text =>
    cases hrow : readRow vars (n + 1) text with
    | error f =>
      simp only [hrow]
      exact .fault
    | ok row =>
      cases row with
      | none =>
        simp only [hrow]
        exact .nothing
      | some row =>
        simp only [hrow, deliver]
        cases haccept : sink.accept (.row row) w with
        | mk r w' =>
          cases r with
          | error e => exact .refused haccept
          | ok u => exact .accepted haccept

theorem LineDoes.counts {said : Except ProtocolFault (Option Bindings)}
    {o : Outcome (TupleDecoder × σ)} (h : LineDoes sink d w said o) :
    o.2.1.header = d.header ∧ o.2.1.line = d.line + 1 ∧
      ((∃ row, said = .ok (some row) ∧ (sink.accept (.row row) w).1 = .ok ()) ∧
          o.2.1.rows = d.rows + 1 ∨
        (¬∃ row, said = .ok (some row) ∧ (sink.accept (.row row) w).1 = .ok ()) ∧
          o.2.1.rows = d.rows) := by
  refine ⟨?_, ?_, ?_⟩
  · cases h <;> rfl
  · cases h <;> rfl
  · cases h with
    | nothing => exact .inr ⟨by simp, rfl⟩
    | @accepted row w' accepts => exact .inl ⟨⟨row, rfl, by rw [accepts]⟩, rfl⟩
    | refused refuses =>
      refine .inr ⟨?_, rfl⟩
      rintro ⟨row, hsaid, hok⟩
      cases hsaid
      rw [refuses] at hok
      cases hok
    | fault => exact .inr ⟨by simp, rfl⟩

/-! ### Lines of a run -/

/-- The next LF ends the line that the octets held begin, and nothing is held after it. -/
theorem feed_line {d : TupleDecoder} (hd : d.Ready) {rest : Bytes} (hrest : endsLine ∉ rest)
    (sink : Sink σ) (w : σ) :
    (feed sink (rest ++ [endsLine]) (d, w)).view (·.hold [] 0) =
      (takeLine sink (d.pending ++ rest) (d, w)).view (·.hold [] 0) := by
  have hline : endsLine ∉ d.pending ++ rest := by simp [hd.1, hrest]
  have hsplit : splitLines (d.pending ++ (rest ++ [endsLine])) = ([d.pending ++ rest], []) := by
    rw [← List.append_assoc, splitLines_line hline]
    rfl
  conv => lhs; rw [hd.eq_hold]
  rw [feed_hold sink hd.1, hsplit]
  simp only [takeLines]
  cases takeLine sink (d.pending ++ rest) (d, w) with
  | mk r s => cases r <;> rfl

theorem close_line {d : TupleDecoder} (hd : d.Ready) (hheader : d.header = some vars)
    (hpending : d.pending ≠ []) (sink : Sink σ) (w : σ) :
    (close sink (d, w)).view (·.hold [] 0) =
      (takeLine sink d.pending (d, w)).view (·.hold [] 0) := by
  have hdoes : LineDoes sink d w _ (takeLine sink d.pending (d, w)) :=
    lineDoes_takeLine hheader d.pending
  have hkeeps := hdoes.counts.1
  conv => lhs; rw [hd.eq_hold]
  rw [close_hold, if_neg (by simpa using hpending)]
  simp only [takeTable, takeLines]
  cases htake : takeLine sink d.pending (d, w) with
  | mk r s =>
    rw [htake, hheader] at hkeeps
    cases r with
    | error e => rfl
    | ok u =>
      have hsome : s.1.header = some vars := hkeeps
      simp only [hsome, Option.isNone_some, Bool.false_eq_true, if_false]
      rfl

/-- **A line is a row, as a whole, or nothing.** After the header each line says exactly one thing:
nothing, one row, or its first fault; and the decoder does what the line says. A row is offered to
the sink once and whole, and counted exactly if the sink accepts it; a fault is told with the
number of the line. The variables never change. The number of a line is one more than the count of
the line ends before it, wherever chunks are cut; the line itself is what an LF or the end of the
octets ends. -/
theorem row_lines_exact (sink : Sink σ) {d : TupleDecoder} (hd : d.header = some vars)
    (raw : Bytes) (w : σ) :
    (∃! said, LineSays vars (d.line + 1) raw said) ∧
      (∀ said, LineSays vars (d.line + 1) raw said →
        let o := takeLine sink raw (d, w)
        LineDoes sink d w said o ∧ o.2.1.header = some vars ∧
          ((∃ row, said = .ok (some row) ∧ (sink.accept (.row row) w).1 = .ok ()) ∧
              o.2.1.rows = d.rows + 1 ∨
            (¬∃ row, said = .ok (some row) ∧ (sink.accept (.row row) w).1 = .ok ()) ∧
              o.2.1.rows = d.rows) ∧
          ∀ f, said = .error f → NamesLine (d.line + 1) f) ∧
      ∀ (start : σ) (before : List Bytes),
        Decoder.feedAll sink before (initial, start) = (.ok (), d, w) →
          d.line = before.flatten.count endsLine ∧
            (∀ rest, endsLine ∉ rest →
              (feed sink (rest ++ [endsLine]) (d, w)).view (·.hold [] 0) =
                (takeLine sink (d.pending ++ rest) (d, w)).view (·.hold [] 0)) ∧
            (d.pending ≠ [] →
              (close sink (d, w)).view (·.hold [] 0) =
                (takeLine sink d.pending (d, w)).view (·.hold [] 0)) := by
  refine ⟨⟨readRowLine vars (d.line + 1) raw, lineSays_readRowLine _ _ _, fun said h =>
    lineSays_iff.1 h⟩, ?_, ?_⟩
  · intro said hsaid o
    have hdoes : LineDoes sink d w said o := by
      rw [lineSays_iff.1 hsaid]
      exact lineDoes_takeLine hd raw
    obtain ⟨hheader, -, hrows⟩ := hdoes.counts
    refine ⟨hdoes, hheader.trans hd, hrows, ?_⟩
    rintro f rfl
    exact hsaid.namesLine
  · intro start before hfed
    have hforwarded := (forwarded_initial sink start).feedAll hfed
    have hready : d.Ready := ⟨hforwarded.unended, hforwarded.scanned⟩
    refine ⟨?_, fun rest hrest => feed_line hready hrest sink w,
      fun hpending => close_line hready hd hpending sink w⟩
    have hline := hforwarded.line
    rwa [List.nil_append] at hline

/-- Two columns of one name, of which the second is left unbound; the line is cut inside a term. A
line of two fields is refused, and so is a line with a field that holds no term. -/
theorem row_lines_of_repeated_name :
    let vars : List Variable := [⟨"s"⟩, ⟨"s"⟩, ⟨"o"⟩]
    let d : TupleDecoder := ⟨Utf8.ofString "<urn:", 5, some vars, 1, 0⟩
    let rest : Bytes := Utf8.ofString "a>\t\t\"x\"\r"
    d.header = some vars ∧
      Decoder.feedAll Sink.collect [Utf8.ofString "?s\t?s\t?o\n<urn:"] (initial, []) =
        (.ok (), d, []) ∧
      (∃! said, LineSays vars 2 (d.pending ++ rest) said) ∧
      LineDoes Sink.collect d []
        (.ok (some ⟨[(⟨"s"⟩, .iri "urn:a"), (⟨"o"⟩, .literal (.plain "x"))]⟩))
        (takeLine Sink.collect (d.pending ++ rest) (d, [])) ∧
      (feed Sink.collect (rest ++ [endsLine]) (d, [])).view (·.hold [] 0) =
        (takeLine Sink.collect (d.pending ++ rest) (d, [])).view (·.hold [] 0) ∧
      LineSays vars 2 (Utf8.ofString "<urn:a>\t") (.error (.fieldCount 2 2 3)) ∧
      LineSays vars 2 (Utf8.ofString "<urn:a>\t_:\t\"x")
        (.error (.badValue 2 "_:" ⟨"s"⟩ (.badLabel ""))) := by
  intro vars d rest
  have hd : d.header = some vars := rfl
  obtain ⟨hone, hdoes, hrun⟩ := row_lines_exact Sink.collect hd (d.pending ++ rest) []
  have hfed : Decoder.feedAll Sink.collect [Utf8.ofString "?s\t?s\t?o\n<urn:"] (initial, []) =
      (.ok (), d, []) := by decide +kernel
  have hrow : readRowLine [⟨"s"⟩, ⟨"s"⟩, ⟨"o"⟩] 2 (Utf8.ofString "<urn:a>\t\t\"x\"\r") =
      .ok (some ⟨[(⟨"s"⟩, .iri "urn:a"), (⟨"o"⟩, .literal (.plain "x"))]⟩) := by decide +kernel
  have hraw : d.pending ++ rest = Utf8.ofString "<urn:a>\t\t\"x\"\r" := by decide
  rw [← hraw] at hrow
  have htwo : readRowLine vars 2 (Utf8.ofString "<urn:a>\t") = .error (.fieldCount 2 2 3) := by
    decide +kernel
  have hbad : readRowLine vars 2 (Utf8.ofString "<urn:a>\t_:\t\"x") =
      .error (.badValue 2 "_:" ⟨"s"⟩ (.badLabel "")) := by decide +kernel
  obtain ⟨-, hline, -⟩ := hrun [] _ hfed
  exact ⟨hd, hfed, hone, (hdoes _ (lineSays_iff.2 hrow.symm)).1, hline rest (by decide),
    lineSays_iff.2 htwo.symm, lineSays_iff.2 hbad.symm⟩

end TupleDecoder
end RdfExport
