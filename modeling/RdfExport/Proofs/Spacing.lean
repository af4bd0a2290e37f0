import RdfExport.Proofs.RowLines

/-!
# RdfExport.Proofs.Spacing

How the lines of a result table end does not show, nor do blank lines between them. A line that ends
in CRLF says what it says with LF; a blank line after the header of two or more variables says
nothing. Only the numbers of the lines after it change, and what is told of an ill-formed octet at
the end of a line.

* `Respaced`: octets with other line ends and more blank lines. `RespacedLines`: the same of lines.
* `readRowLine_before`: a line with another end.
* `EndsAlike`: two ends that differ in the wording of a fault at most.
* `decodeRows_respaced`: the lines after the header.
* `spacing_does_not_show`: bodies cut into chunks.
-/

namespace RdfExport

open Rdf

def LineEnd.before : LineEnd → Bytes
  | .lf => []
  | .crlf => [octet '\r']

def LineEnd.octets (e : LineEnd) : Bytes := e.before ++ [endsLine]

theorem LineEnd.before_not_mem (e : LineEnd) : endsLine ∉ e.before := by
  cases e <;> decide

/-- Octets in which LFs may have become CRLFs and, if `blanks` is allowed, may be followed by blank
lines. -/
inductive Respaced (blanks : Prop) : Bytes → Bytes → Prop where
  | nil : Respaced blanks [] []
  | octet {b : UInt8} (plain : b ≠ endsLine) {body body' : Bytes}
      (rest : Respaced blanks body body') : Respaced blanks (b :: body) (b :: body')
  | lineEnd (ending : LineEnd) (more : List LineEnd) (allowed : more ≠ [] → blanks)
      {body body' : Bytes} (rest : Respaced blanks body body') :
      Respaced blanks (endsLine :: body)
        (ending.octets ++ (more.flatMap LineEnd.octets ++ body'))

/-- Lines of which some have got a CR at their end and, if `blanks` is allowed, blank lines after
them. A line that has got a CR had none. -/
inductive RespacedLines (blanks : Prop) : List Bytes → List Bytes → Prop where
  | nil : RespacedLines blanks [] []
  | line (raw : Bytes) (ending : LineEnd)
      (single : ending = .crlf → raw.getLast? ≠ some (octet '\r'))
      (more : List LineEnd) (allowed : more ≠ [] → blanks) {lines lines' : List Bytes}
      (rest : RespacedLines blanks lines lines') :
      RespacedLines blanks (raw :: lines)
        ((raw ++ ending.before) :: (more.map LineEnd.before ++ lines'))

/-- A table of which the first line names two variables or more. -/
def HasColumns (body : Bytes) : Prop :=
  ∃ header lines text vars, tableLines body = header :: lines ∧ readText 1 header = .ok text ∧
    readHeader text = .ok vars ∧ 2 ≤ vars.length

/-! ## Lines -/

theorem RespacedLines.same (blanks : Prop) (lines : List Bytes) :
    RespacedLines blanks lines lines := by
  induction lines with
  | nil => exact .nil
  | cons raw lines ih =>
    have hline := RespacedLines.line raw .lf (by simp) [] (by simp) ih
    rwa [LineEnd.before, List.append_nil, List.map_nil, List.nil_append] at hline

theorem Respaced.append_left {blanks : Prop} {body body' : Bytes} (h : Respaced blanks body body')
    {plain : Bytes} (hplain : endsLine ∉ plain) :
    Respaced blanks (plain ++ body) (plain ++ body') := by
  induction plain with
  | nil => exact h
  | cons b plain ih =>
    rw [List.mem_cons, not_or] at hplain
    exact .octet (Ne.symm hplain.1) (ih hplain.2)

theorem RespacedLines.append_right {blanks : Prop} {lines lines' : List Bytes}
    (h : RespacedLines blanks lines lines') (rest : List Bytes) :
    RespacedLines blanks (lines ++ rest) (lines' ++ rest) := by
  induction h with
  | nil => exact .same blanks rest
  | line raw ending single more allowed _ ih =>
    rw [List.cons_append, List.cons_append, List.append_assoc]
    exact .line _ ending single more allowed ih

namespace TupleDecoder

theorem splitLines_blanks (more : List LineEnd) (body : Bytes) :
    splitLines (more.flatMap LineEnd.octets ++ body) =
      (more.map LineEnd.before ++ (splitLines body).1, (splitLines body).2) := by
  induction more with
  | nil => rfl
  | cons ending more ih =>
    rw [List.flatMap_cons, LineEnd.octets, List.append_assoc, List.append_assoc,
      List.singleton_append, splitLines_line ending.before_not_mem, ih]
    rfl

/-- The complete lines are respaced, and the incomplete one is as it was. -/
theorem splitLines_respaced {blanks : Prop} {body body' : Bytes} (h : Respaced blanks body body')
    (hbody : ∀ line ∈ (splitLines body).1, line.getLast? ≠ some (octet '\r')) :
    RespacedLines blanks (splitLines body).1 (splitLines body').1 ∧
      (splitLines body').2 = (splitLines body).2 := by
  induction h with
  | nil => exact ⟨.nil, rfl⟩
  | @octet b plain body body' _ ih =>
    rw [splitLines_cons plain] at hbody
    rw [splitLines_cons plain, splitLines_cons plain]
    cases hs : splitLines body with
    | mk lines tail =>
      cases hs' : splitLines body' with
      | mk lines' tail' =>
        simp only [hs, hs'] at hbody ih ⊢
        cases lines with
        | nil =>
          obtain ⟨hlines, rfl⟩ := ih (by simp)
          cases hlines
          exact ⟨.nil, rfl⟩
        | cons line lines =>
          have hfirst : line.getLast? ≠ some (RdfExport.octet '\r') := by
            intro hlast
            refine hbody (b :: line) List.mem_cons_self ?_
            rw [List.getLast?_cons, hlast]
            rfl
          obtain ⟨hlines, rfl⟩ := ih <| List.forall_mem_cons.2
            ⟨hfirst, fun l hl => hbody l (List.mem_cons_of_mem _ hl)⟩
          cases hlines with
          | line _ ending single more allowed hrest =>
            refine ⟨.line (b :: line) ending (fun _ => ?_) more allowed hrest, rfl⟩
            exact hbody (b :: line) List.mem_cons_self
  | @lineEnd ending more allowed body body' _ ih =>
    rw [splitLines_end] at hbody ⊢
    obtain ⟨hlines, htail⟩ := ih fun line hline => hbody line (List.mem_cons_of_mem _ hline)
    rw [LineEnd.octets, List.append_assoc, List.singleton_append,
      splitLines_line ending.before_not_mem, splitLines_blanks]
    exact ⟨.line [] ending (by simp) more allowed hlines, htail⟩

theorem tableLines_respaced {blanks : Prop} {body body' : Bytes} (h : Respaced blanks body body')
    (hbody : ∀ line ∈ (splitLines body).1, line.getLast? ≠ some (octet '\r')) :
    RespacedLines blanks (tableLines body) (tableLines body') := by
  obtain ⟨hlines, htail⟩ := splitLines_respaced h hbody
  rw [tableLines_eq, tableLines_eq, htail]
  exact hlines.append_right _

end TupleDecoder

/-! ## One line -/

theorem readText_before {raw : Bytes} (ending : LineEnd)
    (single : ending = .crlf → raw.getLast? ≠ some (octet '\r')) (n n' : Nat) :
    (readText n (raw ++ ending.before)).toOption = (readText n' raw).toOption := by
  cases ending with
  | lf =>
    rw [LineEnd.before, List.append_nil, readText, readText]
    cases Utf8.decode raw <;> rfl
  | crlf =>
    have hreturn : LineEnd.crlf.before = Utf8.encode ['\r'] := rfl
    cases htext : readText n' raw with
    | ok text =>
      obtain rfl | ⟨rfl, -⟩ := isTextOf_of_readText htext
      · exact absurd ((Utf8.getLast?_encode (by decide)).2 (by simp)) (single rfl)
      · rw [hreturn, ← Utf8.encode_append, IsTextOf.readText (.inl rfl)]
    | error f =>
      obtain ⟨-, -, -, hnone⟩ := readText_error htext
      cases hmore : readText n (raw ++ LineEnd.crlf.before) with
      | error f => rfl
      | ok text =>
        exfalso
        obtain htext | ⟨htext, hlast⟩ := isTextOf_of_readText hmore
        · rw [Utf8.encode_append] at htext
          exact hnone text (List.append_cancel_right htext)
        · refine hlast ((Utf8.getLast?_encode (by decide)).1 ?_)
          rw [← htext]
          simp [LineEnd.before]

theorem toOption_map {ε α β : Type} (f : α → β) (r : Except ε α) :
    (r.map f).toOption = r.toOption.map f := by
  cases r <;> rfl

theorem both_ok_or_both_error {ε α : Type} {r r' : Except ε α} (h : r'.toOption = r.toOption) :
    (∃ a, r = .ok a ∧ r' = .ok a) ∨ ∃ e e', r = .error e ∧ r' = .error e' := by
  cases r with
  | ok a =>
    cases r' with
    | ok a' => exact .inl ⟨a, rfl, congrArg Except.ok (Option.some.inj h)⟩
    | error e' => cases h
  | error e =>
    cases r' with
    | ok a' => cases h
    | error e' => exact .inr ⟨e, e', rfl, rfl⟩

theorem readFields_toOption (n n' : Nat) (pairs : List (Variable × List Char)) :
    (readFields n pairs).toOption = (readFields n' pairs).toOption := by
  induction pairs with
  | nil => rfl
  | cons pair pairs ih =>
    obtain ⟨v, field⟩ := pair
    rw [readFields, readFields]
    by_cases hempty : field.isEmpty = true
    · rw [if_pos hempty, if_pos hempty]
      exact ih
    · rw [if_neg hempty, if_neg hempty]
      cases Term.ofField field with
      | error f => rfl
      | ok t => simp only [toOption_map, ih]

theorem readRow_toOption (vars : List Variable) (n n' : Nat) (text : List Char) :
    (readRow vars n text).toOption = (readRow vars n' text).toOption := by
  by_cases hblank : IsBlankLine vars text
  · rw [readRow_blank hblank, readRow_blank hblank]
  · rw [readRow_full hblank, readRow_full hblank]
    split
    · rfl
    · rw [toOption_map, toOption_map, readFields_toOption n n']

theorem readRowLine_before (vars : List Variable) {raw : Bytes} (ending : LineEnd)
    (single : ending = .crlf → raw.getLast? ≠ some (octet '\r')) (n n' : Nat) :
    (readRowLine vars n' (raw ++ ending.before)).toOption = (readRowLine vars n raw).toOption := by
  unfold readRowLine
  obtain ⟨text, h, h'⟩ | ⟨f, f', h, h'⟩ :=
    both_ok_or_both_error (readText_before ending single n' n)
  · rw [h, h']
    exact readRow_toOption vars n' n text
  · rw [h, h']
    rfl

/-- A blank line says nothing where there is more than one column. -/
theorem readRowLine_blank {vars : List Variable} (hvars : vars.length ≠ 1) (ending : LineEnd)
    (n : Nat) : readRowLine vars n ending.before = .ok none := by
  have htext : IsTextOf ending.before [] := by
    cases ending with
    | lf => exact .inr ⟨rfl, by simp⟩
    | crlf => exact .inl rfl
  simp only [readRowLine, htext.readText, readRow_blank ⟨rfl, hvars⟩]

/-! ## Tables -/

/-- Two ends that are the same, or differ in the wording of a fault of the table. -/
inductive EndsAlike : Except ExportError Unit → Except ExportError Unit → Prop where
  | same (r : Except ExportError Unit) : EndsAlike r r
  | fault (f f' : ProtocolFault) : EndsAlike (.error (.protocol f)) (.error (.protocol f'))

theorem EndsAlike.kind {r r' : Except ExportError Unit} (h : EndsAlike r r') :
    r'.mapError ExportError.kind = r.mapError ExportError.kind := by
  cases h <;> rfl

structure Outcome.Alike {α : Type} (o o' : Outcome α) : Prop where
  ends : EndsAlike o.1 o'.1
  state : o'.2 = o.2

theorem Outcome.Alike.view {α β σ : Type} {o o' : Outcome (α × σ)} (h : Outcome.Alike o o')
    (f : α → β) : Outcome.Alike (o.view f) (o'.view f) := by
  obtain ⟨hends, hstate⟩ := h
  exact ⟨hends, congrArg (fun s => (f s.1, s.2)) hstate⟩

namespace Table

variable {σ : Type} (sink : Sink σ)

theorem decodeRows_cons (vars : List Variable) (n : Nat) (raw : Bytes) (rest : List Bytes)
    (rows : Nat) (w : σ) :
    decodeRows sink vars n (raw :: rest) rows w =
      match readRowLine vars n raw with
      | .error f => (.error (.protocol f), rows, w)
      | .ok none => decodeRows sink vars (n + 1) rest rows w
      | .ok (some row) =>
        match sink.accept (.row row) w with
        | (.ok (), w) => decodeRows sink vars (n + 1) rest (rows + 1) w
        | (.error e, w) => (.error e, rows, w) := by
  rw [decodeRows, readRowLine]
  cases readText n raw with
  | error f => rfl
  | ok text => cases readRow vars n text <;> rfl

theorem decodeRows_blanks {vars : List Variable} {more : List LineEnd}
    (hvars : more ≠ [] → vars.length ≠ 1) (n : Nat) (rest : List Bytes) (rows : Nat) (w : σ) :
    decodeRows sink vars n (more.map LineEnd.before ++ rest) rows w =
      decodeRows sink vars (n + more.length) rest rows w := by
  induction more generalizing n with
  | nil => rfl
  | cons ending more ih =>
    have htwo : vars.length ≠ 1 := hvars (List.cons_ne_nil _ _)
    rw [List.map_cons, List.cons_append, decodeRows_cons, readRowLine_blank htwo]
    simp only [ih fun _ => htwo, List.length_cons]
    congr 1
    omega

/-- Respaced lines after the header say the same, whatever their numbers. -/
theorem decodeRows_respaced {blanks : Prop} {vars : List Variable}
    (hvars : blanks → vars.length ≠ 1) {lines lines' : List Bytes}
    (h : RespacedLines blanks lines lines') (n n' rows : Nat) (w : σ) :
    Outcome.Alike (decodeRows sink vars n lines rows w)
      (decodeRows sink vars n' lines' rows w) := by
  induction h generalizing n n' rows w with
  | nil => exact ⟨.same _, rfl⟩
  | @line raw ending single more allowed lines lines' _ ih =>
    have hrest (m rows : Nat) (w : σ) :
        Outcome.Alike (decodeRows sink vars (n + 1) lines rows w)
          (decodeRows sink vars m (more.map LineEnd.before ++ lines') rows w) := by
      rw [decodeRows_blanks sink fun hmore => hvars (allowed hmore)]
      exact ih _ _ _ _
    rw [decodeRows_cons, decodeRows_cons]
    obtain ⟨said, h, h'⟩ | ⟨f, f', h, h'⟩ :=
      both_ok_or_both_error (readRowLine_before vars ending single n n')
    · rw [h, h']
      cases said with
      | none => exact hrest _ _ _
      | some row =>
        simp only []
        cases sink.accept (.row row) w with
        | mk r w' =>
          cases r with
          | error e => exact ⟨.same _, rfl⟩
          | ok u => exact hrest _ _ _
    · rw [h, h']
      exact ⟨.fault f f', rfl⟩

theorem decode_respaced {body body' : Bytes} (h : Respaced (HasColumns body) body body')
    (hbody : ∀ line ∈ (TupleDecoder.splitLines body).1, line.getLast? ≠ some (octet '\r'))
    (w : σ) : Outcome.Alike (decode sink body w) (decode sink body' w) := by
  have hlines := TupleDecoder.tableLines_respaced h hbody
  unfold decode
  generalize hfirst : tableLines body = lines at hlines ⊢
  generalize tableLines body' = lines' at hlines ⊢
  cases hlines with
  | nil => exact ⟨.same _, rfl⟩
  | line header ending single more allowed hrest =>
    obtain ⟨text, hheader, hheader'⟩ | ⟨f, f', hheader, hheader'⟩ :=
      both_ok_or_both_error (readText_before ending single 1 1)
    · simp only [hheader, hheader']
      cases hvars : readHeader text with
      | error f => exact ⟨.same _, rfl⟩
      | ok vars =>
        have hcolumns : HasColumns body → vars.length ≠ 1 := by
          rintro ⟨header', lines', text', vars', hbody', htext', hvars', htwo⟩
          rw [hfirst] at hbody'
          cases hbody'
          rw [hheader] at htext'
          cases htext'
          rw [hvars] at hvars'
          cases hvars'
          omega
        simp only []
        rw [decodeRows_blanks sink fun hmore => hcolumns (allowed hmore)]
        exact (decodeRows_respaced sink hcolumns hrest _ _ _ _).view _
    · simp only [hheader, hheader']
      exact ⟨.fault f f', rfl⟩

end Table

namespace TupleDecoder

variable {σ : Type}

/-- **Spacing does not show.** Take a table no line of which ends in CR before its LF. However LFs
are made CRLFs, and, if the first line names two variables or more, blank lines are put after LFs,
and however the two tables are cut into chunks: both end well, or with the same refusal of the sink,
or both with a fault of the table; the sink is left in the same state, the variables are the same,
and as many rows are counted. -/
theorem spacing_does_not_show (sink : Sink σ) (w : σ) {chunks chunks' : List Bytes}
    (hlines : ∀ line ∈ (splitLines chunks.flatten).1, line.getLast? ≠ some (octet '\r'))
    (h : Respaced (HasColumns chunks.flatten) chunks.flatten chunks'.flatten) :
    ∃ o o', readOn? sink chunks (initial, w) = some o ∧
      readOn? sink chunks' (initial, w) = some o' ∧ EndsAlike o.1 o'.1 ∧
      o'.1.mapError ExportError.kind = o.1.mapError ExportError.kind ∧ o'.2.2 = o.2.2 ∧
      o'.2.1.header = o.2.1.header ∧ Decoder.records o'.2.1 = Decoder.records o.2.1 := by
  obtain ⟨o, ho, hview⟩ := readOn?_view sink chunks w
  obtain ⟨o', ho', hview'⟩ := readOn?_view sink chunks' w
  obtain ⟨hends, hstate⟩ := Table.decode_respaced sink h hlines w
  rw [← hview, ← hview'] at hends hstate
  have htable : table o'.2.1 = table o.2.1 := congrArg (fun s : Table × σ => s.1) hstate
  have hsink : o'.2.2 = o.2.2 := congrArg (fun s : Table × σ => s.2) hstate
  refine ⟨o, o', ho, ho', hends, hends.kind, hsink, ?_, ?_⟩
  · exact congrArg Table.header htable
  · exact congrArg Table.rows htable

/-- A table with CRLFs, one of them cut, and two blank lines after its header. -/
theorem spacing_does_not_show_across_cut :
    let chunks := [Utf8.ofString "?s\t?o\n<urn:a>\t", Utf8.ofString "<urn:b>\n"]
    let chunks' := [Utf8.ofString "?s\t?o\r", Utf8.ofString "\n\r\n\n<urn:a>\t<urn:b>\r\n"]
    (∀ line ∈ (splitLines chunks.flatten).1, line.getLast? ≠ some (octet '\r')) ∧
      Respaced (HasColumns chunks.flatten) chunks.flatten chunks'.flatten ∧
      ∃ o o', readOn? Sink.collect chunks (initial, []) = some o ∧
        readOn? Sink.collect chunks' (initial, []) = some o' ∧ EndsAlike o.1 o'.1 ∧
        o'.1.mapError ExportError.kind = o.1.mapError ExportError.kind ∧ o'.2.2 = o.2.2 ∧
        o'.2.1.header = o.2.1.header ∧ Decoder.records o'.2.1 = Decoder.records o.2.1 := by
  intro chunks chunks'
  have hlines : ∀ line ∈ (splitLines chunks.flatten).1, line.getLast? ≠ some (octet '\r') := by
    decide
  have hcolumns : HasColumns chunks.flatten :=
    ⟨Utf8.ofString "?s\t?o", [Utf8.ofString "<urn:a>\t<urn:b>"], "?s\t?o".toList, [⟨"s"⟩, ⟨"o"⟩],
      by decide, by decide +kernel, by decide +kernel, by decide⟩
  have hspaced : Respaced (HasColumns chunks.flatten) chunks.flatten chunks'.flatten := by
    have hsecond : Respaced (HasColumns chunks.flatten) [endsLine] LineEnd.crlf.octets :=
      .lineEnd .crlf [] (by simp) .nil
    have hrow : endsLine ∉ Utf8.ofString "<urn:a>\t<urn:b>" := by decide
    have hheader : endsLine ∉ Utf8.ofString "?s\t?o" := by decide
    have hfirst := Respaced.lineEnd .crlf [.crlf, .lf] (fun _ => hcolumns)
      (hsecond.append_left hrow)
    exact hfirst.append_left hheader
  exact ⟨hlines, hspaced, spacing_does_not_show Sink.collect [] hlines hspaced⟩

end TupleDecoder
end RdfExport
