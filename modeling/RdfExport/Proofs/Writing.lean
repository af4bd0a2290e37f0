import RdfExport.Output
import RdfExport.Proofs.Emission
import RdfExport.Proofs.Lines
import RdfExport.Proofs.Text.Utf8

/-!
# RdfExport.Proofs.Writing

What is written of records where the output takes all that it is offered: their lines, one after
the other.

* `Record.line?`: the line of a record, if it has one.
* `splitLines_written`: written lines are found again.
* `Output.memory`: the output that keeps all octets.
* `offer_memory`: what is written of records that have lines, and `offer_statements`: of statements.
-/

namespace RdfExport

/-- The line that is written of a record. A row that describes no statement has none. -/
def Record.line? : Record → Option (List Char)
  | .statement t => some t.line
  | .row b => b.toQuad?.map (·.line)

/-! ## Lines -/

def closingDot : Bytes := Utf8.ofString " ."

/-- A statement up to where its graph is written. -/
def statementOctets (t : Rdf.Triple) : Bytes :=
  Utf8.encode (t.subject.chars ++ ' ' :: t.predicate.chars ++ ' ' :: t.object.chars)

theorem encode_dot (before : Bytes) :
    before ++ Utf8.encode [' ', '.', '\n'] = before ++ closingDot ++ [endsLine] := by
  rw [List.append_assoc]
  rfl

theorem encode_tripleLine (t : Rdf.Triple) :
    Utf8.encode t.line = statementOctets t ++ closingDot ++ [endsLine] := by
  rw [Rdf.Triple.line, Utf8.encode_append, encode_dot]
  rfl

theorem splitLines_ended {lines : List Bytes} (h : ∀ line ∈ lines, endsLine ∉ line) :
    TupleDecoder.splitLines (lines.flatMap (· ++ [endsLine])) = (lines, []) := by
  induction lines with
  | nil => rfl
  | cons line lines ih =>
    rw [List.flatMap_cons, List.append_assoc, List.singleton_append,
      TupleDecoder.splitLines_line (h line (by simp)), ih fun l hl => h l (by simp [hl])]

theorem splitLines_written {α : Type} {xs : List α} {line : α → List Char} {octets : α → Bytes}
    (henc : ∀ x, Utf8.encode (line x) = octets x ++ [endsLine])
    (hlines : ∀ x ∈ xs, endsLine ∉ octets x) :
    TupleDecoder.splitLines (Utf8.encode (xs.map line).flatten) = (xs.map octets, []) := by
  have hbytes : Utf8.encode (xs.map line).flatten = (xs.map octets).flatMap (· ++ [endsLine]) := by
    clear hlines
    induction xs with
    | nil => rfl
    | cons x xs ih =>
      rw [List.map_cons, List.flatten_cons, Utf8.encode_append, henc, ih, List.map_cons,
        List.flatMap_cons]
  rw [hbytes, splitLines_ended]
  intro l hl
  obtain ⟨x, hx, rfl⟩ := List.mem_map.1 hl
  exact hlines x hx

theorem lineEnd_not_mem_of_printable {cs : List Char} (h : ∀ c ∈ cs, 0x20 ≤ c.toNat) :
    '\n' ∉ cs := by
  intro hmem
  have hle := h _ hmem
  revert hle
  decide

theorem endsLine_not_mem_of_printable {cs : List Char} (h : ∀ c ∈ cs, 0x20 ≤ c.toNat) :
    endsLine ∉ Utf8.encode cs :=
  endsLine_not_mem_encode (lineEnd_not_mem_of_printable h)

theorem endsLine_not_mem_closingDot : endsLine ∉ closingDot := by decide

/-! ## The sink that writes -/

namespace Output

def memory : Output Bytes where
  put bytes kept := (.ok bytes.length, kept ++ bytes)
  flush kept := (.ok (), kept)

theorem writeAll_memory (bytes kept : Bytes) :
    memory.writeAll bytes kept = (.ok (), kept ++ bytes) := by
  cases bytes with
  | nil => rw [writeAll, List.append_nil]
  | cons b rest =>
    have hput : memory.put (b :: rest) kept = (.ok (rest.length + 1), kept ++ b :: rest) := rfl
    rw [writeAll, hput]
    simp only [List.drop_length, writeAll]

theorem writeLine_memory (line : List Char) (kept : Bytes) :
    memory.writeLine line kept = (.ok (), kept ++ Utf8.encode line) := by
  rw [writeLine, writeAll_memory]
  rfl

theorem accept_memory {record : Record} {line : List Char} (h : record.line? = some line)
    (kept : Bytes) :
    (nquads memory).accept record kept = (.ok (), kept ++ Utf8.encode line) := by
  rw [← writeLine_memory]
  cases record with
  | statement t =>
    cases h
    rfl
  | row b =>
    cases hquad : b.toQuad? with
    | none => simp [Record.line?, hquad] at h
    | some q =>
      simp only [Record.line?, hquad, Option.map_some, Option.some.injEq] at h
      subst h
      simp only [nquads, writeRecord, hquad]

/-- **All lines are written in order.** -/
theorem offer_memory {records : List Record} {lines : List (List Char)}
    (h : records.map Record.line? = lines.map some) (kept : Bytes) :
    (nquads memory).offer records kept = (.ok (), kept ++ Utf8.encode lines.flatten) := by
  induction records generalizing lines kept with
  | nil =>
    obtain rfl : lines = [] := by simpa using h.symm
    simp [Sink.offer]
  | cons record rest ih =>
    cases lines with
    | nil => cases h
    | cons line lines =>
      simp only [List.map_cons, List.cons.injEq] at h
      simp only [Sink.offer, accept_memory h.1]
      rw [ih h.2, List.flatten_cons, Utf8.encode_append, List.append_assoc]

theorem offer_statements (ts : List Rdf.Triple) (kept : Bytes) :
    (nquads memory).offer (ts.map .statement) kept =
      (.ok (), kept ++ Utf8.encode (ts.flatMap Rdf.Triple.line)) := by
  have hlines : (ts.map Record.statement).map Record.line? =
      (ts.map Rdf.Triple.line).map some := by
    simp only [List.map_map]
    rfl
  rw [offer_memory hlines, List.flatMap_def]

end Output
end RdfExport
