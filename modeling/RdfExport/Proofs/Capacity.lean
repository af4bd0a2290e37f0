import RdfExport.Proofs.Accepted
import RdfExport.Proofs.Counting
import RdfExport.Proofs.RowTerms
import RdfExport.Rehearsal.Target

/-!
# RdfExport.Proofs.Capacity

What a transfer leaves in an output that fills up. The output has room for some octets, and takes
no more; it may take what fits in any pieces, and refuse the rest in any way. It is left with the
first octets of what had to be written.

* `Output.HasRoom`: an output that fills up.
* `Output.nquadsIn`: the sink that writes each line in pieces; `nquadsIn_whole`: in one.
* `Rehearsal.Plan.hasRoom`: a rehearsed output that fills up.
* `Fills`: what writing leaves in such an output, piece by piece, line by line and as a whole.
* `linesWithin`: how many lines end within the room.
* `full_output_holds_first_octets`: transfers; `full_output_counts_no_raw_line_end`: a line end that
  ends no record.
-/

namespace RdfExport

variable {ω δ : Type}

namespace Output

/-- An output with room for `size` octets. So long as there is room it takes some of what it is
offered, as much as it likes of what fits; then it fails with `e`, or takes nothing, which is a
failure of its own. It never fails to pass on what it has taken, and counts how often it did. -/
structure HasRoom (out : Output ω) (held : ω → Bytes) (flushes : ω → Nat) (size : Nat)
    (e : IoError) : Prop where
  room : ∀ bytes w, bytes ≠ [] → (held w).length < size → ∃ n w',
    out.put bytes w = (.ok (n + 1), w') ∧ n < bytes.length ∧ (held w).length + n < size ∧
      held w' = held w ++ bytes.take (n + 1) ∧ flushes w' = flushes w
  full : ∀ bytes w, bytes ≠ [] → size ≤ (held w).length → ∃ r w',
    out.put bytes w = (r, w') ∧ (r = .error e ∨ r = .ok 0 ∧ e = .notWritten) ∧
      held w' = held w ∧ flushes w' = flushes w
  flush : ∀ w, ∃ w', out.flush w = (.ok (), w') ∧ held w' = held w ∧ flushes w' = flushes w + 1

def writePieces (out : Output ω) : List Bytes → ω → IoOutcome ω
  | [], w => (.ok (), w)
  | piece :: rest, w =>
    match out.writeAll piece w with
    | (.ok (), w) => out.writePieces rest w
    | failed => failed

/-- The sink that writes N-Quads, each line in the pieces that `cut` makes of it. -/
def nquadsIn (out : Output ω) (cut : List Char → List Bytes) : Sink ω where
  accept record w :=
    match record with
    | .statement t => IoOutcome.reported (out.writePieces (cut t.line) w)
    | .row b =>
      match b.toQuad? with
      | some q => IoOutcome.reported (out.writePieces (cut q.line) w)
      | none => (.error (.protocol (.notAStatement b)), w)
  finish w := IoOutcome.reported (out.flush w)

theorem writePieces_one (out : Output ω) (piece : Bytes) (w : ω) :
    out.writePieces [piece] w = out.writeAll piece w := by
  rw [writePieces]
  cases out.writeAll piece w with
  | mk r w' => cases r <;> rfl

theorem nquadsIn_whole (out : Output ω) :
    out.nquadsIn (fun line => [Utf8.encode line]) = nquads out := by
  have haccept : (out.nquadsIn fun line => [Utf8.encode line]).accept = (nquads out).accept := by
    funext record w
    cases record with
    | statement t => simp only [nquadsIn, nquads, writeRecord, writeLine, writePieces_one]
    | row b =>
      cases h : b.toQuad? <;>
        simp only [nquadsIn, nquads, writeRecord, writeLine, writePieces_one, h]
  exact congrArg (Sink.mk · (nquads out).finish) haccept

theorem accept_nquadsIn (out : Output ω) (cut : List Char → List Bytes) {record : Record}
    {line : List Char} (h : record.line? = some line) (w : ω) :
    (out.nquadsIn cut).accept record w = IoOutcome.reported (out.writePieces (cut line) w) := by
  cases record with
  | statement t =>
    cases h
    rfl
  | row b =>
    cases hquad : b.toQuad? with
    | none => simp [Record.line?, hquad] at h
    | some q =>
      simp only [Record.line?, hquad, Option.map_some, Option.some.injEq] at h
      subst h
      simp only [nquadsIn, hquad]

/-- What the output that keeps all octets takes whole are records with lines. -/
theorem lines_of_offer_memory {records : List Record} {kept kept' : Bytes}
    (h : (nquads memory).offer records kept = (.ok (), kept')) :
    ∃ lines : List (List Char), records.map Record.line? = lines.map some ∧
      kept' = kept ++ Utf8.encode lines.flatten := by
  induction records generalizing kept with
  | nil =>
    cases h
    exact ⟨[], rfl, by simp⟩
  | cons record rest ih =>
    cases hline : record.line? with
    | none =>
      cases record with
      | statement t => cases hline
      | row b =>
        simp only [Record.line?, Option.map_eq_none_iff] at hline
        simp [Sink.offer, accept_notAStatement hline] at h
    | some line =>
      simp only [Sink.offer, accept_memory hline] at h
      obtain ⟨lines, hlines, rfl⟩ := ih h
      exact ⟨line :: lines, by simp [hline, hlines], by simp⟩

end Output

/-! ## A rehearsed output -/

/-- What a rehearsed output holds. -/
def Rehearsal.World.held (w : Rehearsal.World) : Bytes := w.written.toList

def Rehearsal.World.flushes (w : Rehearsal.World) : Nat := w.log.toList.count .flushed

theorem Rehearsal.Plan.hasRoom {p : Plan} {size : Nat} {e : Option IoError}
    (h : p.failure = some (.room size e)) :
    p.output.HasRoom World.held World.flushes size (e.getD .notWritten) where
  room bytes w hbytes hlt := by
    have hpos := List.length_pos_iff.2 hbytes
    have hlt : w.written.size < size := by simpa [World.held] using hlt
    obtain ⟨n, hn⟩ : ∃ n, (bytes.take (size - w.written.size)).length = n + 1 := by
      refine ⟨(bytes.take (size - w.written.size)).length - 1, ?_⟩
      rw [List.length_take]
      omega
    refine ⟨n, append (bytes.take (size - w.written.size)) w, ?_, ?_, ?_, ?_, rfl⟩
    · simp only [output, put, h]
      cases htaken : bytes.take (size - w.written.size) with
      | nil => simp [htaken] at hn
      | cons b rest =>
        rw [htaken] at hn
        cases e <;> exact congrArg (fun k => (Except.ok k, append (b :: rest) w)) hn
    · rw [List.length_take] at hn
      omega
    · rw [List.length_take] at hn
      simp only [World.held, Array.length_toList]
      omega
    · have htake : bytes.take (n + 1) = bytes.take (size - w.written.size) := by
        rw [List.length_take] at hn
        rw [List.take_eq_take_iff]
        omega
      simp [World.held, append, htake]
  full bytes w hbytes hle := by
    have hle : size ≤ w.written.size := by simpa [World.held] using hle
    have htaken : bytes.take (size - w.written.size) = [] := by
      rw [Nat.sub_eq_zero_of_le hle, List.take_zero]
    cases e with
    | none =>
      refine ⟨.ok 0, append [] w, ?_, .inr ⟨rfl, rfl⟩, ?_, rfl⟩
      · simp only [output, put, h, htaken]
        rfl
      · simp [World.held, append]
    | some e =>
      refine ⟨.error e, w, ?_, .inl rfl, rfl, rfl⟩
      simp only [output, put, h, htaken]
  flush w := by
    refine ⟨w.note .flushed, ?_, rfl, ?_⟩
    · simp only [output, flush, h]
    · simp [World.flushes, World.note]

/-! ## Filling up -/

/-- What writing leaves of an output with room for `size` octets, if `total` is what it held and was
to hold, and it had been flushed `k` times: the first octets of it, and the failure `x` unless all
of it fits. -/
structure Fills (held : ω → Bytes) (flushes : ω → Nat) (size : Nat) {ε : Type} (x : ε)
    (total : Bytes) (k : Nat) (o : Except ε Unit × ω) : Prop where
  holds : held o.2 = total.take size
  flushed : flushes o.2 = k
  fits : total.length ≤ size → o.1 = .ok ()
  full : size < total.length → o.1 = .error x

section

variable {held : ω → Bytes} {flushes : ω → Nat} {size : Nat} {e : IoError}

namespace Fills

variable {ε : Type} {x y : ε} {total : Bytes} {k : Nat} {w : ω}

theorem of_ok (h : Fills held flushes size x total k (.ok (), w)) :
    total.length ≤ size ∧ held w = total := by
  have hle : total.length ≤ size := by
    refine Nat.not_lt.1 fun hlt => ?_
    have := h.full hlt
    cases this
  exact ⟨hle, by rw [h.holds, List.take_of_length_le hle]⟩

theorem of_error (h : Fills held flushes size x total k (.error y, w)) :
    size < total.length ∧ y = x := by
  have hlt : size < total.length := by
    refine Nat.not_le.1 fun hle => ?_
    have := h.fits hle
    cases this
  have herror := h.full hlt
  cases herror
  exact ⟨hlt, rfl⟩

theorem append (h : Fills held flushes size x total k (.error y, w)) (more : Bytes) :
    Fills held flushes size x (total ++ more) k (.error y, w) := by
  obtain ⟨hlt, rfl⟩ := h.of_error
  refine ⟨?_, h.flushed, fun hle => ?_, fun _ => rfl⟩
  · rw [h.holds, List.take_append_of_le_length (Nat.le_of_lt hlt)]
  · rw [List.length_append] at hle
    omega

theorem reported {e : IoError} {o : IoOutcome ω} (h : Fills held flushes size e total k o) :
    Fills held flushes size (.output e) total k o.reported := by
  obtain ⟨r, w'⟩ := o
  cases r with
  | ok u => exact ⟨h.holds, h.flushed, fun _ => rfl, fun hlt => by cases h.full hlt⟩
  | error f =>
    obtain ⟨hlt, rfl⟩ := h.of_error
    exact ⟨h.holds, h.flushed, fun hle => absurd hle (Nat.not_le.2 hlt), fun _ => rfl⟩

/-- An output without room is left as it is. -/
theorem of_full {bytes : Bytes} {w' : ω} (hw : (held w).length = size) (hbytes : bytes ≠ [])
    (hheld : held w' = held w) (hflushes : flushes w' = flushes w) :
    Fills held flushes size x (held w ++ bytes) (flushes w) (.error x, w') := by
  have hpos := List.length_pos_iff.2 hbytes
  refine ⟨?_, hflushes, fun hle => ?_, fun _ => rfl⟩
  · rw [hheld, ← hw, List.take_left]
  · rw [List.length_append] at hle
    omega

end Fills

variable {out : Output ω} (hroom : out.HasRoom held flushes size e)

include hroom

namespace Output

theorem writeAll_fills (bytes : Bytes) (w : ω) (hw : (held w).length ≤ size) :
    Fills held flushes size e (held w ++ bytes) (flushes w) (out.writeAll bytes w) := by
  -- how much is taken at once is up to the output, so the induction is on how much is left
  induction hn : bytes.length using Nat.strongRecOn generalizing bytes w with
  | _ n ih =>
    cases bytes with
    | nil =>
      rw [writeAll, List.append_nil]
      exact ⟨(List.take_of_length_le hw).symm, rfl, fun _ => rfl, fun hlt => by omega⟩
    | cons b rest =>
      by_cases hlt : (held w).length < size
      · obtain ⟨m, w', hput, hm, hfits, hheld, hflushes⟩ :=
          hroom.room (b :: rest) w (by simp) hlt
        rw [List.length_cons] at hm hn
        have htaken : (held w').length ≤ size := by
          rw [hheld, List.length_append, List.length_take]
          omega
        have hrest : held w' ++ rest.drop m = held w ++ b :: rest := by
          rw [hheld, List.take_succ_cons, List.append_assoc, List.cons_append,
            List.take_append_drop]
        have hfills := ih (rest.drop m).length (by rw [List.length_drop]; omega) (rest.drop m) w'
          htaken rfl
        rw [hrest, hflushes] at hfills
        rw [writeAll, hput]
        exact hfills
      · obtain ⟨r, w', hput, hr, hheld, hflushes⟩ :=
          hroom.full (b :: rest) w (by simp) (Nat.le_of_not_lt hlt)
        have hfull : Fills held flushes size e (held w ++ b :: rest) (flushes w) (.error e, w') :=
          .of_full (by omega) (by simp) hheld hflushes
        rw [writeAll, hput]
        obtain rfl | ⟨rfl, rfl⟩ := hr <;> exact hfull

/-- Where pieces are cut does not matter. -/
theorem writePieces_fills (pieces : List Bytes) (w : ω) (hw : (held w).length ≤ size) :
    Fills held flushes size e (held w ++ pieces.flatten) (flushes w)
      (out.writePieces pieces w) := by
  induction pieces generalizing w with
  | nil =>
    rw [writePieces, List.flatten_nil, List.append_nil]
    exact ⟨(List.take_of_length_le hw).symm, rfl, fun _ => rfl, fun hlt => by omega⟩
  | cons piece rest ih =>
    have hfirst := writeAll_fills hroom piece w hw
    rw [writePieces, List.flatten_cons, ← List.append_assoc]
    cases hwrite : out.writeAll piece w with
    | mk r w' =>
      rw [hwrite] at hfirst
      cases r with
      | error f => exact hfirst.append rest.flatten
      | ok u =>
        obtain ⟨hle, hheld⟩ := hfirst.of_ok
        have hflushes : flushes w' = flushes w := hfirst.flushed
        have hrest := ih w' (by rw [hheld]; exact hle)
        rwa [hheld, hflushes] at hrest

end Output

/-! ## Lines -/

omit hroom

/-- How many of some lines, one after the other, end within `room` octets. -/
def linesWithin : Nat → List Bytes → Nat
  | _, [] => 0
  | room, line :: rest =>
    if line.length ≤ room then linesWithin (room - line.length) rest + 1 else 0

/-- Lines that end in the only line end that they hold end with the line ends. -/
theorem count_endsLine_take {lines : List Bytes}
    (h : ∀ line ∈ lines, ∃ body, line = body ++ [endsLine] ∧ endsLine ∉ body) (room : Nat) :
    (lines.flatten.take room).count endsLine = linesWithin room lines := by
  induction lines generalizing room with
  | nil => simp [linesWithin]
  | cons line rest ih =>
    obtain ⟨hline, hrest⟩ := List.forall_mem_cons.1 h
    obtain ⟨body, rfl, hbody⟩ := hline
    rw [List.flatten_cons, linesWithin]
    by_cases hfits : (body ++ [endsLine]).length ≤ room
    · rw [if_pos hfits, List.take_append, List.take_of_length_le hfits, List.count_append,
        ih hrest, List.count_append, List.count_eq_zero_of_not_mem hbody, List.count_singleton_self,
        Nat.zero_add, Nat.add_comm]
    · -- a line that does not fit has its line end beyond the room
      have hshort : room ≤ body.length := by
        rw [List.length_append, List.length_singleton] at hfits
        omega
      rw [if_neg hfits, List.append_assoc, List.take_append_of_le_length hshort]
      exact List.count_eq_zero_of_not_mem fun hmem => hbody (List.mem_of_mem_take hmem)

include hroom

variable {cut : List Char → List Bytes} (hcut : ∀ line, (cut line).flatten = Utf8.encode line)

include hcut

/-- Records that have lines leave the first octets of their lines, and the sink accepts those whose
lines end within the room. -/
theorem offer_fills {records : List Record} {lines : List (List Char)}
    (h : records.map Record.line? = lines.map some) (w : ω) (hw : (held w).length ≤ size) :
    Fills held flushes size (.output e) (held w ++ Utf8.encode lines.flatten) (flushes w)
        ((out.nquadsIn cut).offer records w) ∧
      ((out.nquadsIn cut).accepted records w).length =
        linesWithin (size - (held w).length) (lines.map Utf8.encode) := by
  induction records generalizing lines w with
  | nil =>
    obtain rfl : lines = [] := by simpa using h.symm
    rw [List.flatten_nil, Utf8.encode_nil, List.append_nil]
    exact ⟨⟨(List.take_of_length_le hw).symm, rfl, fun _ => rfl, fun hlt => by omega⟩, rfl⟩
  | cons record rest ih =>
    cases lines with
    | nil => cases h
    | cons line lines =>
      simp only [List.map_cons, List.cons.injEq] at h
      have hfirst := (Output.writePieces_fills hroom (cut line) w hw).reported
      rw [hcut, ← Output.accept_nquadsIn out cut h.1] at hfirst
      rw [List.flatten_cons, Utf8.encode_append, ← List.append_assoc, List.map_cons, linesWithin]
      cases haccept : (out.nquadsIn cut).accept record w with
      | mk r w' =>
        rw [haccept] at hfirst
        simp only [Sink.offer, haccept]
        cases r with
        | error f =>
          obtain ⟨hlt, -⟩ := hfirst.of_error
          rw [List.length_append] at hlt
          rw [Sink.accepted_error haccept, if_neg (by omega)]
          exact ⟨hfirst.append _, rfl⟩
        | ok u =>
          obtain ⟨hle, hheld⟩ := hfirst.of_ok
          have hflushes : flushes w' = flushes w := hfirst.flushed
          obtain ⟨hfills, hcount⟩ := ih h.2 w' (by rw [hheld]; exact hle)
          rw [hheld, hflushes] at hfills
          rw [hheld, List.length_append] at hcount
          rw [List.length_append] at hle
          rw [Sink.accepted_ok haccept, List.length_cons, hcount, if_pos (by omega), Nat.sub_sub]
          exact ⟨hfills, rfl⟩

/-! ## Transfers -/

omit hroom hcut

section

variable [Decoder δ] {sink : Sink ω} (recover : Bool) {endpoint : String}
  {frames : List Http.Frame} {d d' : δ} {w w' : ω}

theorem run_of_ok
    (h : let t := Transfer.stream sink ⟨endpoint, frames, none, false⟩ (d, w)
      Outcome.settled (t.1, t.2.2) = (.ok d', w')) :
    let t := Transfer.run recover sink (Http.Body.ofFrames endpoint frames) (d, w)
    t.result = .ok () ∧ t.sink = w' := by
  simp only [Transfer.run, Http.Body.ofFrames]
  cases hstream : Transfer.stream sink ⟨endpoint, frames, none, false⟩ (d, w) with
  | mk r t =>
    simp only [hstream] at h
    cases r with
    | error f => cases h
    | ok u =>
      cases h
      exact ⟨rfl, rfl⟩

/-- A failure of the output is not explained, whatever the trailers say. -/
theorem run_of_output_error {e : IoError}
    (h : let t := Transfer.stream sink ⟨endpoint, frames, none, false⟩ (d, w)
      Outcome.settled (t.1, t.2.2) = (.error (.output e), w')) :
    let t := Transfer.run recover sink (Http.Body.ofFrames endpoint frames) (d, w)
    t.result = .error (.output e) ∧ t.sink = w' := by
  simp only [Transfer.run, Http.Body.ofFrames]
  cases hstream : Transfer.stream sink ⟨endpoint, frames, none, false⟩ (d, w) with
  | mk r t =>
    obtain ⟨b, d₁, w₁⟩ := t
    simp only [hstream] at h
    cases r with
    | ok u => cases h
    | error f =>
      cases h
      have hquiet : Transfer.explain recover (.output e) b = ([], .output e, b) :=
        Transfer.explain_quiet (.inr rfl) b
      simp only [hquiet, and_self]

end

/-- What a transfer leaves in an output with room for `size` octets that had been flushed `k`
times, if `document` had to be written: all of it, and then the output is flushed, if it fits; else
the first octets, and the failure of the output as it is. Counted are the lines that end within the
room. -/
structure LeavesPrefix [Decoder δ] (held : ω → Bytes) (flushes : ω → Nat) (size : Nat)
    (e : IoError) (document : Bytes) (lines : List Bytes) (k : Nat) (t : Transfer δ ω) : Prop where
  holds : held t.sink = document.take size
  complete : document.length ≤ size → t.result = .ok () ∧ flushes t.sink = k + 1
  refused : size < document.length → t.result = .error (.output e) ∧ flushes t.sink = k
  counted : Decoder.records t.decoder = linesWithin size lines

include hroom hcut

theorem run_leavesPrefix [Decoder δ] [LawfulDecoder δ] [BlindDecoder δ] [CountingDecoder δ]
    (recover : Bool) (endpoint : String) {frames : List Http.Frame}
    (hwhole : Http.break? frames = none) {d d' : δ} (hready : LawfulDecoder.Ready d)
    (hzero : Decoder.records d = 0) {records : List Record}
    (hdecoding : Decoder.decoding (frames.flatMap Http.Frame.octets) d = ⟨records, .ok d'⟩)
    {lines : List (List Char)} (hlines : records.map Record.line? = lines.map some) {w : ω}
    (hempty : held w = []) :
    LeavesPrefix held flushes size e (Utf8.encode lines.flatten) (lines.map Utf8.encode)
      (flushes w)
      (Transfer.run recover (out.nquadsIn cut) (Http.Body.ofFrames endpoint frames) (d, w)) := by
  have hreading := Transfer.reading_eq_decoding hwhole endpoint d
  rw [hdecoding] at hreading
  obtain ⟨hfills, haccepted⟩ := offer_fills hroom hcut hlines w (by simp [hempty])
  have hrecords := Transfer.run_records (out.nquadsIn cut) recover endpoint frames hready w
  rw [hreading, hzero, Nat.zero_add, haccepted, hempty, List.length_nil, Nat.sub_zero] at hrecords
  have hsettled := Transfer.stream_settled endpoint (out.nquadsIn cut) frames none hready w
  simp only [hreading, Emission.into] at hsettled
  rw [hempty, List.nil_append] at hfills
  cases hoffer : (out.nquadsIn cut).offer records w with
  | mk r w₁ =>
    simp only [hoffer] at hfills hsettled
    cases r with
    | ok u =>
      obtain ⟨hle, hheld⟩ := hfills.of_ok
      obtain ⟨w₂, hflush, hkept, hflushed⟩ := hroom.flush w₁
      have hfinish : (out.nquadsIn cut).finish w₁ = (.ok (), w₂) := by
        simp only [Output.nquadsIn, hflush]
        rfl
      simp only [Decoded.andThen, Transfer.finishSink, hfinish] at hsettled
      obtain ⟨hresult, hsink⟩ := run_of_ok recover hsettled
      have hflushes : flushes w₁ = flushes w := hfills.flushed
      refine ⟨?_, fun _ => ⟨hresult, ?_⟩, fun hlt => absurd hlt (Nat.not_lt.2 hle), hrecords⟩
      · rw [hsink, hkept, hheld, List.take_of_length_le hle]
      · rw [hsink, hflushed, hflushes]
    | error f =>
      obtain ⟨hlt, rfl⟩ := hfills.of_error
      obtain ⟨hresult, hsink⟩ := run_of_output_error recover hsettled
      refine ⟨?_, fun hle => absurd hle (Nat.not_le.2 hlt), fun _ => ⟨hresult, ?_⟩, hrecords⟩
      · rw [hsink]
        exact hfills.holds
      · rw [hsink]
        exact hfills.flushed

end

/-! ## One line for each record -/

/-- That a record, if it is written at all, is written as a text with one line end, its last. -/
def Record.IsOneLine (record : Record) : Prop :=
  ∀ line, record.line? = some line →
    ∃ body, Utf8.encode line = body ++ [endsLine] ∧ endsLine ∉ body

theorem TupleDecoder.IsRow.isOneLine {record : Record} (h : TupleDecoder.IsRow record) :
    record.IsOneLine := by
  obtain ⟨b, rfl, hb⟩ := h
  intro line hline
  obtain ⟨q, hq, rfl⟩ := Option.map_eq_some_iff.1 hline
  exact ⟨quadOctets q, encode_quadLine q,
    endsLine_not_mem_quadOctets (Rdf.Bindings.isWellFormed_toQuad? hb hq)⟩

theorem Rdf.Triple.Fits.isOneLine {mode : NTriples.Mode} {t : Rdf.Triple}
    (h : t.Fits mode fun i => '\n' ∉ i.text.toList) : (Record.statement t).IsOneLine := by
  intro line hline
  cases hline
  refine ⟨statementOctets t ++ closingDot, encode_tripleLine t, ?_⟩
  rw [List.mem_append, not_or]
  exact ⟨h.endsLine_not_mem, endsLine_not_mem_closingDot⟩

/-- Of records with one line each, the lines that end within the room are the line ends there. -/
theorem linesWithin_eq_count {records : List Record} {lines : List (List Char)}
    (hlines : records.map Record.line? = lines.map some) (h : ∀ r ∈ records, r.IsOneLine)
    (room : Nat) :
    linesWithin room (lines.map Utf8.encode) =
      ((Utf8.encode lines.flatten).take room).count endsLine := by
  have hone : ∀ line ∈ lines.map Utf8.encode, ∃ body, line = body ++ [endsLine] ∧
      endsLine ∉ body := by
    intro line hline
    obtain ⟨text, htext, rfl⟩ := List.mem_map.1 hline
    have hmem : some text ∈ records.map Record.line? := by
      rw [hlines]
      exact List.mem_map_of_mem htext
    obtain ⟨r, hr, hr'⟩ := List.mem_map.1 hmem
    exact h r hr text hr'
  rw [Utf8.encode_flatten, count_endsLine_take hone]

theorem decoding_of_collected [Decoder δ] [LawfulDecoder δ] {bytes : Bytes} {d d' : δ}
    (hd : LawfulDecoder.Ready d) {records : List Record}
    (h : Decoder.readOn Sink.collect [bytes] (d, []) = (.ok (), d', records)) :
    Decoder.decoding bytes d = ⟨records, .ok d'⟩ := by
  have hsettled := Decoder.readOn_settled Sink.collect [bytes] hd []
  rw [h, Emission.into_collect, List.nil_append, List.flatten_singleton] at hsettled
  obtain ⟨hending, hrecords⟩ := Prod.mk.inj hsettled
  rw [hrecords, hending]

/-- **An output that fills up holds the beginning of what had to be written.** Take a body that
decodes completely, as a table or as a graph, into records that can all be written, and `document`
as what is written of them where there is room for everything. However the body is cut into frames,
with any trailers, and however lines are cut into pieces, an output with room for `size` octets is
left with the first `size` octets of `document`. If that is all, the transfer goes well and ends
with a flush; else the output is not flushed, and its failure is told as it is. Counted are the
records whose lines end within the room. They are as many as the line ends in the output for every
table and every strictly read graph, and for a leniently read graph unless an IRI holds an LF. -/
theorem full_output_holds_first_octets {out : Output ω} {held : ω → Bytes} {flushes : ω → Nat}
    {size : Nat} {e : IoError} (hroom : out.HasRoom held flushes size e)
    {cut : List Char → List Bytes} (hcut : ∀ line, (cut line).flatten = Utf8.encode line)
    (recover : Bool) (endpoint : String) {frames : List Http.Frame}
    (hwhole : Http.break? frames = none) {w : ω} (hempty : held w = []) {records : List Record}
    {document : Bytes}
    (hdocument : (Output.nquads .memory).offer records [] = (.ok (), document)) :
    ∃ lines : List (List Char), records.map Record.line? = lines.map some ∧
      document = Utf8.encode lines.flatten ∧
      (∀ d, Decoder.readOn Sink.collect [frames.flatMap Http.Frame.octets]
          (TupleDecoder.initial, []) = (.ok (), d, records) →
        let t := Transfer.run recover (out.nquadsIn cut) (Http.Body.ofFrames endpoint frames)
          (TupleDecoder.initial, w)
        LeavesPrefix held flushes size e document (lines.map Utf8.encode) (flushes w) t ∧
          Decoder.records t.decoder = (document.take size).count endsLine) ∧
      ∀ mode d, Decoder.readOn Sink.collect [frames.flatMap Http.Frame.octets]
          (GraphDecoder.initial mode, []) = (.ok (), d, records) →
        let t := Transfer.run recover (out.nquadsIn cut) (Http.Body.ofFrames endpoint frames)
          (GraphDecoder.initial mode, w)
        LeavesPrefix held flushes size e document (lines.map Utf8.encode) (flushes w) t ∧
          ((mode = .lenient → ∀ t, .statement t ∈ records → ∀ i ∈ t.iris, '\n' ∉ i.text.toList) →
            Decoder.records t.decoder = (document.take size).count endsLine) := by
  obtain ⟨lines, hlines, hwritten⟩ := Output.lines_of_offer_memory hdocument
  rw [List.nil_append] at hwritten
  subst hwritten
  refine ⟨lines, hlines, rfl, ?_, ?_⟩
  · intro d hread t
    have hready : LawfulDecoder.Ready TupleDecoder.initial := TupleDecoder.initial_ready
    have hdecoding := decoding_of_collected hready hread
    have hleaves := run_leavesPrefix hroom hcut recover endpoint hwhole hready rfl hdecoding hlines
      hempty
    have hrows := TupleDecoder.decoding_isRow (frames.flatMap Http.Frame.octets)
      TupleDecoder.initial
    rw [hdecoding] at hrows
    refine ⟨hleaves, hleaves.counted.trans ?_⟩
    exact linesWithin_eq_count hlines (fun r hr => (hrows r hr).isOneLine) size
  · intro mode d hread t
    have hready : LawfulDecoder.Ready (GraphDecoder.initial mode) :=
      GraphDecoder.initial_ready mode
    have hdecoding := decoding_of_collected hready hread
    have hleaves := run_leavesPrefix hroom hcut recover endpoint hwhole hready rfl hdecoding hlines
      hempty
    refine ⟨hleaves, fun hlenient => hleaves.counted.trans ?_⟩
    obtain ⟨-, ts, rfl, hts⟩ := GraphDecoder.readOn_fits hread
    refine linesWithin_eq_count hlines (fun r hr => ?_) size
    obtain ⟨s, hs, rfl⟩ := List.mem_map.1 hr
    refine ((hts s hs).imp fun i hi htaken => ?_).isOneLine
    cases mode with
    | strict => exact Rdf.Iri.lineEnd_not_mem (htaken rfl)
    | lenient => exact hlenient rfl s hr i hi

/-- A table of two rows is cut into frames in the middle of a term, each line into three octets and
the rest, and the room ends with the first line. What the trailers say is not told. -/
theorem full_output_holds_first_line :
    let plan : Rehearsal.Plan := ⟨.nquads, false, some (.room 22 (some (.custom "full")))⟩
    let cut (line : List Char) : List Bytes :=
      [(Utf8.encode line).take 3, (Utf8.encode line).drop 3]
    let frames : List Http.Frame := [.data (Utf8.ofString "?s\t?p\t?o\n<urn:s>\t<urn"), .data [],
      .data (Utf8.ofString ":p>\t\"x\"\n<urn:s>\t<urn:p>\t\"y\"\n"),
      .trailers [("x-neptune-status", Utf8.ofString "InternalFailureException")]]
    let row (value : String) : Record := .row ⟨[(⟨"s"⟩, .iri "urn:s"), (⟨"p"⟩, .iri "urn:p"),
      (⟨"o"⟩, .literal (.plain value))]⟩
    let document : Bytes := Utf8.ofString "<urn:s> <urn:p> \"x\" .\n<urn:s> <urn:p> \"y\" .\n"
    let start : Rehearsal.World := .start []
    plan.output.HasRoom Rehearsal.World.held Rehearsal.World.flushes 22 (.custom "full") ∧
      (∀ line, (cut line).flatten = Utf8.encode line) ∧ Http.break? frames = none ∧
      start.held = [] ∧
      (Output.nquads .memory).offer [row "x", row "y"] [] = (.ok (), document) ∧
      (∃ d, Decoder.readOn Sink.collect [frames.flatMap Http.Frame.octets]
        (TupleDecoder.initial, []) = (.ok (), d, [row "x", row "y"])) ∧
      let t := Transfer.run true (plan.output.nquadsIn cut) (Http.Body.ofFrames "db" frames)
        (TupleDecoder.initial, start)
      t.sink.held = Utf8.ofString "<urn:s> <urn:p> \"x\" .\n" ∧
        t.result = .error (.output (.custom "full")) ∧ t.sink.flushes = 0 ∧
        Decoder.records t.decoder = 1 := by
  intro plan cut frames row document start
  have hroom : plan.output.HasRoom Rehearsal.World.held Rehearsal.World.flushes 22
      (.custom "full") := @Rehearsal.Plan.hasRoom plan 22 (some (.custom "full")) rfl
  have hcut : ∀ line, (cut line).flatten = Utf8.encode line := by
    intro line
    simp [cut]
  have hwhole : Http.break? frames = none := rfl
  have hempty : start.held = [] := rfl
  have hdocument : (Output.nquads .memory).offer [row "x", row "y"] [] = (.ok (), document) := by
    decide +kernel
  have hread : ∃ d, Decoder.readOn Sink.collect [frames.flatMap Http.Frame.octets]
      (TupleDecoder.initial, []) = (.ok (), d, [row "x", row "y"]) :=
    ⟨⟨[], 0, some [⟨"s"⟩, ⟨"p"⟩, ⟨"o"⟩], 3, 2⟩, by decide +kernel⟩
  obtain ⟨lines, -, -, htable, -⟩ :=
    full_output_holds_first_octets hroom hcut true "db" hwhole hempty hdocument
  obtain ⟨d, hd⟩ := hread
  obtain ⟨hleaves, hcount⟩ := htable d hd
  have hshort : 22 < document.length := by decide
  have htake : document.take 22 = Utf8.ofString "<urn:s> <urn:p> \"x\" .\n" := by decide
  refine ⟨hroom, hcut, hwhole, hempty, hdocument, ⟨d, hd⟩, ?_, (hleaves.refused hshort).1,
    (hleaves.refused hshort).2, ?_⟩
  · rw [← htake]
    exact hleaves.holds
  · rw [hcount, htake]
    decide

section

open Rdf NTriples GraphDecoder

/-- An LF that an escape names in an IRI is written as it is. It ends a line in the output where no
record ends, and the refused record is not counted. -/
theorem full_output_counts_no_raw_line_end :
    let body := Utf8.ofString "<urn:a\\u000Ab> <urn:p> <urn:o> .\n"
    let t : Triple := ⟨.iri ⟨"urn:a\nb"⟩, ⟨"urn:p"⟩, .iri "urn:o"⟩
    let document := Utf8.ofString "<urn:a\nb> <urn:p> <urn:o> .\n"
    let plan : Rehearsal.Plan := ⟨.nquads, false, some (.room 8 (some (.custom "full")))⟩
    let start : Rehearsal.World := .start []
    plan.output.HasRoom Rehearsal.World.held Rehearsal.World.flushes 8 (.custom "full") ∧
      (Output.nquads .memory).offer [.statement t] [] = (.ok (), document) ∧
      (∃ d, Decoder.readOn Sink.collect [body] (initial .lenient, []) =
        (.ok (), d, [.statement t])) ∧
      let t := Transfer.run true (Output.nquads plan.output) (Http.Body.ofFrames "db" [.data body])
        (initial .lenient, start)
      t.sink.held = document.take 8 ∧ t.result = .error (.output (.custom "full")) ∧
        Decoder.records t.decoder = 0 ∧ (document.take 8).count endsLine = 1 := by
  intro body t document plan start
  have hready : LawfulDecoder.Ready (initial .lenient) := initial_ready .lenient
  have hp : Iri.IsLegible .lenient ⟨"urn:p"⟩ := Iri.isLegible_of_isWellFormed (by decide) .lenient
  have ho : Iri.IsLegible .lenient ⟨"urn:o"⟩ := Iri.isLegible_of_isWellFormed (by decide) .lenient
  have hread : (run Sink.collect body (initial .lenient) []).settled =
      (.ok (expecting .lenient .subject 1), [.statement t]) := by
    have hfirst : move .lenient false (some .subject) (octet '<')
        (Utf8.ofString "urn:a\\u000Ab> <urn:p> <urn:o> .\n") =
          .step 14 (some (.predicate t.subject)) none [] := by
      decide +kernel
    have hbody : body =
        octet '<' :: Utf8.ofString "urn:a\\u000Ab> <urn:p> <urn:o> .\n" := by decide
    have hrest : (Utf8.ofString "urn:a\\u000Ab> <urn:p> <urn:o> .\n").drop (14 - 1) =
        octet ' ' :: (Utf8.encode t.predicate.chars ++ octet ' ' ::
          (Utf8.encode t.object.chars ++ [octet ' ', octet '.', octet '\n'])) := by decide
    have hsubject := run_afterSubject Sink.collect t.subject hp
      (show Term.Fits .lenient _ t.object from ho) 0 [] []
    rw [hbody, run_step Sink.collect [] rfl rfl hfirst, hrest]
    refine hsubject.trans ?_
    simp only [Sink.collect, List.nil_append]
    rw [run_pause _ _ rfl rfl (.inr rfl)]
    rfl
  obtain ⟨d, -, hdecoding⟩ := decoding_of_run hread
  have hchunks : Decoder.decoding [body].flatten (initial .lenient) = ⟨[.statement t], .ok d⟩ := by
    rwa [List.flatten_singleton]
  have hframes : Decoder.decoding ([.data body].flatMap Http.Frame.octets) (initial .lenient) =
      ⟨[.statement t], .ok d⟩ := hchunks
  obtain ⟨hcollected, -⟩ := Decoder.readOn_of_decoding Sink.collect hready [] hchunks
  have hdocument : document = Utf8.encode [t.line].flatten := by decide
  have hoffer : (Output.nquads .memory).offer [.statement t] [] = (.ok (), document) := by
    rw [hdocument]
    exact Output.offer_statements [t] []
  have hroom : plan.output.HasRoom Rehearsal.World.held Rehearsal.World.flushes 8
      (.custom "full") := @Rehearsal.Plan.hasRoom plan 8 (some (.custom "full")) rfl
  have hline : [Record.statement t].map Record.line? = [t.line].map some := rfl
  have hleaves := run_leavesPrefix hroom (fun line => List.flatten_singleton) true "db" rfl hready
    rfl hframes hline (w := start) rfl
  rw [Output.nquadsIn_whole, ← hdocument] at hleaves
  have hshort : 8 < document.length := by decide
  refine ⟨hroom, hoffer, ⟨_, Sink.offered_collect hcollected⟩, hleaves.holds,
    (hleaves.refused hshort).1, ?_, by decide⟩
  rw [hleaves.counted]
  decide

end

end RdfExport
