import RdfExport.Proofs.Call.Records
import RdfExport.Proofs.Counting
import RdfExport.Proofs.NTriples.Heard
import RdfExport.Proofs.Search

/-!
# RdfExport.Proofs.Offers

The records that a decoder offers to its sink through a history of chunks and ends, failures of
either included. It counts those that are accepted; each is told by octets of its own, so none is
offered twice; and after a refusal nothing is offered in the same call.

* `Told`: that octets tell records, each by octets of its own.
* `Stops`: that a call offers nothing after a refusal.
* `Delivers`: what a call offers and counts, and what is true after it.
* `handled?`: the calls of a history, each with what it offered.
* `records_never_drift`: both decoders.
-/

namespace RdfExport

variable {δ σ : Type}

/-- That octets tell records, one after another and each by octets of its own. -/
inductive Told (Tells : Bytes → Record → Prop) : Bytes → List Record → Prop
  | nil : Told Tells [] []
  | pass {octets : Bytes} {records : List Record} (h : Told Tells octets records) (more : Bytes) :
    Told Tells (octets ++ more) records
  | record {octets own : Bytes} {records : List Record} {r : Record}
      (h : Told Tells octets records) (hown : own ≠ []) (hr : Tells own r) :
    Told Tells (octets ++ own) (records ++ [r])

/-! ## Calls -/

/-- That a call offers nothing after a refusal, and fails with it. -/
inductive Stops : Log → Except ExportError Unit → Prop
  | accepted (records : List Record) (r : Except ExportError Unit) : Stops (offers records) r
  | refused (records : List Record) (record : Record) (x : ExportError) :
    Stops (offers records ++ [.offered record (.error x)]) (.error x)

theorem offers_append (a b : List Record) : offers (a ++ b) = offers a ++ offers b :=
  List.map_append

theorem Stops.after_accepted {log : Log} {r : Except ExportError Unit} (h : Stops log r)
    (records : List Record) : Stops (offers records ++ log) r := by
  cases h with
  | accepted more =>
    rw [← offers_append]
    exact .accepted _ r
  | refused more record x =>
    rw [← List.append_assoc, ← offers_append]
    exact .refused _ record x

theorem Sink.logged_accept {sink : Sink σ} {record : Record} {s s' : σ × Log}
    {r : Except ExportError Unit} (h : sink.logged.accept record s = (r, s')) :
    s'.2 = s.2 ++ [.offered record r] := by
  cases h
  rfl

/-- What a call makes of a decoder and of the log of its sink: what it offers, what it counts, and
what is true of the decoder after it. -/
def Delivers [Decoder δ] (Keeps : List Record → δ → Prop) (d : δ) (log : Log)
    (o : Outcome (δ × σ × Log)) : Prop :=
  ∃ made : Log, o.2.2.2 = log ++ made ∧ Stops made o.1 ∧
    Decoder.records o.2.1 = Decoder.records d + made.accepted.length ∧ Keeps made.offered o.2.1

namespace Delivers

variable [Decoder δ] {Keeps Keeps' : List Record → δ → Prop} {d d' : δ} {s s' : σ × Log}

theorem imp {log : Log} {o : Outcome (δ × σ × Log)} (h : Delivers Keeps d log o)
    (himp : ∀ records d, Keeps records d → Keeps' records d) : Delivers Keeps' d log o := by
  obtain ⟨made, hlog, hstops, hcount, hkeeps⟩ := h
  exact ⟨made, hlog, hstops, hcount, himp _ _ hkeeps⟩

theorem quiet (r : Except ExportError Unit) (hcount : Decoder.records d' = Decoder.records d)
    (h : Keeps [] d') : Delivers Keeps d s.2 (r, d', s) :=
  ⟨[], (List.append_nil _).symm, .accepted [] r, hcount, h⟩

theorem accepted {record : Record} (hlog : s'.2 = s.2 ++ [.offered record (.ok ())])
    (hcount : Decoder.records d' = Decoder.records d + 1) (h : Keeps [record] d') :
    Delivers Keeps d s.2 (.ok (), d', s') :=
  ⟨_, hlog, .accepted [record] _, hcount, h⟩

theorem refused {record : Record} {x : ExportError}
    (hlog : s'.2 = s.2 ++ [.offered record (.error x)])
    (hcount : Decoder.records d' = Decoder.records d) (h : Keeps [record] d') :
    Delivers Keeps d s.2 (.error x, d', s') :=
  ⟨_, hlog, .refused [] record x, hcount, h⟩

theorem andThen {o : Outcome (δ × σ × Log)} (h : Delivers Keeps' d s.2 (.ok (), d', s'))
    (hrest : ∀ made, Keeps' made d' → Delivers (fun more => Keeps (made ++ more)) d' s'.2 o) :
    Delivers Keeps d s.2 o := by
  obtain ⟨made, hlog, hstops, hcount, hkeeps⟩ := h
  obtain ⟨more, hlog', hstops', hcount', hkeeps'⟩ := hrest _ hkeeps
  simp only at hlog hstops hcount
  cases hstops with
  | accepted records =>
    refine ⟨offers records ++ more, ?_, hstops'.after_accepted records, ?_, ?_⟩
    · rw [hlog', hlog, List.append_assoc]
    · rw [hcount', hcount, Log.accepted_append, List.length_append, Nat.add_assoc]
    · rwa [Log.offered_append]

end Delivers

/-! ## Tables -/

namespace TupleDecoder

open Rdf

/-- That a line says a row. -/
def SaysRow (raw : Bytes) (row : Bindings) : Prop :=
  ∃ vars n text, readText n raw = .ok text ∧ readRow vars n text = .ok (some row)

/-- That octets tell a row: they are a line with its end, or the last line, which lacks it. -/
inductive TellsRow : Bytes → Record → Prop
  | line {raw : Bytes} {row : Bindings} (h : SaysRow raw row) :
    TellsRow (raw ++ [endsLine]) (.row row)
  | last {raw : Bytes} {row : Bindings} (h : SaysRow raw row) : TellsRow raw (.row row)

theorem saysRow_of_readLine {header : Option (List Variable)} {n : Nat} {raw : Bytes}
    {vars : List Variable} {row : Bindings}
    (h : Table.readLine header n raw = .ok (vars, some row)) : SaysRow raw row := by
  unfold Table.readLine at h
  cases htext : readText n raw with
  | error f =>
    rw [htext] at h
    cases h
  | ok text =>
    rw [htext] at h
    cases header with
    | none => cases hheader : readHeader text <;> simp [hheader, Except.map] at h
    | some vars' =>
      cases hrow : readRow vars' n text with
      | error f => simp [hrow, Except.map] at h
      | ok row' =>
        simp only [hrow, Except.map, Except.ok.injEq, Prod.mk.injEq] at h
        obtain ⟨-, rfl⟩ := h
        exact ⟨vars', n, text, htext, hrow⟩

theorem splitLines_octets (bytes : Bytes) :
    (splitLines bytes).1.flatMap (· ++ [endsLine]) ++ (splitLines bytes).2 = bytes := by
  induction bytes with
  | nil => rfl
  | cons b rest ih =>
    by_cases hb : b = endsLine
    · subst hb
      rw [splitLines_end]
      simp [ih]
    · rw [splitLines_cons hb]
      cases h : splitLines rest with
      | mk lines tail =>
        rw [h] at ih
        cases lines <;> simp_all

theorem splitLinesFrom_octets (scanned : Nat) (bytes : Bytes) :
    (splitLinesFrom scanned bytes).1.flatMap (· ++ [endsLine]) ++ (splitLinesFrom scanned bytes).2 =
      bytes := by
  have hsplit := splitLines_octets (bytes.drop scanned)
  unfold splitLinesFrom
  cases h : splitLines (bytes.drop scanned) with
  | mk lines tail =>
    rw [h] at hsplit
    conv => rhs; rw [← List.take_append_drop scanned bytes, ← hsplit]
    cases lines <;> simp

variable (sink : Sink σ)

/-- A line offers its row, if it is one. -/
theorem takeLine_delivers (raw : Bytes) (d : TupleDecoder) (s : σ × Log) :
    Delivers (fun made d' => d'.pending = d.pending ∧
        (made = [] ∨ ∃ row, made = [.row row] ∧ SaysRow raw row))
      d s.2 (takeLine sink.logged raw (d, s)) := by
  rw [takeLine_eq]
  cases hline : Table.readLine d.header (d.line + 1) raw with
  | error f => exact .quiet _ rfl ⟨rfl, .inl rfl⟩
  | ok line =>
    obtain ⟨vars, row⟩ := line
    cases row with
    | none => exact .quiet _ rfl ⟨rfl, .inl rfl⟩
    | some row =>
      have hsaid := saysRow_of_readLine hline
      simp only [deliver]
      cases haccept : sink.logged.accept (.row row) s with
      | mk r s' =>
        have hlog := Sink.logged_accept haccept
        cases r with
        | ok u => exact .accepted hlog rfl ⟨rfl, .inr ⟨row, rfl, hsaid⟩⟩
        | error x => exact .refused hlog rfl ⟨rfl, .inr ⟨row, rfl, hsaid⟩⟩

/-- The octets of a line, with its end or as the last one. -/
theorem told_line {told raw own : Bytes} {records made : List Record}
    (h : Told TellsRow told records) (hown : own = raw ++ [endsLine] ∨ own = raw ∧ raw ≠ [])
    (hmade : made = [] ∨ ∃ row, made = [.row row] ∧ SaysRow raw row) :
    Told TellsRow (told ++ own) (records ++ made) := by
  rcases hmade with rfl | ⟨row, rfl, hsaid⟩
  · rw [List.append_nil]
    exact h.pass own
  · rcases hown with rfl | ⟨rfl, hraw⟩
    · exact h.record (by simp) (.line hsaid)
    · exact h.record hraw (.last hsaid)

theorem takeLines_delivers (lines : List Bytes) (d : TupleDecoder) (s : σ × Log) {told : Bytes}
    {records : List Record} (h : Told TellsRow told records) :
    Delivers (fun made d' => d'.pending = d.pending ∧
        Told TellsRow (told ++ lines.flatMap (· ++ [endsLine])) (records ++ made))
      d s.2 (takeLines sink.logged lines (d, s)) := by
  induction lines generalizing d s told records with
  | nil => exact .quiet _ rfl ⟨rfl, by simpa using h⟩
  | cons raw rest ih =>
    have hline := takeLine_delivers sink raw d s
    simp only [takeLines]
    cases htake : takeLine sink.logged raw (d, s) with
    | mk r s' =>
      rw [htake] at hline
      cases r with
      | error x =>
        refine hline.imp ?_
        rintro made d' ⟨hpending, hmade⟩
        refine ⟨hpending, ?_⟩
        rw [List.flatMap_cons, ← List.append_assoc]
        exact (told_line h (.inl rfl) hmade).pass _
      | ok u =>
        refine hline.andThen ?_
        rintro made ⟨hpending, hmade⟩
        refine (ih s'.1 s'.2 (told_line h (.inl rfl) hmade)).imp ?_
        rintro more d' ⟨hpending', htold⟩
        rw [List.append_assoc, List.append_assoc records] at htold
        exact ⟨hpending'.trans hpending, htold⟩

/-- That a decoder has received octets of which some told records and the rest are held. -/
def Received (octets : Bytes) (records : List Record) (d : TupleDecoder) : Prop :=
  ∃ told, octets = told ++ d.pending ∧ Told TellsRow told records

variable {octets : Bytes} {records : List Record} {d : TupleDecoder}

theorem feed_delivers (h : Received octets records d) (chunk : Bytes) (s : σ × Log) :
    Delivers (fun made => Received (octets ++ chunk) (records ++ made)) d s.2
      (feed sink.logged chunk (d, s)) := by
  obtain ⟨told, rfl, htold⟩ := h
  have hoctets := splitLinesFrom_octets d.scanned (d.pending ++ chunk)
  have hlines := takeLines_delivers sink (splitLinesFrom d.scanned (d.pending ++ chunk)).1
    { d with pending := [] } s htold
  rw [List.append_assoc, ← hoctets, ← List.append_assoc]
  simp only [feed]
  cases htake : takeLines sink.logged (splitLinesFrom d.scanned (d.pending ++ chunk)).1
      ({ d with pending := [] }, s) with
  | mk r s' =>
    rw [htake] at hlines
    obtain ⟨made, hlog, hstops, hcount, hpending, hmade⟩ := hlines
    cases r with
    | ok u => exact ⟨made, hlog, hstops, hcount, _, rfl, hmade⟩
    | error x =>
      -- what follows the line that failed is lost
      have hlost := hmade.pass (splitLinesFrom d.scanned (d.pending ++ chunk)).2
      have hnil : s'.1.pending = [] := hpending
      exact ⟨made, hlog, hstops, hcount, _, by rw [hnil, List.append_nil], hlost⟩

theorem takeTail_delivers (h : Received octets records d) (s : σ × Log) :
    Delivers (fun made => Received octets (records ++ made)) d s.2
      (takeTail sink.logged (d, s)) := by
  by_cases hp : d.pending.isEmpty = true
  · simp only [takeTail, if_pos hp]
    exact .quiet _ rfl (by simpa using h)
  · obtain ⟨told, rfl, htold⟩ := h
    simp only [takeTail, if_neg hp]
    have hheld : d.pending ≠ [] := by simpa using hp
    obtain ⟨made, hlog, hstops, hcount, hpending, hmade⟩ :=
      takeLine_delivers sink d.pending { d with pending := [], scanned := 0 } s
    refine ⟨made, hlog, hstops, hcount, told ++ d.pending, ?_,
      told_line htold (.inr ⟨rfl, hheld⟩) hmade⟩
    simp [hpending]

theorem close_delivers (h : Received octets records d) (s : σ × Log) :
    Delivers (fun made => Received octets (records ++ made)) d s.2 (close sink.logged (d, s)) := by
  have htail := takeTail_delivers sink h s
  simp only [close]
  cases htake : takeTail sink.logged (d, s) with
  | mk r s' =>
    rw [htake] at htail
    cases r with
    | error x => exact htail
    | ok u =>
      by_cases hheader : s'.1.header.isNone
      · simp only [if_pos hheader]
        obtain ⟨made, hlog, hstops, hrest⟩ := htail
        cases hstops with
        | accepted made => exact ⟨_, hlog, .accepted made _, hrest⟩
      · simpa only [if_neg hheader] using htail

end TupleDecoder

/-! ## Graphs -/

namespace GraphDecoder

open NTriples

inductive TellsStatement (mode : Mode) : Bytes → Record → Prop
  | mk {octets : Bytes} {t : Rdf.Triple} (h : SaysOctets mode octets t) :
    TellsStatement mode octets (.statement t)

/-- That a decoder has received octets of which some told records, and of the rest some are those of
a complete statement, some are those of tokens, and `left` are still to be read. -/
structure Received (mode : Mode) (octets : Bytes) (records : List Record) (left : Bytes)
    (d : GraphDecoder) : Prop where
  reads : d.mode = mode
  octets : ∃ told held started, octets = told ++ held ++ started ++ left ∧
    Told (TellsStatement mode) told records ∧ Owns mode held d.ready ∧ Hears mode started d.expect

variable (sink : Sink σ) {mode : Mode} {octets bytes : Bytes} {records : List Record}
  {d : GraphDecoder}

theorem Received.told {t : Rdf.Triple} (h : Received mode octets records bytes d)
    (hr : d.ready = some t) (statements : Nat) :
    Received mode octets (records ++ [.statement t]) bytes
      { d with ready := none, statements := statements } := by
  obtain ⟨hmode, told, held, started, hoctets, htold, howns, hhears⟩ := h
  rw [hr] at howns
  obtain ⟨own, after, rfl, hsaid⟩ := howns
  refine ⟨hmode, told ++ own ++ after, [], started, by simp [hoctets], ?_, trivial, hhears⟩
  exact (htold.record hsaid.ne_nil (.mk hsaid)).pass after

/-- A step. -/
theorem Received.step {b : UInt8} {rest : Bytes} {size : Nat} {expect : Option Expect}
    {ready : Option Rdf.Triple} {faults : List Fault}
    (h : Received mode octets records (b :: rest) d)
    (hm : move d.mode d.ended d.expect b rest = .step size expect ready faults) :
    Received mode octets records (rest.drop (size - 1)) { d with expect, ready, faults } := by
  obtain ⟨hmode, told, held, started, hoctets, htold, -, hhears⟩ := h
  rw [hmode] at hm
  obtain ⟨held', started', hdivides, howns, hhears'⟩ := move_hears hhears hm
  refine ⟨hmode, told ++ held, held', started', ?_, htold.pass held, howns, hhears'⟩
  have hcut : started ++ b :: rest = held' ++ started' ++ rest.drop (size - 1) := by
    rw [← hdivides]
    simp
  rw [hoctets, List.append_assoc _ started, hcut]
  simp only [List.append_assoc]

theorem Received.end {e : Expect} (h : Received mode octets records bytes d)
    (he : d.expect = some e) :
    Received mode octets records bytes
      { d with expect := none, ready := e.onEnd.1, faults := e.onEnd.2 } := by
  obtain ⟨hmode, told, held, started, hoctets, htold, -, hhears⟩ := h
  rw [he] at hhears
  refine ⟨hmode, told ++ held, started, [], by simp [hoctets], htold.pass held, ?_, rfl⟩
  have howns := hears_end hhears []
  rwa [List.append_nil, ← Expect.onEnd_statement] at howns

theorem run_delivers (bytes : Bytes) (d : GraphDecoder) (s : σ × Log)
    (h : Received mode octets records bytes d) :
    Delivers (fun made d' => Received mode octets (records ++ made) d'.buffer d') d s.2
      (run sink.logged bytes d s) := by
  fun_induction run sink.logged bytes d s generalizing records with
  | case1 d s f faults bytes hf =>
    refine .quiet _ rfl ?_
    rw [List.append_nil]
    exact ⟨h.reads, h.octets⟩
  | case2 d s t bytes hr hf s' haccept ih =>
    have hoffer : Delivers (fun made _ => made = [.statement t]) d s.2
        (.ok (), { d with ready := none, statements := d.statements + 1 }, s') :=
      .accepted (Sink.logged_accept haccept) rfl rfl
    refine hoffer.andThen fun made hmade => ?_
    subst hmade
    simpa only [List.append_assoc, wfParam] using ih (h.told hr _)
  | case3 d s t bytes hr hf e s' haccept =>
    have htold := h.told hr d.statements
    exact .refused (Sink.logged_accept haccept) rfl ⟨htold.reads, htold.octets⟩
  | case4 d s b rest hr hf size expect ready faults hm ih => exact ih (h.step hm)
  | case5 d s b rest hr hf hm =>
    refine .quiet _ rfl ?_
    rw [List.append_nil]
    exact ⟨h.reads, h.octets⟩
  | case6 d s e hr he hf hended ih => exact ih (h.end he)
  | case7 d s e hr he hf hended =>
    refine .quiet _ rfl ?_
    rw [List.append_nil]
    exact ⟨h.reads, h.octets⟩
  | case8 d s hr he hf =>
    refine .quiet _ rfl ?_
    rw [List.append_nil]
    exact ⟨h.reads, h.octets⟩

theorem feed_delivers (h : Received mode octets records d.buffer d) (chunk : Bytes)
    (s : σ × Log) :
    Delivers (fun made d' => Received mode (octets ++ chunk) (records ++ made) d'.buffer d') d s.2
      (feed sink.logged chunk (d, s)) := by
  obtain ⟨hmode, told, held, started, hoctets, htold, howns, hhears⟩ := h
  refine run_delivers sink (d.buffer ++ chunk) d s
    ⟨hmode, told, held, started, ?_, htold, howns, hhears⟩
  rw [hoctets, List.append_assoc]

theorem close_delivers (h : Received mode octets records d.buffer d) (s : σ × Log) :
    Delivers (fun made d' => Received mode octets (records ++ made) d'.buffer d') d s.2
      (close sink.logged (d, s)) :=
  run_delivers sink d.buffer { d with ended := true } s ⟨h.reads, h.octets⟩

/-- What comes of an arrival. There always is an answer. -/
def arrive? (s : GraphDecoder × σ) : Arrival → Option (Outcome (GraphDecoder × σ))
  | .chunk bytes => some (feed sink bytes s)
  | .ending => some (close sink s)

end GraphDecoder

/-! ## Histories -/

def Arrival.octets : Arrival → Bytes
  | .chunk bytes => bytes
  | .ending => []

/-- What comes of arrivals, whether they fail or not, if there is an answer to each. -/
def history? (arrive : δ × σ → Arrival → Option (Outcome (δ × σ))) :
    List Arrival → δ × σ → Option (δ × σ)
  | [], s => some s
  | a :: rest, s => (arrive s a).bind fun o => history? arrive rest o.2

/-- A call: what came, what was offered to the sink, and how it ended. -/
structure Handled where
  arrival : Arrival
  log : Log
  outcome : Except ExportError Unit

def handled? (arrive : δ × σ × Log → Arrival → Option (Outcome (δ × σ × Log))) :
    List Arrival → δ × σ → Option (List Handled × δ × σ)
  | [], s => some ([], s)
  | a :: rest, s =>
    (arrive (s.1, s.2, []) a).bind fun o =>
      (handled? arrive rest (o.2.1, o.2.2.1)).map fun t => (⟨a, o.2.2.2, o.1⟩ :: t.1, t.2)

/-- What the calls of a history are: they are for the arrivals, the decoder has counted what the
sink accepted in them, nothing is offered after a refusal in the same call, and every record that
is offered is told by octets of its own. -/
structure Accounts [Decoder δ] (Tells : Bytes → Record → Prop) (arrivals : List Arrival)
    (calls : List Handled) (d : δ) : Prop where
  handled : calls.map Handled.arrival = arrivals
  counts : Decoder.records d = (Log.accepted (calls.flatMap Handled.log)).length
  stops : ∀ call ∈ calls, Stops call.log call.outcome
  once : Told Tells (arrivals.flatMap Arrival.octets) (Log.offered (calls.flatMap Handled.log))

/-- What has to be shown of one arrival: that the log makes no difference, that `Received` says what
was received and offered, and that of this each record is told by octets of its own. -/
structure Accountable [Decoder δ] (Tells : Bytes → Record → Prop)
    (arrive : δ × σ → Arrival → Option (Outcome (δ × σ)))
    (arriveLogged : δ × σ × Log → Arrival → Option (Outcome (δ × σ × Log)))
    (Received : Bytes → List Record → δ → Prop) : Prop where
  blind : ∀ a d s, arrive (d, s.1) a = (arriveLogged (d, s) a).map (Outcome.onSink Prod.fst)
  delivers : ∀ {octets records d a s o}, Received octets records d →
    arriveLogged (d, s) a = some o →
      Delivers (fun made => Received (octets ++ a.octets) (records ++ made)) d s.2 o
  told : ∀ {octets records d}, Received octets records d → Told Tells octets records

namespace Accountable

variable [Decoder δ] {Tells : Bytes → Record → Prop}
  {arrive : δ × σ → Arrival → Option (Outcome (δ × σ))}
  {arriveLogged : δ × σ × Log → Arrival → Option (Outcome (δ × σ × Log))}
  {Received : Bytes → List Record → δ → Prop}

/-- From one arrival to all, from any state on. -/
theorem history (h : Accountable Tells arrive arriveLogged Received) {arrivals : List Arrival}
    {octets : Bytes} {records : List Record} {d d' : δ} {w w' : σ}
    (hreceived : Received octets records d)
    (hhistory : history? arrive arrivals (d, w) = some (d', w')) :
    ∃ calls, handled? arriveLogged arrivals (d, w) = some (calls, d', w') ∧
      calls.map Handled.arrival = arrivals ∧
      Decoder.records d' =
        Decoder.records d + (Log.accepted (calls.flatMap Handled.log)).length ∧
      (∀ call ∈ calls, Stops call.log call.outcome) ∧
      Told Tells (octets ++ arrivals.flatMap Arrival.octets)
        (records ++ Log.offered (calls.flatMap Handled.log)) := by
  induction arrivals generalizing octets records d w with
  | nil =>
    cases hhistory
    exact ⟨[], rfl, rfl, rfl, by simp, by simpa [Log.offered] using h.told hreceived⟩
  | cons a rest ih =>
    rw [history?, h.blind a d (w, [])] at hhistory
    cases hanswer : arriveLogged (d, w, []) a with
    | none =>
      rw [hanswer] at hhistory
      cases hhistory
    | some o =>
      rw [hanswer] at hhistory
      obtain ⟨made, hlog, hstops, hcount, hkeeps⟩ := h.delivers hreceived hanswer
      rw [List.nil_append] at hlog
      obtain ⟨calls, hcalls, harrivals, hcounts, hall, htold⟩ := ih hkeeps hhistory
      refine ⟨⟨a, made, o.1⟩ :: calls, ?_, ?_, ?_, ?_, ?_⟩
      · simp only [handled?, hanswer, Option.bind_some, hcalls, Option.map_some, hlog]
      · rw [List.map_cons, harrivals]
      · rw [hcounts, hcount, List.flatMap_cons, Log.accepted_append, List.length_append,
          Nat.add_assoc]
      · exact List.forall_mem_cons.2 ⟨hstops, hall⟩
      · rw [List.flatMap_cons, List.flatMap_cons, Log.offered_append]
        simpa only [List.append_assoc] using htold

theorem accounts (h : Accountable Tells arrive arriveLogged Received) {arrivals : List Arrival}
    {d d' : δ} {w w' : σ} (hreceived : Received [] [] d) (hzero : Decoder.records d = 0)
    (hhistory : history? arrive arrivals (d, w) = some (d', w')) :
    ∃ calls, handled? arriveLogged arrivals (d, w) = some (calls, d', w') ∧
      Accounts Tells arrivals calls d' := by
  obtain ⟨calls, hcalls, harrivals, hcounts, hstops, htold⟩ := h.history hreceived hhistory
  rw [hzero, Nat.zero_add] at hcounts
  exact ⟨calls, hcalls, harrivals, hcounts, hstops, htold⟩

end Accountable

theorem TupleDecoder.history?_eq (sink : Sink σ) (arrivals : List Arrival) (s : TupleDecoder × σ) :
    TupleDecoder.history? sink arrivals s = RdfExport.history? (arrive? sink) arrivals s := by
  induction arrivals generalizing s with
  | nil => rfl
  | cons a rest ih =>
    simp only [TupleDecoder.history?, RdfExport.history?]
    cases arrive? sink s a with
    | none => rfl
    | some o => exact ih o.2

theorem TupleDecoder.accountable (sink : Sink σ) :
    Accountable TellsRow (arrive? sink) (arrive? sink.logged) Received where
  blind a d s := by
    cases a with
    | ending => exact congrArg some (close_blind sink.logged_projects d s)
    | chunk bytes =>
      simp only [arrive?, feed?]
      by_cases hrange : d.inRange bytes = true
      · simp only [if_pos hrange, Option.map_some]
        exact congrArg some (feed_blind sink.logged_projects bytes d s)
      · simp only [if_neg hrange, Option.map_none]
  delivers {octets records d a s o} hreceived ho := by
    cases a with
    | ending =>
      cases ho
      simpa only [Arrival.octets, List.append_nil] using close_delivers sink hreceived s
    | chunk bytes =>
      simp only [arrive?, feed?, Option.ite_none_right_eq_some, Option.some.injEq] at ho
      obtain ⟨-, rfl⟩ := ho
      exact feed_delivers sink hreceived bytes s
  told := by
    rintro octets records d ⟨told, rfl, htold⟩
    exact htold.pass d.pending

theorem GraphDecoder.accountable (sink : Sink σ) (mode : NTriples.Mode) :
    Accountable (TellsStatement mode) (arrive? sink) (arrive? sink.logged)
      fun octets records d => Received mode octets records d.buffer d where
  blind a d s := by
    cases a with
    | ending => exact congrArg some (run_blind sink.logged_projects _ _ s)
    | chunk bytes => exact congrArg some (run_blind sink.logged_projects _ _ s)
  delivers {octets records d a s o} hreceived ho := by
    cases a with
    | ending =>
      cases ho
      simpa only [Arrival.octets, List.append_nil] using close_delivers sink hreceived s
    | chunk bytes =>
      cases ho
      exact feed_delivers sink hreceived bytes s
  told := by
    rintro octets records d ⟨-, told, held, started, rfl, htold, -⟩
    exact ((htold.pass held).pass started).pass d.buffer

theorem GraphDecoder.history_answers (sink : Sink σ) (arrivals : List Arrival)
    (s : GraphDecoder × σ) : ∃ s', history? (arrive? sink) arrivals s = some s' := by
  induction arrivals generalizing s with
  | nil => exact ⟨s, rfl⟩
  | cons a rest ih => cases a <;> exact ih _

/-- **The count of a decoder never drifts from what its sink accepted**, whatever comes and however
often the decoder or the sink fails. The decoder of tables does not answer every chunk; the decoder
of graphs does. -/
theorem records_never_drift (sink : Sink σ) (arrivals : List Arrival) (w : σ) :
    (∀ d w', TupleDecoder.history? sink arrivals (.initial, w) = some (d, w') →
      ∃ calls, handled? (TupleDecoder.arrive? sink.logged) arrivals (.initial, w) =
          some (calls, d, w') ∧
        Accounts TupleDecoder.TellsRow arrivals calls d) ∧
    ∀ mode, ∃ d w' calls,
      history? (GraphDecoder.arrive? sink) arrivals (.initial mode, w) = some (d, w') ∧
      handled? (GraphDecoder.arrive? sink.logged) arrivals (.initial mode, w) =
          some (calls, d, w') ∧
        Accounts (GraphDecoder.TellsStatement mode) arrivals calls d := by
  constructor
  · intro d w' h
    rw [TupleDecoder.history?_eq] at h
    exact (TupleDecoder.accountable sink).accounts ⟨[], rfl, .nil⟩ rfl h
  · intro mode
    obtain ⟨⟨d, w'⟩, h⟩ := GraphDecoder.history_answers sink arrivals (.initial mode, w)
    have hstart : GraphDecoder.Received mode [] [] [] (.initial mode) :=
      ⟨rfl, [], [], [], rfl, .nil, trivial, [], .nil, .subject⟩
    obtain ⟨calls, hcalls, haccounts⟩ :=
      (GraphDecoder.accountable sink mode).accounts hstart rfl h
    exact ⟨d, w', calls, h, hcalls, haccounts⟩

def Sink.refusingSecond : Sink Nat where
  accept _ n := (if n = 1 then .error (.output (.custom "full")) else .ok (), n + 1)
  finish n := (.ok (), n)

/-- Three rows, of which the sink refuses the second, so that the third is lost, and one more row in
the next chunk. -/
def fourRows : List Arrival :=
  [.chunk (Utf8.encode "?x\n<urn:a>\n<urn:b>\n<urn:c>\n".toList),
    .chunk (Utf8.encode "<urn:d>\n".toList)]

theorem records_never_drift_after_refusal :
    ∃ d w', TupleDecoder.history? .refusingSecond fourRows (.initial, 0) = some (d, w') ∧
      d.rows = 2 ∧ w' = 3 ∧
      ∃ calls, handled? (TupleDecoder.arrive? Sink.refusingSecond.logged) fourRows (.initial, 0) =
          some (calls, d, w') ∧
        Accounts TupleDecoder.TellsRow fourRows calls d := by
  have hcounts : (TupleDecoder.history? .refusingSecond fourRows (.initial, 0)).map
      (fun s => (s.1.rows, s.2)) = some (2, 3) := by decide +kernel
  obtain ⟨⟨d, w'⟩, hhistory, hpair⟩ := Option.map_eq_some_iff.1 hcounts
  obtain ⟨hrows, hoffers⟩ := Prod.mk.inj hpair
  exact ⟨d, w', hhistory, hrows, hoffers,
    (records_never_drift .refusingSecond fourRows 0).1 d w' hhistory⟩

end RdfExport
