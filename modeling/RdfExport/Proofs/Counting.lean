import RdfExport.Proofs.Cuts
import RdfExport.Proofs.Forwarding
import RdfExport.Proofs.Projection

/-!
# RdfExport.Proofs.Counting

How many records a transfer has counted, also where it failed: those that the sink has accepted. A
decoder sees nothing of a sink but its answers, so a sink may keep what it accepts, and the count
is that of what it has kept.

* `BlindDecoder`: a decoder that cannot tell two sinks that give the same answers.
* `LineWise`: what is true of a table if it is true of each of its lines.
* `CountingDecoder TupleDecoder`: a decoder of result tables counts what was delivered.
* `Sink.accepted`: the records that a sink accepts of those that it is offered.
* `run_records`: the count of a transfer.
-/

namespace RdfExport

variable {δ σ σ' : Type}

def Outcome.onSink (f : σ' → σ) (o : Outcome (δ × σ')) : Outcome (δ × σ) := (o.1, o.2.1, f o.2.2)

/-- A decoder that does the same with two sinks that give the same answers. What it is left with
after a failure is the same, too. -/
class BlindDecoder (δ : Type) [Decoder δ] : Prop where
  feed_blind {σ σ' : Type} {f : σ' → σ} {sink' : Sink σ'} {sink : Sink σ}
    (h : sink'.Projects f sink) (chunk : Bytes) (d : δ) (w : σ') :
    Decoder.feed sink chunk (d, f w) = (Decoder.feed sink' chunk (d, w)).onSink f
  close_blind {σ σ' : Type} {f : σ' → σ} {sink' : Sink σ'} {sink : Sink σ}
    (h : sink'.Projects f sink) (d : δ) (w : σ') :
    Decoder.close sink (d, f w) = (Decoder.close sink' (d, w)).onSink f

/-! ## Graphs -/

namespace GraphDecoder

theorem run_blind {f : σ' → σ} {sink' : Sink σ'} {sink : Sink σ} (h : sink'.Projects f sink)
    (bytes : Bytes) (d : GraphDecoder) (w : σ') :
    run sink bytes d (f w) = (run sink' bytes d w).onSink f := by
  fun_induction run sink' bytes d w with
  | case1 d w fault faults bytes hf => exact run_fault sink (f w) hf
  | case2 d w t bytes hr hf w' haccept ih =>
    simp only [wfParam] at haccept
    rw [run_statement sink (f w) hf hr, h.accept, haccept]
    exact ih
  | case3 d w t bytes hr hf e w' haccept =>
    simp only [wfParam] at haccept
    rw [run_statement sink (f w) hf hr, h.accept, haccept]
    rfl
  | case4 d w b rest hr hf size expect ready faults hm ih =>
    exact (run_step sink (f w) hf hr hm).trans ih
  | case5 d w b rest hr hf hm => exact run_wait sink (f w) hf hr hm
  | case6 d w e hr he hf hended ih => exact (run_end sink (f w) hf hr he hended).trans ih
  | case7 d w e hr he hf hended =>
    exact run_pause sink (f w) hf hr (.inr (by simpa using hended))
  | case8 d w hr he hf => exact run_pause sink (f w) hf hr (.inl he)

instance : BlindDecoder GraphDecoder where
  feed_blind h chunk d w := run_blind h (d.buffer ++ chunk) d w
  close_blind h d w := run_blind h d.buffer { d with ended := true } w

end GraphDecoder

/-! ## Tables -/

namespace TupleDecoder

section Blind

variable {f : σ' → σ} {sink' : Sink σ'} {sink : Sink σ} (h : sink'.Projects f sink)

include h

theorem takeLine_blind (raw : Bytes) (d : TupleDecoder) (w : σ') :
    takeLine sink raw (d, f w) = (takeLine sink' raw (d, w)).onSink f := by
  rw [takeLine_eq, takeLine_eq]
  cases Table.readLine d.header (d.line + 1) raw with
  | error fault => rfl
  | ok line =>
    obtain ⟨vars, row⟩ := line
    cases row with
    | none => rfl
    | some row =>
      simp only [deliver, h.accept]
      cases sink'.accept (.row row) w with
      | mk r w' => cases r <;> rfl

theorem takeLines_blind (lines : List Bytes) (d : TupleDecoder) (w : σ') :
    takeLines sink lines (d, f w) = (takeLines sink' lines (d, w)).onSink f := by
  induction lines generalizing d w with
  | nil => rfl
  | cons raw rest ih =>
    simp only [takeLines, takeLine_blind h]
    cases takeLine sink' raw (d, w) with
    | mk r s =>
      cases r with
      | error e => rfl
      | ok u => exact ih s.1 s.2

theorem feed_blind (chunk : Bytes) (d : TupleDecoder) (w : σ') :
    feed sink chunk (d, f w) = (feed sink' chunk (d, w)).onSink f := by
  simp only [feed, takeLines_blind h]
  cases takeLines sink' (splitLinesFrom d.scanned (d.pending ++ chunk)).1
      ({ d with pending := [] }, w) with
  | mk r s => cases r <;> rfl

theorem takeTail_blind (d : TupleDecoder) (w : σ') :
    takeTail sink (d, f w) = (takeTail sink' (d, w)).onSink f := by
  by_cases hp : d.pending.isEmpty = true
  · simp only [takeTail, if_pos hp]
    rfl
  · simp only [takeTail, if_neg hp]
    exact takeLine_blind h d.pending _ w

theorem close_blind (d : TupleDecoder) (w : σ') :
    close sink (d, f w) = (close sink' (d, w)).onSink f := by
  simp only [close, takeTail_blind h]
  cases takeTail sink' (d, w) with
  | mk r s =>
    cases r with
    | error e => rfl
    | ok u => by_cases hv : s.1.header.isNone <;> simp [Outcome.onSink, hv]

end Blind

instance : BlindDecoder TupleDecoder where
  feed_blind := feed_blind
  close_blind := close_blind

/-- A relation between a decoder and its sink before and after, which has only to be shown of one
line: lines follow each other, and the octets that are held make no difference. -/
structure LineWise (sink : Sink σ) (R : TupleDecoder × σ → TupleDecoder × σ → Prop) : Prop where
  line : ∀ raw s, R s (takeLine sink raw s).2
  held : ∀ d w p k, R (d, w) (hold d p k, w)
  trans : ∀ {s s' s''}, R s s' → R s' s'' → R s s''

namespace LineWise

variable {sink : Sink σ} {R : TupleDecoder × σ → TupleDecoder × σ → Prop}

theorem refl (h : LineWise sink R) (s : TupleDecoder × σ) : R s s :=
  h.held s.1 s.2 s.1.pending s.1.scanned

theorem lines (h : LineWise sink R) (lines : List Bytes) (s : TupleDecoder × σ) :
    R s (takeLines sink lines s).2 := by
  induction lines generalizing s with
  | nil => exact h.refl s
  | cons raw rest ih =>
    have hline := h.line raw s
    simp only [takeLines]
    cases htake : takeLine sink raw s with
    | mk r s' =>
      rw [htake] at hline
      cases r with
      | error e => exact hline
      | ok u => exact h.trans hline (ih s')

theorem feed (h : LineWise sink R) (chunk : Bytes) (s : TupleDecoder × σ) :
    R s (TupleDecoder.feed sink chunk s).2 := by
  have hemptied : R s (s.1.hold [] s.1.scanned, s.2) := h.held s.1 s.2 [] s.1.scanned
  have hlines := h.lines (splitLinesFrom s.1.scanned (s.1.pending ++ chunk)).1
    (s.1.hold [] s.1.scanned, s.2)
  simp only [hold] at hemptied hlines
  simp only [TupleDecoder.feed]
  cases htake : takeLines sink (splitLinesFrom s.1.scanned (s.1.pending ++ chunk)).1
      ({ s.1 with pending := [] }, s.2) with
  | mk r s' =>
    rw [htake] at hlines
    cases r with
    | error e => exact h.trans hemptied hlines
    | ok u => exact h.trans (h.trans hemptied hlines) (h.held s'.1 s'.2 _ _)

theorem close (h : LineWise sink R) (s : TupleDecoder × σ) :
    R s (TupleDecoder.close sink s).2 := by
  have htail : R s (takeTail sink s).2 := by
    by_cases hp : s.1.pending.isEmpty = true
    · simp only [takeTail, if_pos hp]
      exact h.refl s
    · simp only [takeTail, if_neg hp]
      exact h.trans (h.held s.1 s.2 [] 0) (h.line s.1.pending _)
  simp only [TupleDecoder.close]
  cases htake : takeTail sink s with
  | mk r s' =>
    rw [htake] at htail
    cases r with
    | error e => exact htail
    | ok u => by_cases hv : s'.1.header.isNone <;> simpa [hv] using htail

end LineWise

theorem takeLine_counted (sink : Sink σ) (raw : Bytes) (s : TupleDecoder × σ × List Record) :
    Decoder.Counted s (takeLine sink.recorded raw s).2 := by
  obtain ⟨d, s⟩ := s
  rw [takeLine_eq]
  cases Table.readLine d.header (d.line + 1) raw with
  | error fault => rfl
  | ok line =>
    obtain ⟨vars, row⟩ := line
    cases row with
    | none => rfl
    | some row =>
      simp only [deliver]
      cases haccept : sink.recorded.accept (.row row) s with
      | mk r s' =>
        have hkept := Sink.accept_recorded haccept
        cases r with
        | error e => simp only [Decoder.Counted, Decoder.records, hkept]
        | ok u =>
          simp only [Decoder.Counted, Decoder.records, hkept, List.length_append,
            List.length_singleton]
          omega

theorem lineWise_counted (sink : Sink σ) : LineWise sink.recorded Decoder.Counted where
  line := takeLine_counted sink
  held _ _ _ _ := rfl
  trans h h' := h.trans h'

instance : CountingDecoder TupleDecoder where
  feed_counted sink chunk s := (lineWise_counted sink).feed chunk s
  close_counted sink s := (lineWise_counted sink).close s

end TupleDecoder

/-! ## Transfers -/

def Sink.accepted (sink : Sink σ) (records : List Record) (w : σ) : List Record :=
  (sink.recorded.offer records (w, [])).2.2

/-- Nobody notices that a sink keeps what it accepts. -/
theorem Sink.recorded_projects (sink : Sink σ) : sink.recorded.Projects Prod.fst sink where
  accept record s := by
    simp only [recorded]
    cases sink.accept record s.1 with
    | mk r w => cases r <;> rfl
  finish s := rfl

theorem Sink.offer_recorded_append (sink : Sink σ) (records : List Record) (w : σ)
    (before kept : List Record) :
    (sink.recorded.offer records (w, before ++ kept)).2.2 =
      before ++ (sink.recorded.offer records (w, kept)).2.2 := by
  induction records generalizing w kept with
  | nil => rfl
  | cons record rest ih =>
    simp only [offer, recorded]
    cases sink.accept record w with
    | mk r w' =>
      cases r with
      | error e => rfl
      | ok u =>
        simp only [List.append_assoc]
        exact ih w' (kept ++ [record])

theorem Sink.accepted_ok {sink : Sink σ} {record : Record} {w w' : σ}
    (h : sink.accept record w = (.ok (), w')) (rest : List Record) :
    sink.accepted (record :: rest) w = record :: sink.accepted rest w' := by
  have hrest := sink.offer_recorded_append rest w' [record] []
  simp only [accepted, offer, recorded, h]
  exact hrest

theorem Sink.accepted_error {sink : Sink σ} {record : Record} {w w' : σ} {e : ExportError}
    (h : sink.accept record w = (.error e, w')) (rest : List Record) :
    sink.accepted (record :: rest) w = [] := by
  simp only [accepted, offer, recorded, h]

namespace Transfer

open Http Decoder

variable [Decoder δ] (sink : Sink σ)

section Recorded

variable [BlindDecoder δ]

theorem finish_recorded (d : δ) (s : σ × List Record) :
    finish sink (d, s.1) = (finish sink.recorded (d, s)).onSink Prod.fst := by
  simp only [finish, BlindDecoder.close_blind sink.recorded_projects]
  cases Decoder.close sink.recorded (d, s) with
  | mk r s' => cases r <;> rfl

theorem stream_recorded (endpoint : String) (frames : List Frame) (trailers : Option Fields)
    (d : δ) (s : σ × List Record) :
    let t := stream sink.recorded ⟨endpoint, frames, trailers, false⟩ (d, s)
    stream sink ⟨endpoint, frames, trailers, false⟩ (d, s.1) =
      (t.1, t.2.1, t.2.2.1, t.2.2.2.1) := by
  induction frames generalizing trailers d s with
  | nil =>
    simp only [stream_nil, finish_recorded sink d s]
    rfl
  | cons frame rest ih =>
    cases frame with
    | broken e => simp only [stream_broken]
    | trailers fields =>
      simp only [stream_trailers]
      exact ih (some fields) d s
    | data bytes =>
      cases bytes with
      | nil =>
        simp only [stream_empty]
        exact ih trailers d s
      | cons b bytes =>
        simp only [stream_data, BlindDecoder.feed_blind sink.recorded_projects]
        cases Decoder.feed sink.recorded (b :: bytes) (d, s) with
        | mk r s' =>
          cases r with
          | error e => rfl
          | ok u => exact ih trailers s'.1 s'.2

end Recorded

/-- A transfer counts what was delivered, also where it fails. -/
theorem stream_counted [CountingDecoder δ] (endpoint : String) (frames : List Frame)
    (trailers : Option Fields) (s : δ × σ × List Record) :
    Counted s (stream sink.recorded ⟨endpoint, frames, trailers, false⟩ s).2.2 := by
  induction frames generalizing trailers s with
  | nil =>
    have hclose := CountingDecoder.close_counted sink s
    simp only [stream_nil, finish]
    cases hs : Decoder.close sink.recorded s with
    | mk r s' =>
      rw [hs] at hclose
      cases r <;> exact hclose
  | cons frame rest ih =>
    cases frame with
    | broken e =>
      simp only [stream_broken]
      rfl
    | trailers fields =>
      simp only [stream_trailers]
      exact ih (some fields) s
    | data bytes =>
      cases bytes with
      | nil =>
        simp only [stream_empty]
        exact ih trailers s
      | cons b bytes =>
        have hfeed := CountingDecoder.feed_counted sink (b :: bytes) s
        simp only [stream_data]
        cases hs : Decoder.feed sink.recorded (b :: bytes) s with
        | mk r s' =>
          rw [hs] at hfeed
          cases r with
          | error e => exact hfeed
          | ok u => exact hfeed.trans (ih trailers s')

variable [LawfulDecoder δ]

/-- What was delivered in a transfer are the records that the sink accepts of those in the body. -/
theorem stream_accepted (endpoint : String) (frames : List Frame) {d : δ}
    (hd : LawfulDecoder.Ready d) (w : σ) :
    (stream sink.recorded ⟨endpoint, frames, none, false⟩ (d, w, [])).2.2.2.2 =
      sink.accepted (reading endpoint frames d).records w := by
  have hsettled := congrArg (·.2.2) (stream_settled endpoint sink.recorded frames none hd (w, []))
  simp only [Outcome.settled_snd] at hsettled
  rw [hsettled, Emission.into, Sink.accepted]
  cases sink.recorded.offer (reading endpoint frames d).records (w, []) with
  | mk r s =>
    cases r with
    | error e => rfl
    | ok u =>
      simp only [Decoded.andThen]
      cases (reading endpoint frames d).ending with
      | error e => rfl
      | ok d' =>
        simp only [finishSink, Sink.recorded]
        cases sink.finish s.1 with
        | mk r' w' => cases r' <;> rfl

/-- **A transfer counts the records that the sink has accepted**, also where it fails. -/
theorem run_records [BlindDecoder δ] [CountingDecoder δ] (recover : Bool) (endpoint : String)
    (frames : List Frame) {d : δ} (hd : LawfulDecoder.Ready d) (w : σ) :
    Decoder.records (run recover sink (Body.ofFrames endpoint frames) (d, w)).decoder =
      Decoder.records d + (sink.accepted (reading endpoint frames d).records w).length := by
  have hrecorded := stream_recorded sink endpoint frames none d (w, [])
  have hcounted := stream_counted sink endpoint frames none (d, w, [])
  have haccepted := stream_accepted sink endpoint frames hd w
  have hsame : (run recover sink (Body.ofFrames endpoint frames) (d, w)).decoder =
      (stream sink ⟨endpoint, frames, none, false⟩ (d, w)).2.2.1 := by
    simp only [run, Body.ofFrames]
    cases stream sink ⟨endpoint, frames, none, false⟩ (d, w) with
    | mk r t => cases r <;> rfl
  -- what is counted is counted by the transfer into a sink that keeps what it accepts
  simp only [Counted, haccepted, List.length_nil, Nat.add_zero] at hcounted
  rw [hsame, hrecorded]
  exact hcounted

end Transfer
end RdfExport
