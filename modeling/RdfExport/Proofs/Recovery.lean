import RdfExport.Proofs.Frames
import RdfExport.Transfer

/-!
# RdfExport.Proofs.Recovery

How a transfer fails. It meets the frames of a body in order and stops at the first thing that goes
wrong: a break, a chunk that the decoder or the sink refuses, the decoder's end, the sink's end
(`FirstFailure`). The states of the decoder and the sink stay as that left them. Only the trailers
are still looked for, within the limit, to say what the server said.

* `FirstFailure`: the first failure, the frames read up to it, and the frames left.
* `stream_of_firstFailure`, `stream_ok_or_firstFailure`: the transfer stops there, or succeeds.
* `run_reports_firstFailure`: what is reported then, and which frames are read for it.
-/

namespace RdfExport
namespace Transfer

open Http

variable {δ σ : Type} [Decoder δ] (sink : Sink σ)

/-- What goes wrong first when the frames of a body are moved through a decoder into a sink in the
states `s`. After the frames are the failure, the frames read up to it, those that are left, and
the states that the failure leaves. -/
inductive FirstFailure (endpoint : String) :
    List Frame → δ × σ → ExportError → List Frame → List Frame → δ × σ → Prop
  | broken (e : IoError) (after : List Frame) (s : δ × σ) :
    FirstFailure endpoint (.broken e :: after) s (.transport endpoint e) [.broken e] after s
  | undecodable {b : UInt8} {bytes : Bytes} {s s' : δ × σ} {e : ExportError}
      (h : Decoder.feed sink (b :: bytes) s = (.error e, s')) (after : List Frame) :
    FirstFailure endpoint (.data (b :: bytes) :: after) s e [.data (b :: bytes)] after s'
  | incomplete {s s' : δ × σ} {e : ExportError} (h : Decoder.close sink s = (.error e, s')) :
    FirstFailure endpoint [] s e [] [] s'
  | unfinished {s : δ × σ} {d : δ} {w w' : σ} {e : ExportError}
      (h : Decoder.close sink s = (.ok (), d, w)) (h' : sink.finish w = (.error e, w')) :
    FirstFailure endpoint [] s e [] [] (d, w')
  | empty {rest before after : List Frame} {s s' : δ × σ} {e : ExportError} :
    FirstFailure endpoint rest s e before after s' →
      FirstFailure endpoint (.data [] :: rest) s e (.data [] :: before) after s'
  | trailers (fields : Fields) {rest before after : List Frame} {s s' : δ × σ} {e : ExportError} :
    FirstFailure endpoint rest s e before after s' →
      FirstFailure endpoint (.trailers fields :: rest) s e (.trailers fields :: before) after s'
  | decoded {b : UInt8} {bytes : Bytes} {rest before after : List Frame} {s s₁ s' : δ × σ}
      {e : ExportError} (h : Decoder.feed sink (b :: bytes) s = (.ok (), s₁)) :
    FirstFailure endpoint rest s₁ e before after s' →
      FirstFailure endpoint (.data (b :: bytes) :: rest) s e (.data (b :: bytes) :: before) after s'

theorem stream_eq (b : Body) (s : δ × σ) :
    stream sink b s =
      match b.next with
      | (.failed e, b) => (.error e, b, s)
      | (.ended, b) => ((finish sink s).1, b, (finish sink s).2)
      | (.chunk bytes, b) =>
        match Decoder.feed sink bytes s with
        | (.ok (), s) => stream sink b s
        | (.error e, s) => (.error e, b, s) := by
  conv => lhs; rw [stream]
  split
  · rename_i h; rw [h]
  · rename_i h; rw [h]
  · rename_i bytes b' h
    cases hf : Decoder.feed sink bytes s with
    | mk r t => cases r <;> simp [h, hf]

section Frames

variable (endpoint : String) (trailers : Option Fields) (s : δ × σ)

theorem stream_nil :
    stream sink ⟨endpoint, [], trailers, false⟩ s =
      ((finish sink s).1, ⟨endpoint, [], trailers, true⟩, (finish sink s).2) := by
  rw [stream_eq, Body.next_nil]

theorem stream_broken (e : IoError) (rest : List Frame) :
    stream sink ⟨endpoint, .broken e :: rest, trailers, false⟩ s =
      (.error (.transport endpoint e), ⟨endpoint, rest, trailers, true⟩, s) := by
  rw [stream_eq, Body.next_broken]

theorem stream_empty (rest : List Frame) :
    stream sink ⟨endpoint, .data [] :: rest, trailers, false⟩ s =
      stream sink ⟨endpoint, rest, trailers, false⟩ s := by
  rw [stream_eq, Body.next_empty, ← stream_eq]

theorem stream_trailers (fields : Fields) (rest : List Frame) :
    stream sink ⟨endpoint, .trailers fields :: rest, trailers, false⟩ s =
      stream sink ⟨endpoint, rest, some fields, false⟩ s := by
  rw [stream_eq, Body.next_trailers, ← stream_eq]

theorem stream_data (b : UInt8) (bytes : Bytes) (rest : List Frame) :
    stream sink ⟨endpoint, .data (b :: bytes) :: rest, trailers, false⟩ s =
      match Decoder.feed sink (b :: bytes) s with
      | (.ok (), s) => stream sink ⟨endpoint, rest, trailers, false⟩ s
      | (.error e, s) => (.error e, ⟨endpoint, rest, trailers, false⟩, s) := by
  rw [stream_eq, Body.next_data]

end Frames

theorem FirstFailure.frames_eq {endpoint : String} {frames before after : List Frame}
    {s s' : δ × σ} {e : ExportError} (h : FirstFailure sink endpoint frames s e before after s') :
    frames = before ++ after := by
  induction h with
  | broken | undecodable | incomplete | unfinished => rfl
  | empty _ ih | trailers _ _ ih | decoded _ _ ih => rw [ih]; rfl

/-- The transfer stops at the first failure. The body is at its end if it broke or if no frame is
left; otherwise nothing in it has broken yet. -/
theorem stream_of_firstFailure {endpoint : String} {frames before after : List Frame}
    {s s' : δ × σ} {e : ExportError} (h : FirstFailure sink endpoint frames s e before after s') :
    ∀ trailers : Option Fields, ∃ finished,
      stream sink ⟨endpoint, frames, trailers, false⟩ s =
        (.error e, ⟨endpoint, after, lastTrailers trailers before, finished⟩, s') ∧
      (if finished then before.all (!·.isBreak) = false ∨ after = []
        else before.all (!·.isBreak) = true) := by
  induction h with
  | broken e after s =>
    intro trailers
    exact ⟨true, stream_broken sink endpoint trailers s e after, .inl rfl⟩
  | undecodable h after =>
    intro trailers
    refine ⟨false, ?_, rfl⟩
    rw [stream_data, h]
    rfl
  | incomplete h =>
    intro trailers
    refine ⟨true, ?_, .inr rfl⟩
    rw [stream_nil]
    simp [finish, h, lastTrailers]
  | unfinished h h' =>
    intro trailers
    refine ⟨true, ?_, .inr rfl⟩
    rw [stream_nil]
    simp [finish, h, h', lastTrailers]
  | empty _ ih =>
    intro trailers
    obtain ⟨finished, hs, hf⟩ := ih trailers
    exact ⟨finished, by rw [stream_empty, hs]; rfl, by simpa [Frame.isBreak] using hf⟩
  | trailers fields _ ih =>
    intro trailers
    obtain ⟨finished, hs, hf⟩ := ih (some fields)
    exact ⟨finished, by rw [stream_trailers, hs]; rfl, by simpa [Frame.isBreak] using hf⟩
  | decoded h _ ih =>
    intro trailers
    obtain ⟨finished, hs, hf⟩ := ih trailers
    refine ⟨finished, ?_, by simpa [Frame.isBreak] using hf⟩
    rw [stream_data, h]
    exact hs

theorem stream_ok_or_firstFailure (endpoint : String) (frames : List Frame) :
    ∀ (trailers : Option Fields) (s : δ × σ),
      (stream sink ⟨endpoint, frames, trailers, false⟩ s).1 = .ok () ∨
        ∃ e before after s', FirstFailure sink endpoint frames s e before after s' := by
  induction frames with
  | nil =>
    intro trailers s
    rw [stream_nil]
    cases h : Decoder.close sink s with
    | mk r t =>
      obtain ⟨d, w⟩ := t
      cases r with
      | error e => exact .inr ⟨e, [], [], (d, w), .incomplete h⟩
      | ok u =>
        cases h' : sink.finish w with
        | mk r w' =>
          cases r with
          | error e => exact .inr ⟨e, [], [], (d, w'), .unfinished h h'⟩
          | ok u => exact .inl (by simp [finish, h, h'])
  | cons frame rest ih =>
    intro trailers s
    cases frame with
    | broken e => exact .inr ⟨.transport endpoint e, _, _, _, .broken e rest s⟩
    | trailers fields =>
      rw [stream_trailers]
      rcases ih (some fields) s with hok | ⟨e, before, after, s', h⟩
      · exact .inl hok
      · exact .inr ⟨e, _, _, _, .trailers fields h⟩
    | data bytes =>
      cases bytes with
      | nil =>
        rw [stream_empty]
        rcases ih trailers s with hok | ⟨e, before, after, s', h⟩
        · exact .inl hok
        · exact .inr ⟨e, _, _, _, .empty h⟩
      | cons b bytes =>
        rw [stream_data]
        cases hf : Decoder.feed sink (b :: bytes) s with
        | mk r t =>
          cases r with
          | error e => exact .inr ⟨e, _, _, _, .undecodable hf rest⟩
          | ok u =>
            rcases ih trailers t with hok | ⟨e, before, after, s', h⟩
            · exact .inl hok
            · exact .inr ⟨e, _, _, _, .decoded hf h⟩

/-- What is looked through for trailers after a failure: the frames left, as far as draining reads
them. Nothing is read of a body that broke. -/
theorem drain_after (endpoint : String) (trailers : Option Fields) {before after : List Frame}
    {finished : Bool}
    (h : if finished then before.all (!·.isBreak) = false ∨ after = []
      else before.all (!·.isBreak) = true) :
    ∃ drained rest finished', after = drained ++ rest ∧
      (Body.drain ⟨endpoint, after, trailers, finished⟩).2 =
        ⟨endpoint, rest, lastTrailers trailers drained, finished'⟩ ∧
      (∀ pre frame post, after = pre ++ frame :: post →
        (pre.length < drained.length ↔
          (before ++ pre).all (!·.isBreak) ∧ dataSize pre ≤ Body.drainLimit)) ∧
      ∀ init last, drained = init ++ [last] → dataSize init ≤ Body.drainLimit := by
  cases finished with
  | false =>
    obtain ⟨drained, rest, finished', rfl, hd, hb⟩ :=
      Body.drainFrom_spec endpoint Body.drainLimit after 0 trailers
    have hopen : before.all (!·.isBreak) = true := h
    refine ⟨drained, rest, finished', rfl, hb, ?_, ?_⟩
    · intro pre frame post heq
      rw [List.all_append, hopen, Bool.true_and, hd pre frame post heq, Nat.zero_add]
    · intro init last hlast
      simpa using hd.size_init hlast
  | true =>
    -- the end of a body absorbs, so no frame is read though some may be left after a break
    refine ⟨[], after, true, rfl, Body.drain_finished endpoint trailers after, ?_, by simp⟩
    intro pre frame post heq
    rcases h with hbroken | hend
    · simp [List.all_append, hbroken]
    · subst hend
      simp at heq

/-- Where trailers are not looked for, or the output failed, a failure is told as it is. -/
theorem explain_quiet {recover : Bool} {e : ExportError} (h : recover = false ∨ e.kind = .sink)
    (b : Body) : explain recover e b = ([], e, b) := by
  have hquiet : (!recover || e.kind = .sink) = true := by simpa using h
  rw [explain, if_pos hquiet]

theorem explain_loud {recover : Bool} {e : ExportError} (h : ¬(recover = false ∨ e.kind = .sink))
    (b : Body) :
    (explain recover e b).2.1 =
        (match Diagnostic.ofBody? b.drain.2 with
          | some d => .serverReported d e
          | none => e) ∧
      (explain recover e b).2.2 = b.drain.2 := by
  have hloud : ¬(!recover || e.kind = .sink) = true := by simpa using h
  rw [explain, if_neg hloud]
  cases hd : Diagnostic.ofBody? b.drain.2 <;> simp [hd, ExportError.withDiagnostic]

/-- **Recovery from trailers is exact.** A transfer fails exactly if something in it goes wrong, and
then neither the decoder nor the sink is touched again. If trailers are not looked for, or the
output failed, that failure is reported and no further frame is read. Otherwise the failure is
reported together with what the last trailers that were read say, if they say anything; after the
failure, a frame is read exactly if nothing before it broke and the octets between the failure and
the frame keep within the limit, so that all but the last frame discarded do. -/
theorem run_reports_firstFailure (recover : Bool) (endpoint : String) (frames : List Frame)
    (s : δ × σ) :
    let t := run recover sink (Body.ofFrames endpoint frames) s
    (t.result = .ok () ↔
      ¬∃ e before after s', FirstFailure sink endpoint frames s e before after s') ∧
    ∀ e before after s', FirstFailure sink endpoint frames s e before after s' →
      frames = before ++ after ∧ (t.decoder, t.sink) = s' ∧
      if recover = false ∨ e.kind = .sink then t.result = .error e ∧ t.body.frames = after
      else
        ∃ drained rest, after = drained ++ rest ∧ t.body.frames = rest ∧
          t.result = .error
            (match (lastTrailers none (before ++ drained)).bind Diagnostic.ofTrailers? with
              | some d => .serverReported d e
              | none => e) ∧
          (∀ pre frame post, after = pre ++ frame :: post →
            (pre.length < drained.length ↔
              (before ++ pre).all (!·.isBreak) ∧ dataSize pre ≤ Body.drainLimit)) ∧
          ∀ init last, drained = init ++ [last] → dataSize init ≤ Body.drainLimit := by
  intro t
  have hfails : ∀ e before after s', FirstFailure sink endpoint frames s e before after s' →
      ∃ finished,
        let told := explain recover e ⟨endpoint, after, lastTrailers none before, finished⟩
        t = ⟨.error told.2.1, told.1, told.2.2, s'.1, s'.2⟩ ∧
        (if finished then before.all (!·.isBreak) = false ∨ after = []
          else before.all (!·.isBreak) = true) := by
    intro e before after s' h
    obtain ⟨finished, hs, hf⟩ := stream_of_firstFailure sink h none
    refine ⟨finished, ?_, hf⟩
    simp only [t, run, Body.ofFrames, hs]
  refine ⟨⟨?_, ?_⟩, ?_⟩
  · rintro hok ⟨e, before, after, s', h⟩
    obtain ⟨finished, ht, -⟩ := hfails e before after s' h
    rw [ht] at hok
    cases hok
  · intro hnone
    rcases stream_ok_or_firstFailure sink endpoint frames none s with hok | hfail
    · cases hs : stream sink ⟨endpoint, frames, none, false⟩ s with
      | mk r rest =>
        rw [hs] at hok
        cases hok
        simp [t, run, Body.ofFrames, hs]
    · exact absurd hfail hnone
  · intro e before after s' h
    obtain ⟨finished, ht, hf⟩ := hfails e before after s' h
    rw [ht]
    refine ⟨h.frames_eq, rfl, ?_⟩
    by_cases hquiet : recover = false ∨ e.kind = .sink
    · have hexplain : (!recover || e.kind = .sink) = true := by simpa using hquiet
      rw [if_pos hquiet]
      simp [explain, hexplain]
    · have hexplain : (!recover || e.kind = .sink) = false := by simpa using hquiet
      obtain ⟨drained, rest, finished', hafter, hdrain, hread, hinit⟩ :=
        drain_after endpoint (lastTrailers none before) hf
      simp only [if_neg hquiet, explain, hexplain, Bool.false_eq_true, if_false]
      refine ⟨drained, rest, hafter, by rw [hdrain], ?_, hread, hinit⟩
      rw [hdrain, lastTrailers_append, Diagnostic.ofBody?]
      cases (lastTrailers (lastTrailers none before) drained).bind Diagnostic.ofTrailers? <;> rfl

end Transfer
end RdfExport
