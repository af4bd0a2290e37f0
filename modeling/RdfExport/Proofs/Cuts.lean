import RdfExport.Proofs.Delivery
import RdfExport.Proofs.Statements

/-!
# RdfExport.Proofs.Cuts

Where a graph is cut into chunks does not show: two ways to cut the same octets deliver the same
statements, count them alike and end alike, and what was delivered after some of the chunks is the
beginning of it.

* `run_counted`: a decoder of graphs counts what was delivered.
* `cuts_do_not_show`: two ways to cut a body.
-/

namespace RdfExport

theorem Sink.accept_recorded {σ : Type} {sink : Sink σ} {record : Record} {s s' : σ × List Record}
    {r : Except ExportError Unit} (h : sink.recorded.accept record s = (r, s')) :
    s'.2 = match r with
      | .ok () => s.2 ++ [record]
      | .error _ => s.2 := by
  simp only [recorded] at h
  cases ha : sink.accept record s.1 with
  | mk r' w' => cases r' <;> simp only [ha] at h <;> cases h <;> rfl

namespace GraphDecoder

open NTriples

variable {σ : Type}

theorem run_counted (sink : Sink σ) (bytes : Bytes) (d : GraphDecoder) (s : σ × List Record) :
    Decoder.Counted (d, s) (run sink.recorded bytes d s).2 := by
  fun_induction run sink.recorded bytes d s with
  | case1 => rfl
  | case2 d s t bytes hr hf s' haccept ih =>
    have hs := Sink.accept_recorded haccept
    simp only [Decoder.Counted, Decoder.records] at ih ⊢
    simp only [wfParam, hs, List.length_append, List.length_singleton] at ih ⊢
    omega
  | case3 d s t bytes hr hf e s' haccept =>
    have hs := Sink.accept_recorded haccept
    simp only [Decoder.Counted, Decoder.records, hs]
  | case4 d s b rest hr hf size expect ready faults hm ih => exact ih
  | case5 => rfl
  | case6 d s e hr he hf hended ih => exact ih
  | case7 => rfl
  | case8 => rfl

instance : CountingDecoder GraphDecoder where
  feed_counted sink chunk s := run_counted sink (s.1.buffer ++ chunk) s.1 s.2
  close_counted sink s := run_counted sink s.1.buffer { s.1 with ended := true } s.2

theorem readOn_records (mode : Mode) (sink : Sink σ) (chunks : List Bytes) (w : σ) :
    let o := Decoder.readOn sink.recorded chunks (initial mode, w, [])
    Decoder.records o.2.1 = o.2.2.2.length := by
  have h := Decoder.readOn_counted sink chunks (initial mode, w, [])
  have hnone : Decoder.records (initial mode) = 0 := rfl
  simp only [Decoder.Counted, List.length_nil, hnone, Nat.zero_add, Nat.add_zero] at h
  exact h

/-- **Cuts do not show.** Two ways to cut the same octets into chunks end alike: both well, with the
same refusal of the sink or with the same fault; the sink is left in the same state and has
accepted the same records in the same order, and as many are counted. What it has accepted after
some of the chunks is the beginning of that. -/
theorem cuts_do_not_show (mode : Mode) (sink : Sink σ) (w : σ) {chunks chunks' : List Bytes}
    (h : chunks.flatten = chunks'.flatten) :
    let o := Decoder.readOn sink.recorded chunks (initial mode, w, [])
    let o' := Decoder.readOn sink.recorded chunks' (initial mode, w, [])
    o.1 = o'.1 ∧ o.2.2 = o'.2.2 ∧ Decoder.records o.2.1 = Decoder.records o'.2.1 ∧
      ∀ n, (Decoder.feedAll sink.recorded (chunks.take n) (initial mode, w, [])).2.2.2 <+:
        o.2.2.2 := by
  intro o o'
  have hready : LawfulDecoder.Ready (initial mode) := initial_ready mode
  have hsettled : o.settled = o'.settled := by
    rw [Decoder.readOn_settled _ _ hready, Decoder.readOn_settled _ _ hready, h]
  have hresult : o.1 = o'.1 := by
    rw [Outcome.result_eq o, Outcome.result_eq o', hsettled]
  have hsink : o.2.2 = o'.2.2 := by
    rw [← Outcome.settled_snd, ← Outcome.settled_snd, hsettled]
  refine ⟨hresult, hsink, ?_, ?_⟩
  · rw [readOn_records, readOn_records]
    exact congrArg (fun s => s.2.length) hsink
  · intro n
    have := Decoder.feedAll_delivered sink (chunks.take n) (chunks.drop n) (initial mode, w, [])
    rwa [List.take_append_drop] at this

/-- A statement cut inside a label, inside a character and between CR and LF. -/
theorem cuts_do_not_show_in_tokens :
    let chunks : List Bytes :=
      [Utf8.ofString "_:", Utf8.ofString "a <urn:p> \"", [0xC3], [0xA9],
        Utf8.ofString "\"@fr.\r", [], Utf8.ofString "\n"]
    let chunks' : List Bytes := [Utf8.ofString "_:a <urn:p> \"é\"@f", Utf8.ofString "r.\r\n"]
    chunks.flatten = chunks'.flatten ∧
      let o := Decoder.readOn Sink.collect.recorded chunks (initial .strict, [], [])
      let o' := Decoder.readOn Sink.collect.recorded chunks' (initial .strict, [], [])
      o.1 = o'.1 ∧ o.2.2 = o'.2.2 ∧ Decoder.records o.2.1 = Decoder.records o'.2.1 ∧
        ∀ n, (Decoder.feedAll Sink.collect.recorded (chunks.take n)
          (initial .strict, [], [])).2.2.2 <+: o.2.2.2 := by
  intro chunks chunks'
  have h : chunks.flatten = chunks'.flatten := by decide
  exact ⟨h, cuts_do_not_show .strict Sink.collect [] h⟩

end GraphDecoder
end RdfExport
