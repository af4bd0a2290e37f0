import RdfExport.Proofs.Reading

/-!
# RdfExport.Proofs.Delivery

A body taken in chunk by chunk and then its end, up to the first failure, and what the sink has got
by then.

* `Decoder.feedAll`, `Decoder.readOn`: the chunks, without and with the end.
* `readOn_settled`: a body says what its octets say as a whole.
* `Sink.recorded`: the same sink, which also keeps what it has accepted.
* `feedAll_delivered`: what was delivered after some chunks stays, and more comes after it.
* `CountingDecoder`: a decoder that counts what was delivered.
-/

namespace RdfExport

variable {δ σ : Type}

theorem Outcome.settled_snd (o : Outcome (δ × σ)) : o.settled.2 = o.2.2 := by
  obtain ⟨r, d, w⟩ := o
  cases r <;> rfl

theorem Outcome.result_eq (o : Outcome (δ × σ)) : o.1 = o.settled.1.map fun _ => () := by
  obtain ⟨r, d, w⟩ := o
  cases r <;> rfl

namespace Decoder

/-- Takes in chunks in order, up to the first failure. -/
def feedAll [Decoder δ] (sink : Sink σ) : List Bytes → δ × σ → Outcome (δ × σ)
  | [], s => (.ok (), s)
  | chunk :: rest, s =>
    match feed sink chunk s with
    | (.ok (), s) => feedAll sink rest s
    | failed => failed

/-- Takes in chunks and then the end, up to the first failure. -/
def readOn [Decoder δ] (sink : Sink σ) (chunks : List Bytes) (s : δ × σ) : Outcome (δ × σ) :=
  match feedAll sink chunks s with
  | (.ok (), s) => close sink s
  | failed => failed

theorem feedAll_append [Decoder δ] (sink : Sink σ) (a b : List Bytes) (s : δ × σ) :
    feedAll sink (a ++ b) s =
      match feedAll sink a s with
      | (.ok (), s) => feedAll sink b s
      | failed => failed := by
  induction a generalizing s with
  | nil => rfl
  | cons chunk rest ih =>
    simp only [List.cons_append, feedAll]
    cases feed sink chunk s with
    | mk r s' =>
      cases r with
      | error e => rfl
      | ok u => exact ih s'

/-- A body whose one chunk fails is not read further. -/
theorem readOn_failed [Decoder δ] {sink : Sink σ} {chunk : Bytes} {s : δ × σ} {e : ExportError}
    {w : σ} (h : (feed sink chunk s).settled = (.error e, w)) :
    (readOn sink [chunk] s).settled = (.error e, w) := by
  simp only [readOn, feedAll]
  cases hfeed : feed sink chunk s with
  | mk r s' =>
    rw [hfeed] at h
    cases r with
    | error f => exact h
    | ok u => cases h

variable [Decoder δ] [LawfulDecoder δ]

theorem feedAll_settled (sink : Sink σ) (chunks : List Bytes) {d : δ}
    (hd : LawfulDecoder.Ready d) (w : σ) :
    (feedAll sink chunks (d, w)).settled = (fed chunks.flatten d).into sink w := by
  induction chunks generalizing d w with
  | nil => rw [List.flatten_nil, fed_nil hd]; rfl
  | cons chunk rest ih =>
    rw [List.flatten_cons, fed_append _ _ hd, Emission.into_andThen, ← feed_into]
    simp only [feedAll]
    cases hfeed : feed sink chunk (d, w) with
    | mk r s =>
      cases r with
      | error e => rfl
      | ok u => exact ih (LawfulDecoder.feed_ready hd hfeed) s.2

/-- However a body was cut into chunks, it says what its octets say as a whole. -/
theorem readOn_settled (sink : Sink σ) (chunks : List Bytes) {d : δ}
    (hd : LawfulDecoder.Ready d) (w : σ) :
    (readOn sink chunks (d, w)).settled = (decoding chunks.flatten d).into sink w := by
  rw [decoding, Emission.into_andThen, ← feedAll_settled sink chunks hd]
  simp only [readOn]
  cases feedAll sink chunks (d, w) with
  | mk r s =>
    cases r with
    | error e => rfl
    | ok u => exact close_into sink s.1 s.2

/-- A body whose octets are all read offers its records, and leaves what they leave. -/
theorem readOn_of_decoding (sink : Sink σ) {chunks : List Bytes} {d d' : δ} {records : List Record}
    (hd : LawfulDecoder.Ready d) (w : σ) (h : decoding chunks.flatten d = ⟨records, .ok d'⟩) :
    let o := readOn sink chunks (d, w)
    (o.1, o.2.2) = sink.offer records w ∧ (o.1 = .ok () → o.2.1 = d') := by
  intro o
  have hsettled : o.settled = Emission.into ⟨records, .ok d'⟩ sink w := by
    rw [readOn_settled sink chunks hd, h]
  simp only [Emission.into] at hsettled
  generalize o = o at hsettled
  obtain ⟨r, left, w'⟩ := o
  cases hoffer : sink.offer records w with
  | mk r' w'' =>
    rw [hoffer] at hsettled
    cases r <;> cases r' <;> cases hsettled
    · exact ⟨rfl, fun hok => by cases hok⟩
    · exact ⟨rfl, fun _ => rfl⟩

end Decoder

/-! ## What was delivered -/

def Sink.recorded (sink : Sink σ) : Sink (σ × List Record) where
  accept record s :=
    match sink.accept record s.1 with
    | (.ok (), w) => (.ok (), w, s.2 ++ [record])
    | (.error e, w) => (.error e, w, s.2)
  finish s := ((sink.finish s.1).1, (sink.finish s.1).2, s.2)

theorem Sink.offer_recorded (sink : Sink σ) (records : List Record) (s : σ × List Record) :
    s.2 <+: (sink.recorded.offer records s).2.2 := by
  induction records generalizing s with
  | nil => exact List.prefix_rfl
  | cons record rest ih =>
    simp only [offer]
    cases h : sink.recorded.accept record s with
    | mk r s' =>
      have hs : s.2 <+: s'.2 := by
        simp only [recorded] at h
        cases ha : sink.accept record s.1 with
        | mk r' w' => cases r' <;> simp only [ha] at h <;> cases h <;> simp
      cases r with
      | error e => exact hs
      | ok u => exact hs.trans (ih s')

theorem Emission.into_recorded (em : Emission δ) (sink : Sink σ) (s : σ × List Record) :
    s.2 <+: (em.into sink.recorded s).2.2 := by
  have h := sink.offer_recorded em.records s
  simp only [into]
  cases hoffer : sink.recorded.offer em.records s with
  | mk r s' => cases r <;> simpa [hoffer] using h

namespace Decoder

variable [Decoder δ] [LawfulDecoder δ] (sink : Sink σ)

theorem feedAll_recorded (chunks : List Bytes) (s : δ × σ × List Record) :
    s.2.2 <+: (feedAll sink.recorded chunks s).2.2.2 := by
  induction chunks generalizing s with
  | nil => exact List.prefix_rfl
  | cons chunk rest ih =>
    have h := (fed chunk s.1).into_recorded sink s.2
    rw [← feed_into, Outcome.settled_snd] at h
    simp only [feedAll]
    cases hfeed : feed sink.recorded chunk s with
    | mk r s' =>
      rw [hfeed] at h
      cases r with
      | error e => exact h
      | ok u => exact h.trans (ih s')

/-- What was delivered after the first chunks is the beginning of what is delivered in the end. -/
theorem feedAll_delivered (first rest : List Bytes) (s : δ × σ × List Record) :
    (feedAll sink.recorded first s).2.2.2 <+:
      (readOn sink.recorded (first ++ rest) s).2.2.2 := by
  simp only [readOn, feedAll_append]
  cases hfirst : feedAll sink.recorded first s with
  | mk r s₁ =>
    cases r with
    | error e => exact List.prefix_rfl
    | ok u =>
      have hrest := feedAll_recorded sink rest s₁
      simp only []
      cases hs : feedAll sink.recorded rest s₁ with
      | mk r' s₂ =>
        rw [hs] at hrest
        cases r' with
        | error e => exact hrest
        | ok u' =>
          have hclose := (closed s₂.1).into_recorded sink s₂.2
          rw [← close_into, Outcome.settled_snd] at hclose
          exact hrest.trans hclose

end Decoder

namespace Decoder

/-- That what a decoder has counted between two states is what was delivered. -/
def Counted [Decoder δ] (s s' : δ × σ × List Record) : Prop :=
  records s'.1 + s.2.2.length = records s.1 + s'.2.2.length

theorem Counted.trans [Decoder δ] {s s' s'' : δ × σ × List Record} (h : Counted s s')
    (h' : Counted s' s'') : Counted s s'' := by
  unfold Counted at *
  omega

end Decoder

/-- A decoder that counts what was delivered, also where it fails. -/
class CountingDecoder (δ : Type) [Decoder δ] : Prop where
  feed_counted {σ : Type} (sink : Sink σ) (chunk : Bytes) (s : δ × σ × List Record) :
    Decoder.Counted s (Decoder.feed sink.recorded chunk s).2
  close_counted {σ : Type} (sink : Sink σ) (s : δ × σ × List Record) :
    Decoder.Counted s (Decoder.close sink.recorded s).2

namespace Decoder

variable [Decoder δ] [CountingDecoder δ] (sink : Sink σ)

theorem feedAll_counted (chunks : List Bytes) (s : δ × σ × List Record) :
    Counted s (feedAll sink.recorded chunks s).2 := by
  induction chunks generalizing s with
  | nil => rfl
  | cons chunk rest ih =>
    have h := CountingDecoder.feed_counted sink chunk s
    simp only [feedAll]
    cases hfeed : feed sink.recorded chunk s with
    | mk r s' =>
      rw [hfeed] at h
      cases r with
      | error e => exact h
      | ok u => exact h.trans (ih s')

theorem readOn_counted (chunks : List Bytes) (s : δ × σ × List Record) :
    Counted s (readOn sink.recorded chunks s).2 := by
  have h := feedAll_counted sink chunks s
  simp only [readOn]
  cases hfeed : feedAll sink.recorded chunks s with
  | mk r s' =>
    rw [hfeed] at h
    cases r with
    | error e => exact h
    | ok u => exact h.trans (CountingDecoder.close_counted sink s')

end Decoder
end RdfExport
