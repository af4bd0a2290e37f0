import RdfExport.Proofs.Emission
import RdfExport.Proofs.Recovery

/-!
# RdfExport.Proofs.Reading

What the frames of a body say, apart from any sink: the records in their data taken together, and
then the failure that ends them, if there is one. A transfer offers these records to the sink, in
order, and finishes the sink only after all of them.

* `dataOf`, `break?`: what matters of the frames of a body.
* `Decoder.decoding`: what octets say as a whole.
* `Transfer.reading`: what frames say.
* `stream_settled`: a transfer is the reading of its frames, and then the end of the sink.
-/

namespace RdfExport

namespace Http

/-- The data of frames up to the first break, taken together. -/
def dataOf (frames : List Frame) : Bytes := (frames.takeWhile (!·.isBreak)).flatMap Frame.octets

/-- The failure of the first frame that broke. -/
def break? : List Frame → Option IoError
  | [] => none
  | .broken e :: _ => some e
  | .data _ :: rest => break? rest
  | .trailers _ :: rest => break? rest

@[simp] theorem dataOf_nil : dataOf [] = [] := rfl

@[simp] theorem dataOf_broken (e : IoError) (rest : List Frame) :
    dataOf (.broken e :: rest) = [] := rfl

@[simp] theorem dataOf_data (bytes : Bytes) (rest : List Frame) :
    dataOf (.data bytes :: rest) = bytes ++ dataOf rest := rfl

@[simp] theorem dataOf_trailers (fields : Fields) (rest : List Frame) :
    dataOf (.trailers fields :: rest) = dataOf rest := rfl

theorem break?_eq_none {frames : List Frame} :
    break? frames = none ↔ frames.all (!·.isBreak) = true := by
  induction frames with
  | nil => simp [break?]
  | cons frame rest ih => cases frame <;> simp [break?, Frame.isBreak, ih]

theorem dataOf_eq_flatMap {frames : List Frame} (h : break? frames = none) :
    dataOf frames = frames.flatMap Frame.octets := by
  induction frames with
  | nil => rfl
  | cons frame rest ih =>
    cases frame with
    | data bytes =>
      rw [dataOf_data, ih h]
      rfl
    | trailers fields =>
      rw [dataOf_trailers, ih h]
      rfl
    | broken e => cases h

end Http

namespace Decoder

variable {δ : Type} [Decoder δ]

/-- What octets say as a whole to a decoder. -/
def decoding (bytes : Bytes) (d : δ) : Emission δ := (fed bytes d).andThen closed

end Decoder

namespace Transfer

open Http Decoder

variable {δ σ : Type} [Decoder δ]

/-- What follows the data of frames: the break, or else the end. -/
def readingEnd (endpoint : String) (frames : List Frame) (d : δ) : Emission δ :=
  match break? frames with
  | some e => ⟨[], .error (.transport endpoint e)⟩
  | none => closed d

/-- What the frames of a body say to a decoder. -/
def reading (endpoint : String) (frames : List Frame) (d : δ) : Emission δ :=
  (fed (dataOf frames) d).andThen (readingEnd endpoint frames)

/-- A body that did not break says what its data says. -/
theorem reading_eq_decoding {frames : List Frame} (h : break? frames = none) (endpoint : String)
    (d : δ) : reading endpoint frames d = decoding (frames.flatMap Frame.octets) d := by
  have hend : readingEnd endpoint frames = closed (δ := δ) := by
    funext d
    simp only [readingEnd, h]
  rw [reading, hend, dataOf_eq_flatMap h, decoding]

theorem reading_trailers (endpoint : String) (fields : Fields) (rest : List Frame) (d : δ) :
    reading endpoint (.trailers fields :: rest) d = reading endpoint rest d := rfl

theorem break?_of_reading_ok {endpoint : String} {frames : List Frame} {d d' : δ}
    (h : (reading endpoint frames d).ending = .ok d') : break? frames = none := by
  unfold reading at h
  cases hfed : (fed (dataOf frames) d).ending with
  | error x =>
    rw [Emission.andThen_error hfed] at h
    cases h
  | ok d₁ =>
    rw [Emission.andThen_ok hfed] at h
    cases hb : break? frames with
    | none => rfl
    | some e =>
      simp only [readingEnd, hb] at h
      cases h

/-- The records of frames are among those of their data, first ones first. -/
theorem reading_records_prefix (endpoint : String) (frames : List Frame) (d : δ) :
    (reading endpoint frames d).records <+: (decoding (dataOf frames) d).records := by
  cases hb : break? frames with
  | none =>
    simp only [reading_eq_decoding hb, dataOf_eq_flatMap hb, List.prefix_rfl]
  | some e =>
    unfold reading decoding
    cases hd : (fed (dataOf frames) d).ending with
    | error x =>
      simp only [Emission.andThen_error hd, List.prefix_rfl]
    | ok d' =>
      rw [Emission.andThen_ok hd, Emission.andThen_ok hd]
      simp only [readingEnd, hb, List.append_nil]
      exact List.prefix_append _ _

variable [LawfulDecoder δ] {d : δ} (endpoint : String)

theorem reading_nil (hd : LawfulDecoder.Ready d) : reading endpoint [] d = closed d := by
  rw [reading, dataOf_nil, fed_nil hd, Emission.andThen_ok rfl]
  rfl

theorem reading_broken (hd : LawfulDecoder.Ready d) (e : IoError) (rest : List Frame) :
    reading endpoint (.broken e :: rest) d = ⟨[], .error (.transport endpoint e)⟩ := by
  rw [reading, dataOf_broken, fed_nil hd, Emission.andThen_ok rfl]
  rfl

theorem reading_data (hd : LawfulDecoder.Ready d) (bytes : Bytes) (rest : List Frame) :
    reading endpoint (.data bytes :: rest) d =
      (fed bytes d).andThen (reading endpoint rest) := by
  rw [reading, dataOf_data, fed_append bytes _ hd, Emission.andThen_assoc]
  rfl

theorem reading_counts {frames : List Frame} {d' : δ}
    (h : (reading endpoint frames d).ending = .ok d') :
    Decoder.records d' = Decoder.records d + (reading endpoint frames d).records.length := by
  unfold reading at h ⊢
  cases hfed : (fed (dataOf frames) d).ending with
  | error e =>
    rw [Emission.andThen_error hfed] at h
    cases h
  | ok d₁ =>
    rw [Emission.andThen_ok hfed] at h ⊢
    cases hb : break? frames with
    | some e =>
      simp only [readingEnd, hb] at h
      cases h
    | none =>
      simp only [readingEnd, hb] at h ⊢
      rw [(closed_emits d₁).counts d' h, (fed_emits (dataOf frames) d).counts d₁ hfed,
        List.length_append, Nat.add_assoc]

def finishSink (sink : Sink σ) (d : δ) (w : σ) : Decoded δ σ :=
  match sink.finish w with
  | (.ok (), w) => (.ok d, w)
  | (.error e, w) => (.error e, w)

theorem finish_settled (sink : Sink σ) (d : δ) (w : σ) :
    (finish sink (d, w)).settled =
      ((closed d).into sink w).andThen fun d w => finishSink sink d w := by
  rw [← close_into]
  cases hclose : Decoder.close sink (d, w) with
  | mk r s =>
    obtain ⟨d', w'⟩ := s
    cases r with
    | error e => simp [finish, hclose, Decoded.andThen]
    | ok u =>
      cases hfinish : sink.finish w' with
      | mk r w'' => cases r <;> simp [finish, finishSink, hclose, hfinish, Decoded.andThen]

/-- A transfer of frames is their reading and then the end of the sink, however the data was cut
into frames. -/
theorem stream_settled (sink : Sink σ) (frames : List Frame) (trailers : Option Fields)
    (hd : LawfulDecoder.Ready d) (w : σ) :
    let t := stream sink ⟨endpoint, frames, trailers, false⟩ (d, w)
    Outcome.settled (t.1, t.2.2) =
      ((reading endpoint frames d).into sink w).andThen fun d w => finishSink sink d w := by
  induction frames generalizing trailers d w with
  | nil =>
    simp only [stream_nil, reading_nil endpoint hd]
    exact finish_settled sink d w
  | cons frame rest ih =>
    cases frame with
    | broken e =>
      simp only [stream_broken, reading_broken endpoint hd]
      rfl
    | trailers fields =>
      simp only [stream_trailers, reading_trailers]
      exact ih (some fields) hd w
    | data bytes =>
      cases bytes with
      | nil =>
        rw [reading_data endpoint hd, fed_nil hd, Emission.andThen_ok rfl]
        simp only [stream_empty, List.nil_append]
        exact ih trailers hd w
      | cons b bytes =>
        rw [reading_data endpoint hd, Emission.into_andThen, ← feed_into]
        simp only [stream_data]
        cases hf : Decoder.feed sink (b :: bytes) (d, w) with
        | mk r s =>
          obtain ⟨d', w'⟩ := s
          cases r with
          | error e => rfl
          | ok u => exact ih trailers (LawfulDecoder.feed_ready hd hf) w'

end Transfer
end RdfExport
