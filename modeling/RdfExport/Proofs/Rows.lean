import RdfExport.Proofs.Chunks
import RdfExport.Proofs.Emission

/-!
# RdfExport.Proofs.Rows

A decoder of result tables emits one record for each row, and is ready for a cut whenever it holds
the octets of one incomplete line and has searched all of them for an LF.

* `takeLine_emits`, `takeLines_emits`: what lines emit.
* `LawfulDecoder TupleDecoder`: what chunks and the end emit, and that cuts do not show.
-/

namespace RdfExport
namespace TupleDecoder

open Rdf

/-- A state between two chunks. -/
def Ready (d : TupleDecoder) : Prop := endsLine ∉ d.pending ∧ d.scanned = d.pending.length

theorem Ready.eq_hold {d : TupleDecoder} (hd : d.Ready) :
    d = d.hold d.pending d.pending.length := by
  rw [← hd.2]
  rfl

theorem ready_hold {p : Bytes} (hp : endsLine ∉ p) (d : TupleDecoder) :
    (d.hold p p.length).Ready := ⟨hp, rfl⟩

theorem initial_ready : initial.Ready := ⟨by simp [initial], rfl⟩

theorem takeLine_emits (raw : Bytes) (d : TupleDecoder) :
    ∃ em, Emits d.rows (fun _ sink w => takeLine sink raw (d, w)) em := by
  cases htext : readText (d.line + 1) raw with
  | error f =>
    exact ⟨_, .failure fun _ _ _ => by simp only [takeLine, htext]; rfl⟩
  | ok text =>
    cases hvars : d.header with
    | none =>
      cases hheader : readHeader text with
      | error f =>
        exact ⟨_, .failure fun _ _ _ => by simp only [takeLine, htext, hvars, hheader]; rfl⟩
      | ok vars =>
        exact ⟨_, .quiet (d := { d with line := d.line + 1, header := some vars }) rfl
          fun _ _ _ => by simp only [takeLine, htext, hvars, hheader]⟩
    | some vars =>
      cases hrow : readRow vars (d.line + 1) text with
      | error f =>
        exact ⟨_, .failure fun _ _ _ => by simp only [takeLine, htext, hvars, hrow]; rfl⟩
      | ok row =>
        cases row with
        | none =>
          exact ⟨_, .quiet (d := { d with line := d.line + 1 }) rfl
            fun _ _ _ => by simp only [takeLine, htext, hvars, hrow]⟩
        | some row =>
          refine ⟨⟨[.row row], .ok { d with line := d.line + 1, rows := d.rows + 1 }⟩, ?_, ?_⟩
          · intro σ sink w
            simp only [takeLine, htext, hvars, hrow, deliver, Emission.into, Sink.offer]
            cases sink.accept (.row row) w with
            | mk r w' => cases r <;> rfl
          · intro d' hd'
            cases hd'
            rfl

theorem takeLines_emits (lines : List Bytes) (d : TupleDecoder) :
    ∃ em, Emits d.rows (fun _ sink w => takeLines sink lines (d, w)) em := by
  induction lines generalizing d with
  | nil => exact ⟨_, .quiet rfl fun _ _ _ => rfl⟩
  | cons raw rest ih =>
    obtain ⟨em, hem⟩ := takeLine_emits raw d
    refine hem.andThen (k := fun d _ sink w => takeLines sink rest (d, w)) ih ?_
    intro σ sink w
    simp only [takeLines]
    cases takeLine sink raw (d, w) with
    | mk r s => cases r <;> rfl

theorem feed_emits (chunk : Bytes) (d : TupleDecoder) :
    ∃ em, Emits d.rows (fun _ sink w => feed sink chunk (d, w)) em := by
  obtain ⟨em, hem⟩ :=
    takeLines_emits (splitLinesFrom d.scanned (d.pending ++ chunk)).1 { d with pending := [] }
  -- what the lines leave holds the incomplete last line
  let tail := (splitLinesFrom d.scanned (d.pending ++ chunk)).2
  refine hem.andThen (k := fun d _ _ w => (.ok (), d.hold tail tail.length, w)) ?_ ?_
  · exact fun d => ⟨_, .quiet (d := d.hold tail tail.length) rfl fun _ _ _ => rfl⟩
  · intro σ sink w
    simp only [feed]
    cases takeLines sink (splitLinesFrom d.scanned (d.pending ++ chunk)).1
        ({ d with pending := [] }, w) with
    | mk r s => cases r <;> rfl

theorem takeTail_emits (d : TupleDecoder) :
    ∃ em, Emits d.rows (fun _ sink w => takeTail sink (d, w)) em := by
  by_cases hp : d.pending.isEmpty = true
  · exact ⟨_, .quiet rfl fun _ _ _ => by simp only [takeTail, if_pos hp]⟩
  · have htail : (fun σ (sink : Sink σ) w => takeTail sink (d, w)) =
        fun σ (sink : Sink σ) w => takeLine sink d.pending (d.hold [] 0, w) := by
      funext σ sink w
      simp only [takeTail, if_neg hp]
      rfl
    rw [htail]
    exact takeLine_emits d.pending (d.hold [] 0)

theorem close_emits (d : TupleDecoder) :
    ∃ em, Emits d.rows (fun _ sink w => close sink (d, w)) em := by
  obtain ⟨em, hem⟩ := takeTail_emits d
  refine hem.andThen (k := fun d _ _ w =>
    if d.header.isNone then (.error (.protocol .missingHeader), d, w) else (.ok (), d, w)) ?_ ?_
  · intro d
    by_cases hvars : d.header.isNone = true
    · exact ⟨_, .failure fun _ _ _ => if_pos hvars⟩
    · exact ⟨_, .quiet rfl fun _ _ _ => if_neg hvars⟩
  · intro σ sink w
    simp only [close]
    cases takeTail sink (d, w) with
    | mk r s => cases r <;> rfl

theorem feed_nil {d : TupleDecoder} (hd : d.Ready) {σ : Type} (sink : Sink σ) (w : σ) :
    feed sink [] (d, w) = (.ok (), d, w) := by
  conv => lhs; rw [hd.eq_hold]
  rw [feed_hold sink hd.1, List.append_nil, splitLines_eq_self hd.1]
  simp only [takeLines]
  rw [← hd.eq_hold]

/-- Where chunks are cut does not matter to the lines that they complete. -/
theorem feed_append (a b : Bytes) {d : TupleDecoder} (hd : d.Ready) {σ : Type} (sink : Sink σ)
    (w : σ) :
    (feed sink (a ++ b) (d, w)).settled =
      (feed sink a (d, w)).settled.andThen fun d w => (feed sink b (d, w)).settled := by
  rw [hd.eq_hold, feed_hold sink hd.1, feed_hold sink hd.1, ← List.append_assoc,
    splitLines_append (d.pending ++ a) b, takeLines_append]
  cases takeLines sink (splitLines (d.pending ++ a)).1 (d, w) with
  | mk r s =>
    cases r with
    | error e => rfl
    | ok u =>
      simp only [Outcome.settled_ok, Decoded.andThen]
      rw [feed_hold sink (splitLines_tail_not_mem (d.pending ++ a))]
      -- the two differ only in what a failed decoder holds
      cases takeLines sink (splitLines ((splitLines (d.pending ++ a)).2 ++ b)).1 (s.1, s.2) with
      | mk r s' => cases r <;> rfl

theorem feed_ready {chunk : Bytes} {d d' : TupleDecoder} (hd : d.Ready) {σ : Type} {sink : Sink σ}
    {w w' : σ} (h : feed sink chunk (d, w) = (.ok (), d', w')) : d'.Ready := by
  rw [hd.eq_hold, feed_hold sink hd.1] at h
  cases ht : takeLines sink (splitLines (d.pending ++ chunk)).1 (d, w) with
  | mk r s =>
    rw [ht] at h
    cases r with
    | error e => cases h
    | ok u =>
      cases h
      exact ready_hold (splitLines_tail_not_mem (d.pending ++ chunk)) _

instance : LawfulDecoder TupleDecoder where
  Ready := Ready
  feed_emits := feed_emits
  close_emits := close_emits
  feed_nil hd _ sink w := by
    simp only [Decoder.feed]
    rw [feed_nil hd sink w]
    rfl
  feed_append a b _ hd _ sink w := feed_append a b hd sink w
  feed_ready := feed_ready

end TupleDecoder
end RdfExport
