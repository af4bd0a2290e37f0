import RdfExport.Decoder.Graph
import RdfExport.Proofs.Emission
import RdfExport.Proofs.NTriples.Lookahead

/-!
# RdfExport.Proofs.Statements

A decoder of graphs emits one record for each statement, and is ready for a cut whenever it waits
for more octets. A cut does not show because a step made before the cut is made without it too
(`move_append`).

* `run_fault`, `run_statement`, `run_step`, `run_wait`, `run_end`: one step of the decoder each.
* `LawfulDecoder GraphDecoder`: what chunks and the end emit, and that cuts do not show.
-/

namespace RdfExport
namespace GraphDecoder

open NTriples

section Steps

variable {σ : Type} (sink : Sink σ) (w : σ) {d : GraphDecoder} {bytes : Bytes}

theorem run_fault {f : Fault} {faults : List Fault} (hf : d.faults = f :: faults) :
    run sink bytes d w =
      (.error (.protocol (.notNTriples f)), { d with faults, buffer := bytes }, w) := by
  rw [run.eq_def]
  split <;> simp_all

theorem run_statement {t : Rdf.Triple} (hf : d.faults = []) (hr : d.ready = some t) :
    run sink bytes d w =
      match sink.accept (.statement t) w with
      | (.ok (), w) => run sink bytes { d with ready := none, statements := d.statements + 1 } w
      | (.error e, w) => (.error e, { d with ready := none, buffer := bytes }, w) := by
  cases hs : sink.accept (.statement t) w with
  | mk r w' =>
    rw [run.eq_def]
    cases r <;> split <;> simp_all

theorem run_step {b : UInt8} {rest : Bytes} {size : Nat} {expect : Option Expect}
    {ready : Option Rdf.Triple} {faults : List Fault} (hf : d.faults = []) (hr : d.ready = none)
    (hm : move d.mode d.ended d.expect b rest = .step size expect ready faults) :
    run sink (b :: rest) d w =
      run sink (rest.drop (size - 1)) { d with expect, ready, faults } w := by
  rw [run.eq_def]
  split <;> simp_all

theorem run_wait {b : UInt8} {rest : Bytes} (hf : d.faults = []) (hr : d.ready = none)
    (hm : move d.mode d.ended d.expect b rest = .wait) :
    run sink (b :: rest) d w = (.ok (), { d with buffer := b :: rest }, w) := by
  rw [run.eq_def]
  split <;> simp_all

theorem run_pause (hf : d.faults = []) (hr : d.ready = none)
    (he : d.expect = none ∨ d.ended = false) :
    run sink [] d w = (.ok (), { d with buffer := [] }, w) := by
  rw [run.eq_def]
  split <;> simp_all

theorem run_end {e : Expect} (hf : d.faults = []) (hr : d.ready = none) (he : d.expect = some e)
    (hended : d.ended = true) :
    run sink [] d w =
      run sink [] { d with expect := none, ready := e.onEnd.1, faults := e.onEnd.2 } w := by
  rw [run.eq_def]
  split <;> simp_all

end Steps

theorem run_emits (bytes : Bytes) (d : GraphDecoder) (kept : List Record) :
    ∃ em, Emits d.statements (fun _ sink w => run sink bytes d w) em := by
  fun_induction run Sink.collect bytes d kept with
  | case1 d kept f faults bytes hf => exact ⟨_, .failure fun _ sink w => run_fault sink w hf⟩
  | case2 d kept t bytes hr hf kept' haccept ih =>
    obtain ⟨em, hem⟩ := ih
    refine ⟨⟨.statement t :: em.records, em.ending⟩, ?_, ?_⟩
    · intro σ sink w
      rw [run_statement sink w hf hr]
      simp only [Emission.into, Sink.offer]
      cases sink.accept (.statement t) w with
      | mk r w' =>
        cases r with
        | error e => rfl
        | ok u => exact hem.settles σ sink w'
    · intro d' hd'
      rw [hem.counts d' hd', List.length_cons, Nat.add_right_comm]
      rfl
  | case3 d kept t bytes hr hf e kept' haccept => cases haccept
  | case4 d kept b rest hr hf size expect ready faults hm ih =>
    obtain ⟨em, hem⟩ := ih
    refine ⟨em, fun σ sink w => ?_, hem.counts⟩
    exact (congrArg Outcome.settled (run_step sink w hf hr hm)).trans (hem.settles σ sink w)
  | case5 d kept b rest hr hf hm =>
    simp only [wfParam] at hm
    exact ⟨_, .quiet (d := { d with buffer := b :: rest }) rfl
      fun _ sink w => run_wait sink w hf hr hm⟩
  | case6 d kept e hr he hf hended ih =>
    obtain ⟨em, hem⟩ := ih
    refine ⟨em, fun σ sink w => ?_, hem.counts⟩
    rw [run_end sink w hf hr he hended]
    exact hem.settles σ sink w
  | case7 d kept e hr he hf hended =>
    exact ⟨_, .quiet (d := { d with buffer := [] }) rfl
      fun _ sink w => run_pause sink w hf hr (.inr (by simpa using hended))⟩
  | case8 d kept hr he hf =>
    exact ⟨_, .quiet (d := { d with buffer := [] }) rfl
      fun _ sink w => run_pause sink w hf hr (.inl he)⟩

theorem run_buffer {σ : Type} (sink : Sink σ) (bytes buffer : Bytes) (d : GraphDecoder) (w : σ) :
    run sink bytes { d with buffer } w = run sink bytes d w := by
  fun_induction run sink bytes d w with
  | case1 d w f faults bytes hf => exact run_fault (d := { d with buffer }) sink w hf
  | case2 d w t bytes hr hf w' haccept ih =>
    refine (run_statement (d := { d with buffer }) sink w hf hr).trans ?_
    simp only [wfParam] at haccept
    rw [haccept]
    exact ih
  | case3 d w t bytes hr hf e w' haccept =>
    refine (run_statement (d := { d with buffer }) sink w hf hr).trans ?_
    simp only [wfParam] at haccept
    rw [haccept]
  | case4 d w b rest hr hf size expect ready faults hm ih =>
    exact (run_step (d := { d with buffer }) sink w hf hr hm).trans ih
  | case5 d w b rest hr hf hm => exact run_wait (d := { d with buffer }) sink w hf hr hm
  | case6 d w e hr he hf hended ih =>
    exact (run_end (d := { d with buffer }) sink w hf hr he hended).trans ih
  | case7 d w e hr he hf hended =>
    exact run_pause (d := { d with buffer }) sink w hf hr (.inr (by simpa using hended))
  | case8 d w hr he hf => exact run_pause (d := { d with buffer }) sink w hf hr (.inl he)

/-- A state between two chunks: all is reported, and what is left of the octets waits for more. -/
structure Ready (d : GraphDecoder) : Prop where
  ended : d.ended = false
  faults : d.faults = []
  ready : d.ready = none
  waits : ∀ b rest, d.buffer = b :: rest → move d.mode d.ended d.expect b rest = .wait

theorem initial_ready (mode : Mode) : (initial mode).Ready where
  ended := rfl
  faults := rfl
  ready := rfl
  waits _ _ h := by cases h

theorem run_of_ready {σ : Type} (sink : Sink σ) {d : GraphDecoder} (hd : d.Ready) (w : σ) :
    run sink d.buffer d w = (.ok (), d, w) := by
  cases hb : d.buffer with
  | nil =>
    rw [run_pause sink w hd.faults hd.ready (.inr hd.ended), ← hb]
  | cons b rest =>
    rw [run_wait sink w hd.faults hd.ready (hd.waits b rest hb), ← hb]

/-- A decoder that went through its octets without a failure is ready, unless they were the last. -/
theorem run_ready {σ : Type} (sink : Sink σ) (bytes : Bytes) (d : GraphDecoder) (w : σ)
    (hended : d.ended = false) {d' : GraphDecoder} {w' : σ}
    (h : run sink bytes d w = (.ok (), d', w')) : d'.Ready := by
  fun_induction run sink bytes d w with
  | case1 => cases h
  | case2 d w t bytes hr hf w₁ haccept ih => exact ih hended h
  | case3 => cases h
  | case4 d w b rest hr hf size expect ready faults hm ih => exact ih hended h
  | case5 d w b rest hr hf hm =>
    cases h
    exact ⟨hended, hf, hr, fun _ _ hb => by cases hb; exact hm⟩
  | case6 d w e hr he hf hend => rw [hended] at hend; cases hend
  | case7 d w e hr he hf =>
    cases h
    exact ⟨hended, hf, hr, fun _ _ hb => by cases hb⟩
  | case8 d w hr he hf =>
    cases h
    exact ⟨hended, hf, hr, fun _ _ hb => by cases hb⟩

/-- Where octets are cut does not matter: what the decoder keeps of those before the cut, with
those after it, is what it would have met without the cut. -/
theorem run_append {σ : Type} (sink : Sink σ) (a b : Bytes) (d : GraphDecoder) (w : σ)
    (hended : d.ended = false) :
    (run sink (a ++ b) d w).settled =
      (run sink a d w).settled.andThen fun d w => (run sink (d.buffer ++ b) d w).settled := by
  fun_induction run sink a d w with
  | case1 d w f faults a hf =>
    rw [run_fault sink w hf]
    rfl
  | case2 d w t a hr hf w' haccept ih =>
    simp only [wfParam] at haccept
    rw [run_statement sink w hf hr, haccept]
    exact ih hended
  | case3 d w t a hr hf e w' haccept =>
    simp only [wfParam] at haccept
    rw [run_statement sink w hf hr, haccept]
    rfl
  | case4 d w c rest hr hf size expect ready faults hm ih =>
    simp only [wfParam, hended] at hm
    obtain ⟨hmore, hsize⟩ := move_append hm d.ended b
    rw [List.cons_append, run_step sink w hf hr hmore, List.drop_append_of_le_length (by omega)]
    exact ih hended
  -- the cut falls where the decoder waits: the octets kept are those it stands at
  | case5 d w c rest hr hf hm => exact congrArg Outcome.settled (run_buffer sink _ _ d w).symm
  -- a decoder that may get more octets makes no step at the end of these
  | case6 d w e hr he hf hend => rw [hended] at hend; cases hend
  | case7 d w e hr he hf => exact congrArg Outcome.settled (run_buffer sink _ _ d w).symm
  | case8 d w hr he hf => exact congrArg Outcome.settled (run_buffer sink _ _ d w).symm

instance : LawfulDecoder GraphDecoder where
  Ready := Ready
  feed_emits chunk d := run_emits (d.buffer ++ chunk) d []
  close_emits d := run_emits d.buffer { d with ended := true } []
  feed_nil {d} hd _ sink w := by
    simp only [Decoder.feed, feed]
    rw [List.append_nil, run_of_ready sink hd w]
    rfl
  feed_append a b {d} hd _ sink w := by
    simp only [Decoder.feed, feed]
    rw [← List.append_assoc]
    exact run_append sink (d.buffer ++ a) b d w hd.ended
  feed_ready {chunk d d'} hd _ sink w w' h := run_ready sink (d.buffer ++ chunk) d w hd.ended h

end GraphDecoder
end RdfExport
