import RdfExport.Proofs.Cuts
import RdfExport.Proofs.NTriples.Leniency

/-!
# RdfExport.Proofs.Leniency

A lenient decoder of graphs delivers what a strict one delivers. Both go through the same octets
step by step; as long as the strict one has no fault, they make the same steps (`move_keeps`), and
after a fault the strict one delivers nothing. A lenient decoder may wait where a strict one has a
fault already, so the two are compared on a whole body, of which the end is known.

* `run_ended`: the chunks and then the end are the octets with the end known.
* `run_keeps`: the two decoders side by side.
* `lenient_extends_strict`: bodies cut into chunks, for any sink.
-/

namespace RdfExport

variable {δ σ : Type}

/-- A sink that is offered the first records of another emission accepts the first of what it would
accept of that one. -/
theorem Emission.into_recorded_mono {em em' : Emission δ} (h : em.records <+: em'.records)
    (sink : Sink σ) (s : σ × List Record) :
    (em.into sink.recorded s).2.2 <+: (em'.into sink.recorded s).2.2 := by
  obtain ⟨more, hmore⟩ := h
  simp only [into, ← hmore, Sink.offer_append]
  cases sink.recorded.offer em.records s with
  | mk r s' =>
    cases r with
    | error e => exact List.prefix_rfl
    | ok u => exact (⟨more, em'.ending⟩ : Emission δ).into_recorded sink s'

/-- Where octets went well into a sink, they went well by themselves. -/
theorem Emission.ending_of_into {em : Emission δ} {sink : Sink σ} {w w' : σ} {d : δ}
    (h : em.into sink w = (.ok d, w')) : em.ending = .ok d := by
  unfold into at h
  cases hoffer : sink.offer em.records w with
  | mk r w'' =>
    rw [hoffer] at h
    cases r with
    | error e => cases h
    | ok u => exact congrArg Prod.fst h

namespace GraphDecoder

open NTriples

theorem move_ended (mode : Mode) (expect : Option Expect) (b : UInt8) (rest : Bytes) :
    move mode true expect b rest ≠ .wait := by
  unfold move
  split
  · exact Move.noConfusion
  · cases lexeme mode true b rest with
    | token | lineEnd => cases expect <;> exact Move.noConfusion
    | _ => exact Move.noConfusion

theorem run_ended (sink : Sink σ) (bytes : Bytes) (d : GraphDecoder) (w : σ)
    (hended : d.ended = false) :
    (run sink bytes { d with ended := true } w).settled =
      (run sink bytes d w).settled.andThen fun d w =>
        (run sink d.buffer { d with ended := true } w).settled := by
  fun_induction run sink bytes d w with
  | case1 d w f faults bytes hf =>
    rw [run_fault (d := { d with ended := true }) sink w hf]
    rfl
  | case2 d w t bytes hr hf w' haccept ih =>
    simp only [wfParam] at haccept
    rw [run_statement (d := { d with ended := true }) sink w hf hr, haccept]
    exact ih hended
  | case3 d w t bytes hr hf e w' haccept =>
    simp only [wfParam] at haccept
    rw [run_statement (d := { d with ended := true }) sink w hf hr, haccept]
    rfl
  | case4 d w b rest hr hf size expect ready faults hm ih =>
    simp only [wfParam, hended] at hm
    obtain ⟨hsame, -⟩ := move_append hm true []
    rw [List.append_nil] at hsame
    rw [run_step (d := { d with ended := true }) sink w hf hr hsame]
    exact ih hended
  | case5 d w b rest hr hf hm =>
    exact congrArg Outcome.settled (run_buffer sink _ _ { d with ended := true } w).symm
  | case6 d w e hr he hf hend =>
    rw [hended] at hend
    cases hend
  | case7 d w e hr he hf =>
    exact congrArg Outcome.settled (run_buffer sink _ _ { d with ended := true } w).symm
  | case8 d w hr he hf =>
    exact congrArg Outcome.settled (run_buffer sink _ _ { d with ended := true } w).symm

/-- What octets say as a whole is what a decoder makes of them that knows their end. -/
theorem decoding_ended (bytes : Bytes) {d : GraphDecoder} (hended : d.ended = false) :
    Decoder.decoding bytes d = Emission.ofCollected
      (run Sink.collect (d.buffer ++ bytes) { d with ended := true } []).settled := by
  have hinto : (Decoder.decoding bytes d).into Sink.collect [] =
      (run Sink.collect (d.buffer ++ bytes) { d with ended := true } []).settled := by
    rw [run_ended _ _ d _ hended, Decoder.decoding, Emission.into_andThen, ← Decoder.feed_into]
    simp only [← Decoder.close_into]
    rfl
  rw [← hinto, Emission.ofCollected_into]

def lenient (d : GraphDecoder) : GraphDecoder := { d with mode := .lenient }

theorem run_collect_extends (bytes : Bytes) (d : GraphDecoder) (kept : List Record) :
    kept <+: (run Sink.collect bytes d kept).2.2 := by
  obtain ⟨em, hem⟩ := run_emits bytes d kept
  rw [← Outcome.settled_snd, hem.settles, Emission.into_collect]
  exact List.prefix_append _ _

/-- A lenient decoder goes with a strict one as far as that one gets. -/
theorem run_keeps (bytes : Bytes) (d : GraphDecoder) (kept : List Record) (hmode : d.mode = .strict)
    (hended : d.ended = true) :
    let o := run Sink.collect bytes d kept
    let o' := run Sink.collect bytes d.lenient kept
    o.2.2 <+: o'.2.2 ∧ (o.1 = .ok () → o' = (.ok (), o.2.1.lenient, o.2.2)) := by
  intro o o'
  fun_induction run Sink.collect bytes d kept with
  | case1 d kept f faults bytes hf =>
    exact ⟨run_collect_extends bytes d.lenient kept, fun hok => by cases hok⟩
  | case2 d kept t bytes hr hf kept' haccept ih =>
    simp only [wfParam] at haccept
    have hsame : run Sink.collect bytes d.lenient kept = _ :=
      run_statement (d := d.lenient) Sink.collect kept hf hr
    rw [haccept] at hsame
    simp only [o', hsame]
    exact ih hmode hended
  | case3 d kept t bytes hr hf e kept' haccept => cases haccept
  | case4 d kept b rest hr hf size expect ready faults hm ih =>
    simp only [wfParam, hmode] at hm
    cases faults with
    | nil =>
      have hsame := run_step (d := d.lenient) Sink.collect kept hf hr (move_keeps hm)
      simp only [o', hsame]
      exact ih hmode hended
    | cons f faults =>
      -- the step of the strict decoder has a fault, which is the next thing that it reports
      have hfault : run Sink.collect (rest.drop (size - 1))
          { d with expect, ready, faults := f :: faults } kept = _ :=
        run_fault Sink.collect kept rfl
      simp only [o, hfault]
      exact ⟨run_collect_extends _ d.lenient kept, fun hok => by cases hok⟩
  | case5 d kept b rest hr hf hm =>
    simp only [wfParam, hended] at hm
    exact absurd hm (move_ended _ _ _ _)
  | case6 d kept e hr he hf hend ih =>
    have hsame := run_end (d := d.lenient) Sink.collect kept hf hr he hended
    simp only [o', hsame]
    exact ih hmode hended
  | case7 d kept e hr he hf hend => exact absurd hended hend
  | case8 d kept hr he hf =>
    have hsame := run_pause (d := d.lenient) Sink.collect kept hf hr (.inl he)
    simp only [o', hsame]
    exact ⟨List.prefix_rfl, fun _ => rfl⟩

/-- What a strict decoder makes of a body begins what a lenient one makes of it, and is all of that
if the body is accepted. -/
theorem decoding_keeps (bytes : Bytes) :
    let em := Decoder.decoding bytes (initial .strict)
    let em' := Decoder.decoding bytes (initial .lenient)
    em.records <+: em'.records ∧
      ∀ d, em.ending = .ok d → em' = ⟨em.records, .ok d.lenient⟩ := by
  intro em em'
  let start : GraphDecoder := { initial .strict with ended := true }
  have hstrict : em = .ofCollected (run Sink.collect bytes start []).settled :=
    decoding_ended bytes rfl
  have hlenient : em' = .ofCollected (run Sink.collect bytes start.lenient []).settled :=
    decoding_ended bytes rfl
  obtain ⟨hbegins, hsame⟩ := run_keeps bytes start [] rfl rfl
  rw [hstrict, hlenient]
  generalize run Sink.collect bytes start [] = o at hbegins hsame ⊢
  generalize run Sink.collect bytes start.lenient [] = o' at hbegins hsame ⊢
  refine ⟨by rwa [← Outcome.settled_snd, ← Outcome.settled_snd] at hbegins, ?_⟩
  intro d hd
  obtain ⟨r, d', kept⟩ := o
  cases r with
  | error e => cases hd
  | ok u =>
    cases hd
    rw [hsame rfl]
    rfl

/-- **Lenient decoding extends strict decoding.** However a body is cut into chunks, what a strict
decoder delivers of it to a sink is the beginning of what a lenient one delivers. If the strict one
accepts the body, so does the lenient one; both have then delivered the same records in the same
order, have left the sink alike and count alike. -/
theorem lenient_extends_strict (sink : Sink σ) (chunks : List Bytes) (w : σ) :
    let o := Decoder.readOn sink.recorded chunks (initial .strict, w, [])
    let o' := Decoder.readOn sink.recorded chunks (initial .lenient, w, [])
    o.2.2.2 <+: o'.2.2.2 ∧
      (o.1 = .ok () → o'.1 = .ok () ∧ o'.2.2 = o.2.2 ∧
        Decoder.records o'.2.1 = Decoder.records o.2.1) := by
  intro o o'
  obtain ⟨hbegins, hsame⟩ := decoding_keeps chunks.flatten
  have hstrict : o.settled = _ := Decoder.readOn_settled sink.recorded chunks
    (initial_ready .strict) (w, [])
  have hlenient : o'.settled = _ := Decoder.readOn_settled sink.recorded chunks
    (initial_ready .lenient) (w, [])
  refine ⟨?_, fun hok => ?_⟩
  · rw [← Outcome.settled_snd, ← Outcome.settled_snd, hstrict, hlenient]
    exact Emission.into_recorded_mono hbegins sink (w, [])
  · obtain ⟨d, hd⟩ : ∃ d, (Decoder.decoding chunks.flatten (initial .strict)).ending = .ok d := by
      obtain ⟨r, d, s⟩ := o
      cases hok
      exact ⟨d, Emission.ending_of_into hstrict.symm⟩
    have hem : Decoder.decoding chunks.flatten (initial .strict) = ⟨_, .ok d⟩ :=
      congrArg (Emission.mk _) hd
    obtain ⟨hoffer, -⟩ := Decoder.readOn_of_decoding sink.recorded (initial_ready .strict)
      (w, []) hem
    obtain ⟨hoffer', -⟩ := Decoder.readOn_of_decoding sink.recorded (initial_ready .lenient)
      (w, []) (hsame d hd)
    obtain ⟨hresult, hsink⟩ := Prod.mk.inj (hoffer'.trans hoffer.symm)
    refine ⟨hresult.trans hok, hsink, ?_⟩
    rw [readOn_records, readOn_records]
    exact congrArg (fun s => s.2.length) hsink

end GraphDecoder
end RdfExport
