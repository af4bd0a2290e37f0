import RdfExport.Decoder

/-!
# RdfExport.Proofs.Emission

What a decoder makes of octets, apart from any sink: the records in them, in order, and how they
end. A sink is offered the records one by one, and what it refuses stops the decoder there; other
than that a decoder does not look at it.

* `Sink.offer`: offers records in turn. `Sink.collect` keeps all that it is offered.
* `Emission`: the records of octets and how the octets end.
* `Emits`: that an action of a decoder makes an emission of its octets.
* `LawfulDecoder`: a decoder whose actions are emissions, and that does not see where its octets
  were cut.
* `Decoder.fed`, `Decoder.closed`: the emissions of a chunk and of the end.
-/

namespace RdfExport

variable {δ δ' δ'' σ : Type}

namespace Sink

def collect : Sink (List Record) where
  accept record kept := (.ok (), kept ++ [record])
  finish kept := (.ok (), kept)

/-- Offers records in turn, up to the first that is refused. -/
def offer (sink : Sink σ) : List Record → σ → Outcome σ
  | [], w => (.ok (), w)
  | record :: rest, w =>
    match sink.accept record w with
    | (.ok (), w) => sink.offer rest w
    | (.error e, w) => (.error e, w)

theorem offer_append (sink : Sink σ) (a b : List Record) (w : σ) :
    sink.offer (a ++ b) w =
      match sink.offer a w with
      | (.ok (), w) => sink.offer b w
      | (.error e, w) => (.error e, w) := by
  induction a generalizing w with
  | nil => rfl
  | cons record rest ih =>
    simp only [List.cons_append, offer]
    cases h : sink.accept record w with
    | mk r w' =>
      cases r with
      | error e => rfl
      | ok u => exact ih w'

theorem offer_collect (records kept : List Record) :
    collect.offer records kept = (.ok (), kept ++ records) := by
  induction records generalizing kept with
  | nil => simp [offer]
  | cons record rest ih =>
    simp only [offer, collect]
    rw [← collect, ih]
    simp

theorem offered_collect {o : Outcome (δ × List Record)} {records : List Record}
    (h : (o.1, o.2.2) = collect.offer records []) : o = (.ok (), o.2.1, records) := by
  rw [offer_collect, List.nil_append, Prod.mk.injEq] at h
  rw [← h.1, ← h.2]

end Sink

/-- How decoding went: the decoder after it, or the failure, and the sink. -/
abbrev Decoded (δ σ : Type) := Except ExportError δ × σ

/-- What matters of an outcome. Nobody looks at a decoder that has failed. -/
def Outcome.settled : Outcome (δ × σ) → Decoded δ σ
  | (.ok (), d, w) => (.ok d, w)
  | (.error e, _, w) => (.error e, w)

@[simp] theorem Outcome.settled_ok (u : Unit) (d : δ) (w : σ) :
    Outcome.settled (.ok u, d, w) = (.ok d, w) := rfl

@[simp] theorem Outcome.settled_error (e : ExportError) (d : δ) (w : σ) :
    Outcome.settled (.error e, d, w) = (.error e, w) := rfl

def Decoded.andThen (o : Decoded δ σ) (next : δ → σ → Decoded δ' σ) : Decoded δ' σ :=
  match o with
  | (.ok d, w) => next d w
  | (.error e, w) => (.error e, w)

/-- What a decoder makes of octets: the records in them, and the decoder after them or why it
failed there. -/
structure Emission (δ : Type) where
  records : List Record
  ending : Except ExportError δ

namespace Emission

/-- Hands the records to a sink. What the sink refuses is the failure. -/
def into (em : Emission δ) (sink : Sink σ) (w : σ) : Decoded δ σ :=
  match sink.offer em.records w with
  | (.ok (), w) => (em.ending, w)
  | (.error e, w) => (.error e, w)

/-- More octets after these, unless these ended the decoder. -/
def andThen (em : Emission δ) (next : δ → Emission δ') : Emission δ' :=
  match em.ending with
  | .ok d => ⟨em.records ++ (next d).records, (next d).ending⟩
  | .error e => ⟨em.records, .error e⟩

theorem andThen_ok {em : Emission δ} {d : δ} (h : em.ending = .ok d) (next : δ → Emission δ') :
    em.andThen next = ⟨em.records ++ (next d).records, (next d).ending⟩ := by
  simp only [andThen, h]

theorem andThen_error {em : Emission δ} {e : ExportError} (h : em.ending = .error e)
    (next : δ → Emission δ') : em.andThen next = ⟨em.records, .error e⟩ := by
  simp only [andThen, h]

theorem into_andThen (em : Emission δ) (next : δ → Emission δ') (sink : Sink σ) (w : σ) :
    (em.andThen next).into sink w =
      (em.into sink w).andThen fun d w => (next d).into sink w := by
  cases h : em.ending with
  | error e =>
    rw [andThen_error h]
    simp only [into, h]
    cases sink.offer em.records w with
    | mk r w' => cases r <;> rfl
  | ok d =>
    rw [andThen_ok h]
    simp only [into, h, Sink.offer_append]
    cases sink.offer em.records w with
    | mk r w' => cases r <;> rfl

theorem andThen_assoc (em : Emission δ) (f : δ → Emission δ') (g : δ' → Emission δ'') :
    (em.andThen f).andThen g = em.andThen fun d => (f d).andThen g := by
  cases h : em.ending with
  | error e => simp only [andThen, h]
  | ok d =>
    cases h' : (f d).ending with
    | error e => simp only [andThen, h, h']
    | ok d' => simp only [andThen, h, h', List.append_assoc]

theorem into_collect (em : Emission δ) (kept : List Record) :
    em.into Sink.collect kept = (em.ending, kept ++ em.records) := by
  simp only [into, Sink.offer_collect]

def ofCollected (o : Decoded δ (List Record)) : Emission δ := ⟨o.2, o.1⟩

@[simp] theorem ofCollected_into (em : Emission δ) :
    ofCollected (em.into Sink.collect []) = em := by
  rw [into_collect]
  rfl

end Emission

/-- An action of a decoder, for any sink. -/
abbrev Decoder.Act (δ : Type) := (σ : Type) → Sink σ → σ → Outcome (δ × σ)

/-- That an action of a decoder makes `em` of its octets, and counts the records, of which there
were `n` before. -/
structure Emits [Decoder δ] (n : Nat) (act : Decoder.Act δ) (em : Emission δ) : Prop where
  settles : ∀ (σ : Type) (sink : Sink σ) (w : σ), (act σ sink w).settled = em.into sink w
  counts : ∀ d, em.ending = .ok d → Decoder.records d = n + em.records.length

namespace Emits

variable [Decoder δ] {n : Nat}

theorem failure {act : Decoder.Act δ} {d : δ} {e : ExportError}
    (h : ∀ (σ : Type) (sink : Sink σ) (w : σ), act σ sink w = (.error e, d, w)) :
    Emits n act ⟨[], .error e⟩ := by
  refine ⟨fun σ sink w => ?_, fun d hd => by cases hd⟩
  rw [h]
  rfl

theorem quiet {act : Decoder.Act δ} {d : δ} (hd : Decoder.records d = n)
    (h : ∀ (σ : Type) (sink : Sink σ) (w : σ), act σ sink w = (.ok (), d, w)) :
    Emits n act ⟨[], .ok d⟩ := by
  refine ⟨fun σ sink w => ?_, fun d' hd' => ?_⟩
  · rw [h]
    rfl
  · cases hd'
    simp [hd]

theorem andThen {act both : Decoder.Act δ} {k : δ → Decoder.Act δ} {em : Emission δ}
    (h : Emits n act em) (hk : ∀ d, ∃ em', Emits (Decoder.records d) (k d) em')
    (hboth : ∀ (σ : Type) (sink : Sink σ) (w : σ), (both σ sink w).settled =
      (act σ sink w).settled.andThen fun d w => (k d σ sink w).settled) :
    ∃ em', Emits n both em' := by
  cases hd : em.ending with
  | error e =>
    refine ⟨em, fun σ sink w => ?_, h.counts⟩
    rw [hboth, h.settles]
    simp only [Emission.into, hd]
    cases sink.offer em.records w with
    | mk r w' => cases r <;> rfl
  | ok d =>
    obtain ⟨em', h'⟩ := hk d
    refine ⟨em.andThen fun _ => em', fun σ sink w => ?_, fun d' hd' => ?_⟩
    · rw [hboth, h.settles, Emission.into_andThen]
      simp only [Emission.into, hd]
      cases sink.offer em.records w with
      | mk r w' =>
        cases r with
        | error e => rfl
        | ok u => exact h'.settles σ sink w'
    · rw [Emission.andThen_ok hd] at hd' ⊢
      rw [h'.counts d' hd', h.counts d hd, List.length_append, Nat.add_assoc]

theorem ofCollected {act : Decoder.Act δ} {em : Emission δ} (h : Emits n act em) :
    Emission.ofCollected (act _ Sink.collect []).settled = em := by
  rw [h.settles, Emission.ofCollected_into]

end Emits

/-- A decoder whose actions are emissions. Between two chunks it is in a state where a cut does not
matter. -/
class LawfulDecoder (δ : Type) [Decoder δ] where
  Ready : δ → Prop
  feed_emits (chunk : Bytes) (d : δ) :
    ∃ em, Emits (Decoder.records d) (fun _ sink w => Decoder.feed sink chunk (d, w)) em
  close_emits (d : δ) :
    ∃ em, Emits (Decoder.records d) (fun _ sink w => Decoder.close sink (d, w)) em
  feed_nil {d : δ} (hd : Ready d) {σ : Type} (sink : Sink σ) (w : σ) :
    (Decoder.feed sink [] (d, w)).settled = (.ok d, w)
  feed_append (a b : Bytes) {d : δ} (hd : Ready d) {σ : Type} (sink : Sink σ) (w : σ) :
    (Decoder.feed sink (a ++ b) (d, w)).settled =
      (Decoder.feed sink a (d, w)).settled.andThen fun d w =>
        (Decoder.feed sink b (d, w)).settled
  feed_ready {chunk : Bytes} {d d' : δ} (hd : Ready d) {σ : Type} {sink : Sink σ} {w w' : σ}
    (h : Decoder.feed sink chunk (d, w) = (.ok (), d', w')) : Ready d'

namespace Decoder

variable [Decoder δ]

/-- What a decoder makes of a chunk. -/
def fed (chunk : Bytes) (d : δ) : Emission δ :=
  .ofCollected (Decoder.feed Sink.collect chunk (d, [])).settled

/-- What a decoder makes of the end. -/
def closed (d : δ) : Emission δ :=
  .ofCollected (Decoder.close Sink.collect (d, [])).settled

variable [LawfulDecoder δ]

theorem fed_emits (chunk : Bytes) (d : δ) :
    Emits (Decoder.records d) (fun _ sink w => Decoder.feed sink chunk (d, w)) (fed chunk d) := by
  obtain ⟨em, hem⟩ := LawfulDecoder.feed_emits chunk d
  rw [fed, hem.ofCollected]
  exact hem

theorem closed_emits (d : δ) :
    Emits (Decoder.records d) (fun _ sink w => Decoder.close sink (d, w)) (closed d) := by
  obtain ⟨em, hem⟩ := LawfulDecoder.close_emits d
  rw [closed, hem.ofCollected]
  exact hem

/-- Any sink is offered the same records, whatever it does with them. -/
theorem feed_into (sink : Sink σ) (chunk : Bytes) (d : δ) (w : σ) :
    (Decoder.feed sink chunk (d, w)).settled = (fed chunk d).into sink w :=
  (fed_emits chunk d).settles σ sink w

theorem close_into (sink : Sink σ) (d : δ) (w : σ) :
    (Decoder.close sink (d, w)).settled = (closed d).into sink w :=
  (closed_emits d).settles σ sink w

theorem fed_nil {d : δ} (hd : LawfulDecoder.Ready d) : fed [] d = ⟨[], .ok d⟩ := by
  rw [fed, LawfulDecoder.feed_nil hd]
  rfl

/-- A cut in the octets does not show in what they emit. -/
theorem fed_append (a b : Bytes) {d : δ} (hd : LawfulDecoder.Ready d) :
    fed (a ++ b) d = (fed a d).andThen (fed b) := by
  have h : (Decoder.feed Sink.collect (a ++ b) (d, [])).settled =
      ((fed a d).andThen (fed b)).into Sink.collect [] := by
    rw [LawfulDecoder.feed_append a b hd, Emission.into_andThen, feed_into]
    simp only [feed_into]
  rw [fed, h, Emission.ofCollected_into]

end Decoder
end RdfExport
