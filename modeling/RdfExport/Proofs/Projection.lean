import RdfExport.Client
import RdfExport.Proofs.Reading
import RdfExport.Proofs.Rows
import RdfExport.Proofs.Statements

/-!
# RdfExport.Proofs.Projection

A call sees the world only through its surroundings. If the actions of one environment are those of
another on a part of its state, then so is every call: it has the same result and the same notices,
and it leaves the same in that part. So an environment may keep a record of what it is asked to do,
and nobody notices.

* `Sink.Projects`, `Environment.Projects`: that the actions agree on a part of the state.
* `stream_projects`, `run_projects`: transfers agree then.
* `Endpoint.perform_projects`, `Client.run_projects`: calls agree then.
-/

namespace RdfExport

variable {δ σ σ' ω ω' α : Type}

/-- That `sink'` does what `sink` does on the part `f` of its state. -/
structure Sink.Projects (f : σ' → σ) (sink' : Sink σ') (sink : Sink σ) : Prop where
  accept : ∀ record w, sink.accept record (f w) = Prod.map id f (sink'.accept record w)
  finish : ∀ w, sink.finish (f w) = Prod.map id f (sink'.finish w)

section Sinks

variable {f : σ' → σ} {sink' : Sink σ'} {sink : Sink σ}

theorem Sink.offer_projects (h : sink'.Projects f sink) (records : List Record) (w : σ') :
    sink.offer records (f w) = Prod.map id f (sink'.offer records w) := by
  induction records generalizing w with
  | nil => rfl
  | cons record rest ih =>
    simp only [offer, h.accept]
    cases sink'.accept record w with
    | mk r w' =>
      cases r with
      | error e => rfl
      | ok u => exact ih w'

/-- Outcomes that agree in what matters: both have failed, or both leave the same decoder. -/
theorem Outcome.settled_map {o : Outcome (δ × σ)} {o' : Outcome (δ × σ')}
    (h : o.settled = Prod.map id f o'.settled) :
    (∃ e d d' w, o = (.error e, d, f w) ∧ o' = (.error e, d', w)) ∨
      ∃ d w, o = (.ok (), d, f w) ∧ o' = (.ok (), d, w) := by
  obtain ⟨r, d, w⟩ := o
  obtain ⟨r', d', w'⟩ := o'
  cases r with
  | error e =>
    cases r' with
    | error e' =>
      cases h
      exact .inl ⟨e, d, d', w', rfl, rfl⟩
    | ok u' => cases h
  | ok u =>
    cases r' with
    | error e' => cases h
    | ok u' =>
      cases h
      exact .inr ⟨d, w', rfl, rfl⟩

theorem Emission.into_projects (h : sink'.Projects f sink) (em : Emission δ) (w : σ') :
    em.into sink (f w) = Prod.map id f (em.into sink' w) := by
  simp only [into, Sink.offer_projects h]
  cases sink'.offer em.records w with
  | mk r w' => cases r <;> rfl

theorem Transfer.finishSink_projects (h : sink'.Projects f sink) (d : δ) (w : σ') :
    finishSink sink d (f w) = Prod.map id f (finishSink sink' d w) := by
  cases hf : sink'.finish w with
  | mk r w' => cases r <;> simp [finishSink, h.finish, hf]

variable [Decoder δ] [LawfulDecoder δ]

theorem Decoder.feed_projects (h : sink'.Projects f sink) (chunk : Bytes) (d : δ) (w : σ') :
    (Decoder.feed sink chunk (d, f w)).settled =
      Prod.map id f (Decoder.feed sink' chunk (d, w)).settled := by
  rw [feed_into, feed_into, Emission.into_projects h]

namespace Transfer

open Http

theorem finish_projects (h : sink'.Projects f sink) (d : δ) (w : σ') :
    (finish sink (d, f w)).settled = Prod.map id f (finish sink' (d, w)).settled := by
  rw [finish_settled, finish_settled, Emission.into_projects h]
  cases (Decoder.closed d).into sink' w with
  | mk r w' =>
    cases r with
    | error e => rfl
    | ok d' => exact finishSink_projects h d' w'

/-- A transfer into either sink goes the same way, and leaves the same of the body. -/
theorem stream_projects (h : sink'.Projects f sink) (endpoint : String) (frames : List Frame)
    (trailers : Option Fields) (d : δ) (w : σ') :
    let t := stream sink ⟨endpoint, frames, trailers, false⟩ (d, f w)
    let t' := stream sink' ⟨endpoint, frames, trailers, false⟩ (d, w)
    Outcome.settled (t.1, t.2.2) = Prod.map id f (Outcome.settled (t'.1, t'.2.2)) ∧
      t.2.1 = t'.2.1 := by
  induction frames generalizing trailers d w with
  | nil =>
    simp only [stream_nil, and_true]
    exact finish_projects h d w
  | cons frame rest ih =>
    cases frame with
    | broken e =>
      simp only [stream_broken, and_true]
      rfl
    | trailers fields =>
      simp only [stream_trailers]
      exact ih (some fields) d w
    | data bytes =>
      cases bytes with
      | nil =>
        simp only [stream_empty]
        exact ih trailers d w
      | cons b bytes =>
        rcases Outcome.settled_map (Decoder.feed_projects h (b :: bytes) d w) with
          ⟨e, d₁, d', w', hf, hf'⟩ | ⟨d', w', hf, hf'⟩
        · simp only [stream_data, hf, hf']
          exact ⟨rfl, trivial⟩
        · simp only [stream_data, hf, hf']
          exact ih trailers d' w'

def count (t : Transfer δ σ) : Except ExportError Nat :=
  t.result.map fun _ => Decoder.records t.decoder

theorem run_projects (h : sink'.Projects f sink) (recover : Bool) (endpoint : String)
    (frames : List Frame) (d : δ) (w : σ') :
    let t := run recover sink (Body.ofFrames endpoint frames) (d, f w)
    let t' := run recover sink' (Body.ofFrames endpoint frames) (d, w)
    t.count = t'.count ∧ t.notices = t'.notices ∧ t.sink = f t'.sink := by
  obtain ⟨hsettled, hbody⟩ := stream_projects h endpoint frames none d w
  simp only [run, Body.ofFrames]
  cases hs' : stream sink' ⟨endpoint, frames, none, false⟩ (d, w) with
  | mk r' s' =>
    cases hs : stream sink ⟨endpoint, frames, none, false⟩ (d, f w) with
    | mk r s =>
      obtain ⟨b', d', w'⟩ := s'
      obtain ⟨b, d₁, w₁⟩ := s
      simp only [hs, hs'] at hsettled hbody
      subst hbody
      rcases Outcome.settled_map hsettled with ⟨e, _, _, _, h, h'⟩ | ⟨_, _, h, h'⟩
      · cases h
        cases h'
        exact ⟨rfl, rfl, rfl⟩
      · cases h
        cases h'
        exact ⟨rfl, rfl, rfl⟩

end Transfer

end Sinks

/-- That the actions of `env'` are those of `env` on the part `f` of its state. -/
structure Environment.Projects (f : ω' → ω) (env' : Environment ω') (env : Environment ω) :
    Prop where
  openOutput : ∀ w, env.target.openOutput (f w) = Prod.map id f (env'.target.openOutput w)
  openSink : ∀ toggles w,
    env.target.openSink toggles (f w) = Prod.map id f (env'.target.openSink toggles w)
  sink : env'.target.sink.Projects f env.target.sink
  dropSink : ∀ w, env.target.dropSink (f w) = f (env'.target.dropSink w)
  closeOutput : ∀ w, env.target.closeOutput (f w) = Prod.map id f (env'.target.closeOutput w)
  send : ∀ agent request w, env.send agent request (f w) = Prod.map id f (env'.send agent request w)
  sign : ∀ region request w,
    env.sign region request (f w) = Prod.map id f (env'.sign region request w)
  draw : ∀ n w, env.draw n (f w) = Prod.map id f (env'.draw n w)

/-- A step of which only a part of the state is looked at. -/
def Step.project (f : ω' → ω) (s : Step α ω') : Step α ω := ⟨s.result, s.notices, f s.world⟩

namespace Endpoint

variable {f : ω' → ω} {env' : Environment ω'} {env : Environment ω}

theorem send_projects (h : env'.Projects f env) (e : Endpoint) (request : Http.Request) (w : ω') :
    e.send env request (f w) = (e.send env' request w).project f := by
  cases hs : env'.send e.userAgent request w with
  | mk r w' =>
    cases r with
    | error reason => simp [send, h.send, hs, Step.project]
    | ok response =>
      by_cases hr : response.isSuccess <;> simp [send, h.send, hs, hr, Step.project]

theorem signed_projects (h : env'.Projects f env) (e : Endpoint) (request : Http.Request)
    (w : ω') : e.signed env request (f w) = Prod.map id f (e.signed env' request w) := by
  unfold signed
  cases e.signing with
  | none => rfl
  | some region => exact h.sign region request w

theorem dispatch_projects (h : env'.Projects f env) (e : Endpoint) (op : Operation) (w : ω') :
    e.dispatch env op (f w) = (e.dispatch env' op w).project f := by
  unfold dispatch
  cases e.request op with
  | error fault => rfl
  | ok request =>
    simp only [signed_projects h]
    cases e.signed env' request w with
    | mk r w' =>
      cases r with
      | error x => rfl
      | ok request => exact send_projects h e request w'

theorem send_body {e : Endpoint} {request : Http.Request} {w : ω} {body : Http.Body}
    (h : (e.send env request w).result = .ok body) :
    ∃ frames, body = Http.Body.ofFrames e.label frames := by
  cases hs : env.send e.userAgent request w with
  | mk r w' =>
    cases r with
    | error reason => simp [send, hs] at h
    | ok response =>
      by_cases hr : response.isSuccess
      · exact ⟨response.frames, by simpa [send, hs, hr] using h.symm⟩
      · simp [send, hs, hr] at h

theorem dispatch_body {e : Endpoint} {op : Operation} {w : ω} {body : Http.Body}
    (h : (e.dispatch env op w).result = .ok body) :
    ∃ frames, body = Http.Body.ofFrames e.label frames := by
  unfold dispatch at h
  cases hr : e.request op with
  | error fault => simp [hr] at h
  | ok request =>
    simp only [hr] at h
    cases hs : e.signed env request w with
    | mk r w' =>
      rw [hs] at h
      cases r with
      | error x => cases h
      | ok request => exact send_body h

variable [Decoder δ] [LawfulDecoder δ]

theorem fill_projects (h : env'.Projects f env) (e : Endpoint) (op : Operation) (d : δ) (w : ω') :
    e.fill env op d (f w) = (e.fill env' op d w).project f := by
  simp only [fill, dispatch_projects h, Step.project]
  cases hr : (e.dispatch env' op w).result with
  | error x => simp [h.dropSink]
  | ok body =>
    obtain ⟨frames, rfl⟩ := dispatch_body hr
    obtain ⟨hcount, hnotices, hsink⟩ := Transfer.run_projects h.sink e.trailerDiagnostics e.label
      frames d (e.dispatch env' op w).world
    unfold Transfer.count at hcount
    simp only [hcount, hnotices, hsink, h.dropSink]

theorem deliver_projects (h : env'.Projects f env) (e : Endpoint) (toggles : Toggles)
    (op : Operation) (d : δ) (w : ω') :
    e.deliver env toggles op d (f w) = (e.deliver env' toggles op d w).project f := by
  unfold deliver
  rw [h.openSink]
  cases env'.target.openSink toggles w with
  | mk r w' =>
    cases r with
    | error x => rfl
    | ok u => exact fill_projects h e op d w'

theorem settle_projects (h : env'.Projects f env) (e : Endpoint) (op : Operation)
    (s : Step Nat ω') : e.settle env op (s.project f) = (e.settle env' op s).project f := by
  obtain ⟨r, notices, w⟩ := s
  cases hc : env'.target.closeOutput w with
  | mk closed w' =>
    cases r <;> cases closed <;>
      simp [settle, Step.project, Target.abandon, Target.close, IoOutcome.reported,
        h.closeOutput, hc]

theorem performWith_projects (h : env'.Projects f env) (e : Endpoint) (toggles : Toggles)
    (op : Operation) (d : δ) (w : ω') :
    e.performWith env toggles op d (f w) = (e.performWith env' toggles op d w).project f := by
  unfold performWith
  rw [h.openOutput]
  cases env'.target.openOutput w with
  | mk r w' =>
    cases r with
    | error x => rfl
    | ok u =>
      simp only [Prod.map, id]
      rw [deliver_projects h, settle_projects h]

omit [Decoder δ] [LawfulDecoder δ] in
theorem perform_projects (h : env'.Projects f env) (e : Endpoint) (toggles : Toggles)
    (op : Operation) (w : ω') :
    e.perform env toggles op (f w) = (e.perform env' toggles op w).project f := by
  unfold perform
  cases op.kind <;> exact performWith_projects h e toggles op _ w

end Endpoint

namespace Pool

variable {f : ω' → ω} {draw' : Nat → ω' → Nat × ω'} {draw : Nat → ω → Nat × ω}

theorem nextIndex_projects (h : ∀ n w, draw n (f w) = Prod.map id f (draw' n w)) (p : Pool)
    (w : ω') : nextIndex draw p (f w) = Prod.map id (Prod.map id f) (nextIndex draw' p w) := by
  unfold nextIndex
  by_cases hone : p.size = 1
  · rw [if_pos hone, if_pos hone]
    rfl
  · rw [if_neg hone, if_neg hone]
    cases p.strategy with
    | random =>
      simp only [h]
      rfl
    | roundRobin => rfl

theorem choose_projects (h : ∀ n w, draw n (f w) = Prod.map id f (draw' n w)) (p : Pool) (w : ω') :
    p.choose draw (f w) = Prod.map id (Prod.map id f) (p.choose draw' w) := by
  simp [choose, nextIndex_projects h]

end Pool

namespace Client

variable {f : ω' → ω} {env' : Environment ω'} {env : Environment ω}

theorem choose_projects (h : env'.Projects f env) (c : Client) (w : ω') :
    c.choose env (f w) = Prod.map id (Prod.map id f) (c.choose env' w) := by
  simp only [choose, Pool.choose_projects h.draw]
  rfl

theorem run_projects (h : env'.Projects f env) (c : Client) (op : Operation) (w : ω') :
    c.run env op (f w) = Prod.map (·.project f) id (c.run env' op w) := by
  simp only [run, choose_projects h, Prod.map, id]
  rw [Endpoint.perform_projects h]
  rfl

end Client
end RdfExport
