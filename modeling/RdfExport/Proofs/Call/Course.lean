import RdfExport.Proofs.Call.Log
import RdfExport.Proofs.Recovery

/-!
# RdfExport.Proofs.Call.Course

The courses that a call can take. Each names the whole log of the call and its result, from the
outcomes that the surroundings chose and from what the frames of the answer say.

* `Dispatched`: the courses of a request, up to the answer.
* `Moved`: the courses of moving what the frames say into the sink.
* `Course`: the courses of a whole call.
* `performWith_course`, `perform_course`, `Client.run_course`: a call takes one of them.
-/

namespace RdfExport

variable {δ σ ω : Type}

def offers (records : List Record) : Log := records.map (.offered · (.ok ()))

/-- A failure as it is reported: as it is or, unless it is the output's, once together with what the
server said. -/
def Reported (first x : ExportError) : Prop :=
  x = first ∨ first.kind ≠ .sink ∧ ∃ diagnostic, x = .serverReported diagnostic first

def Emission.forget (em : Emission δ) : Emission Unit := ⟨em.records, em.ending.map fun _ => ()⟩

/-- The courses of moving what frames say into a sink: a record is refused, the frames fail after
all their records, the sink fails at the end, or nothing fails. -/
inductive Moved (em : Emission Unit) : Log → Except ExportError Nat → Prop
  | refused {before : List Record} {record : Record} {x : ExportError}
      (h : before ++ [record] <+: em.records) :
    Moved em (offers before ++ [.offered record (.error x)]) (.error x)
  | unread {x : ExportError} (h : em.ending = .error x) : Moved em (offers em.records) (.error x)
  | unfinished {x : ExportError} (h : em.ending = .ok ()) :
    Moved em (offers em.records ++ [.finished (.error x)]) (.error x)
  | complete (h : em.ending = .ok ()) :
    Moved em (offers em.records ++ [.finished (.ok ())]) (.ok em.records.length)

theorem Sink.offer_logged (sink : Sink ω) (records : List Record) (w : ω) (log : Log) :
    (∃ w', sink.logged.offer records (w, log) = (.ok (), w', log ++ offers records)) ∨
      ∃ before record x w', before ++ [record] <+: records ∧
        sink.logged.offer records (w, log) =
          (.error x, w', log ++ (offers before ++ [.offered record (.error x)])) := by
  induction records generalizing w log with
  | nil => exact .inl ⟨w, by simp [offer, offers]⟩
  | cons record rest ih =>
    cases ha : sink.accept record w with
    | mk r w' =>
      have haccept : sink.logged.accept record (w, log) = (r, w', log ++ [.offered record r]) := by
        simp only [logged, Log.enter, ha]
      cases r with
      | error x =>
        refine .inr ⟨[], record, x, w', List.prefix_append [record] rest, ?_⟩
        simp only [offer, haccept]
        rfl
      | ok u =>
        simp only [offer, haccept]
        rcases ih w' (log ++ [.offered record (.ok ())]) with
          ⟨w'', h⟩ | ⟨before, r, x, w'', hpre, h⟩
        · exact .inl ⟨w'', by rw [h]; simp [offers]⟩
        · refine .inr ⟨record :: before, r, x, w'', ?_, by rw [h]; simp [offers]⟩
          exact (List.cons_prefix_cons).2 ⟨rfl, hpre⟩

/-- What is left of an emission that a logging sink took, and of the sink's end. -/
theorem Emission.into_logged (em : Emission δ) (sink : Sink ω) (w : ω) (log : Log) :
    ∃ actions outcome w', Moved em.forget actions outcome ∧
      ((em.into sink.logged (w, log)).andThen fun d s => Transfer.finishSink sink.logged d s) =
        (outcome.bind fun _ => em.ending, w', log ++ actions) := by
  rcases sink.offer_logged em.records w log with ⟨w', h⟩ | ⟨before, record, x, w', hpre, h⟩
  · cases hd : em.ending with
    | error x =>
      refine ⟨_, _, w', .unread (x := x) (by simp only [forget, hd, Except.map]), ?_⟩
      simp only [into, h, hd]
      rfl
    | ok d =>
      have hend : em.forget.ending = .ok () := by simp only [forget, hd, Except.map]
      cases hf : sink.finish w' with
      | mk r w'' =>
        have hfinish : sink.logged.finish (w', log ++ offers em.records) =
            (r, w'', log ++ offers em.records ++ [.finished r]) := by
          simp only [Sink.logged, Log.enter, hf]
        cases r with
        | error x =>
          refine ⟨_, _, w'', .unfinished (x := x) hend, ?_⟩
          simp only [into, h, hd, Decoded.andThen, Transfer.finishSink, hfinish, List.append_assoc]
          rfl
        | ok u =>
          refine ⟨_, _, w'', .complete hend, ?_⟩
          simp only [into, h, hd, Decoded.andThen, Transfer.finishSink, hfinish, List.append_assoc]
          rfl
  · refine ⟨_, _, w', .refused (x := x) hpre, ?_⟩
    simp only [into, h]
    rfl

/-- What is reported of an outcome. -/
def Reports {α : Type} (outcome result : Except ExportError α) : Prop :=
  match outcome with
  | .ok a => result = .ok a
  | .error first => ∃ x, Reported first x ∧ result = .error x

namespace Transfer

open Http

theorem explain_reported (recover : Bool) (e : ExportError) (b : Body) :
    Reported e (explain recover e b).2.1 := by
  by_cases hquiet : recover = false ∨ e.kind = .sink
  · rw [explain_quiet hquiet]
    exact .inl rfl
  · rw [(explain_loud hquiet b).1]
    cases Diagnostic.ofBody? b.drain.2 with
    | none => exact .inl rfl
    | some diagnostic => exact .inr ⟨fun hkind => hquiet (.inr hkind), diagnostic, rfl⟩

/-- A transfer takes one of the courses of what the frames say. -/
theorem run_moved [Decoder δ] [LawfulDecoder δ] (recover : Bool) (sink : Sink ω)
    (endpoint : String) (frames : List Frame) {d : δ} (hd : LawfulDecoder.Ready d)
    (hfresh : Decoder.records d = 0) (w : ω) (log : Log) :
    let t := run recover sink.logged (Body.ofFrames endpoint frames) (d, (w, log))
    ∃ actions outcome w', Moved (reading endpoint frames d).forget actions outcome ∧
      Reports outcome t.count ∧ t.sink = (w', log ++ actions) := by
  have hsettled := stream_settled endpoint sink.logged frames none hd (w, log)
  obtain ⟨actions, outcome, w', hmoved, hinto⟩ :=
    (reading endpoint frames d).into_logged sink w log
  refine ⟨actions, outcome, w', hmoved, ?_⟩
  simp only [run, Body.ofFrames]
  cases hs : stream sink.logged ⟨endpoint, frames, none, false⟩ (d, (w, log)) with
  | mk r s =>
    obtain ⟨b, d', w₁⟩ := s
    simp only [hs, hinto] at hsettled
    cases outcome with
    | error first =>
      cases r with
      | ok u => cases hsettled
      | error e =>
        cases hsettled
        exact ⟨⟨_, explain_reported recover first b, rfl⟩, rfl⟩
    | ok n =>
      cases hmoved with
      | complete hend =>
        cases hending : (reading endpoint frames d).ending with
        | error x => simp [Emission.forget, hending, Except.map] at hend
        | ok d₁ =>
          rw [hending] at hsettled
          cases r with
          | error e => cases hsettled
          | ok u =>
            cases hsettled
            refine ⟨?_, rfl⟩
            -- the decoder counts what it hands over, and it started from nothing
            have hcounts := reading_counts endpoint hending
            rw [hfresh, Nat.zero_add] at hcounts
            exact congrArg Except.ok hcounts

end Transfer

namespace Endpoint

/-- How a request comes to be sent: as it is, or signed. -/
inductive Prepared (e : Endpoint) (op : Operation) : Log → Http.Request → Prop
  | plain {request : Http.Request} (h : e.request op = .ok request) (hs : e.signing = none) :
    Prepared e op [] request
  | signed {draft request : Http.Request} {region : String} (h : e.request op = .ok draft)
      (hs : e.signing = some region) :
    Prepared e op [.signed region draft (.ok request)] request

/-- The courses of a request: it cannot be built, it is not signed, there is no answer, the answer
is a refusal, or it is a success. -/
inductive Dispatched (e : Endpoint) (op : Operation) :
    Log → Except ExportError Http.Response → Prop
  | unbuilt {fault : Net.UrlFault} (h : e.request op = .error fault) :
    Dispatched e op [] (.error (e.broken (unbuilt fault)))
  | unsigned {draft : Http.Request} {region : String} {x : ExportError}
      (h : e.request op = .ok draft) (hs : e.signing = some region) :
    Dispatched e op [.signed region draft (.error x)] (.error x)
  | unanswered {log : Log} {request : Http.Request} {x : IoError}
      (h : Prepared e op log request) :
    Dispatched e op (log ++ [.sent e.userAgent request (.error x)]) (.error (e.broken x))
  | refused {log : Log} {request : Http.Request} {response : Http.Response}
      (h : Prepared e op log request) (hr : response.isSuccess = false) :
    Dispatched e op (log ++ [.sent e.userAgent request (.ok response)])
      (.error (.http e.label response.status
        (Diagnostic.ofRefusal (Http.refusalText response.frames))))
  | answered {log : Log} {request : Http.Request} {response : Http.Response}
      (h : Prepared e op log request) (hr : response.isSuccess = true) :
    Dispatched e op (log ++ [.sent e.userAgent request (.ok response)]) (.ok response)

def body (e : Endpoint) (response : Http.Response) : Http.Body :=
  .ofFrames e.label response.frames

theorem send_dispatched (env : Environment ω) {e : Endpoint} {op : Operation} {before : Log}
    {request : Http.Request} (hp : e.Prepared op before request) (w : ω) (log : Log) :
    ∃ actions outcome w', e.Dispatched op actions outcome ∧
      let s := e.send env.logged request (w, log ++ before)
      s.result = outcome.map e.body ∧ s.world = (w', log ++ actions) := by
  cases hs : env.send e.userAgent request w with
  | mk answer w' =>
    have hsend : env.logged.send e.userAgent request (w, log ++ before) =
        (answer, w', log ++ (before ++ [.sent e.userAgent request answer])) := by
      simp only [Environment.logged, Log.enter, hs, List.append_assoc]
    cases answer with
    | error x =>
      refine ⟨_, _, w', .unanswered (x := x) hp, ?_⟩
      simp only [send, hsend]
      exact ⟨rfl, trivial⟩
    | ok response =>
      cases hr : response.isSuccess with
      | false =>
        refine ⟨_, _, w', .refused hp hr, ?_⟩
        simp only [send, hsend, hr]
        exact ⟨rfl, rfl⟩
      | true =>
        refine ⟨_, _, w', .answered hp hr, ?_⟩
        simp only [send, hsend, hr]
        exact ⟨rfl, rfl⟩

theorem dispatch_dispatched (env : Environment ω) (e : Endpoint) (op : Operation) (w : ω)
    (log : Log) :
    ∃ actions outcome w', e.Dispatched op actions outcome ∧
      let s := e.dispatch env.logged op (w, log)
      s.result = outcome.map e.body ∧ s.world = (w', log ++ actions) := by
  cases hrequest : e.request op with
  | error fault =>
    refine ⟨_, _, w, .unbuilt hrequest, ?_⟩
    simp only [dispatch, hrequest, List.append_nil]
    exact ⟨rfl, trivial⟩
  | ok draft =>
    cases hsigning : e.signing with
    | none =>
      have hsend := send_dispatched env (.plain hrequest hsigning) w log
      simpa only [dispatch, hrequest, signed, hsigning, List.append_nil] using hsend
    | some region =>
      cases hs : env.sign region draft w with
      | mk r w' =>
        have hsign : env.logged.sign region draft (w, log) =
            (r, w', log ++ [.signed region draft r]) := by
          simp only [Environment.logged, Log.enter, hs]
        cases r with
        | error x =>
          refine ⟨_, _, w', .unsigned (x := x) hrequest hsigning, ?_⟩
          simp only [dispatch, hrequest, signed, hsigning, hsign]
          exact ⟨rfl, trivial⟩
        | ok request =>
          have hprepared : e.Prepared op [.signed region draft (.ok request)] request :=
            .signed hrequest hsigning
          have hsend := send_dispatched env hprepared w' log
          simpa only [dispatch, hrequest, signed, hsigning, hsign] using hsend

/-- The courses of filling a sink, where `read` is what frames say: nothing is moved, or what the
frames of the answer say is moved. The sink is dropped in the end. -/
inductive Filled (e : Endpoint) (op : Operation) (read : List Http.Frame → Emission Unit) :
    Log → Except ExportError Nat → Prop
  | undispatched {log : Log} {x : ExportError} (h : Dispatched e op log (.error x)) :
    Filled e op read (log ++ [.sinkDropped]) (.error x)
  | moved {log log' : Log} {response : Http.Response} {outcome result : Except ExportError Nat}
      (h : Dispatched e op log (.ok response)) (hm : Moved (read response.frames) log' outcome)
      (hr : Reports outcome result) :
    Filled e op read (log ++ log' ++ [.sinkDropped]) result

/-- The courses of a call: the output is refused, the sink is refused, the sink is not filled, or it
is; and whatever the output's closing says, it only counts where nothing failed before. -/
inductive Course (e : Endpoint) (toggles : Toggles) (op : Operation)
    (read : List Http.Frame → Emission Unit) : Log → Except ExportError Summary → Prop
  | outputRefused (x : ExportError) : Course e toggles op read [.opened (.error x)] (.error x)
  | sinkRefused (x : ExportError) (closing : Except IoError Unit) :
    Course e toggles op read
      [.opened (.ok ()), .sinkMade toggles (.error x), .closed closing] (.error x)
  | failed {log : Log} {x : ExportError} (h : Filled e op read log (.error x))
      (closing : Except IoError Unit) :
    Course e toggles op read
      (.opened (.ok ()) :: .sinkMade toggles (.ok ()) :: (log ++ [.closed closing])) (.error x)
  | unclosed {log : Log} {n : Nat} (h : Filled e op read log (.ok n)) (reason : IoError) :
    Course e toggles op read
      (.opened (.ok ()) :: .sinkMade toggles (.ok ()) :: (log ++ [.closed (.error reason)]))
      (.error (.output reason))
  | complete {log : Log} {n : Nat} (h : Filled e op read log (.ok n)) :
    Course e toggles op read
      (.opened (.ok ()) :: .sinkMade toggles (.ok ()) :: (log ++ [.closed (.ok ())]))
      (.ok ⟨e.label, op.kind, n⟩)

section Decoders

variable [Decoder δ] [LawfulDecoder δ] {d : δ}

theorem fill_filled (env : Environment ω) (e : Endpoint) (op : Operation)
    (hd : LawfulDecoder.Ready d) (hfresh : Decoder.records d = 0) (w : ω) (log : Log) :
    ∃ actions result w',
      Filled e op (fun frames => (Transfer.reading e.label frames d).forget) actions result ∧
      let s := e.fill env.logged op d (w, log)
      s.result = result ∧ s.world = (w', log ++ actions) := by
  obtain ⟨actions, outcome, w', hdispatched, hresult, hworld⟩ :=
    e.dispatch_dispatched env op w log
  cases outcome with
  | error x =>
    refine ⟨_, _, env.target.dropSink w', .undispatched hdispatched, ?_⟩
    simp only [fill, hresult, hworld, Except.map, ← List.append_assoc]
    exact ⟨trivial, rfl⟩
  | ok response =>
    obtain ⟨actions', outcome', w'', hmoved, hcount, hsink⟩ :=
      Transfer.run_moved e.trailerDiagnostics env.target.sink e.label response.frames hd hfresh w'
        (log ++ actions)
    refine ⟨_, _, env.target.dropSink w'', .moved hdispatched hmoved hcount, ?_⟩
    simp only [fill, hresult, hworld, Except.map, ← List.append_assoc]
    exact ⟨rfl, congrArg env.logged.target.dropSink hsink⟩

omit [LawfulDecoder δ] [Decoder δ] in
theorem settle_error (env : Environment ω) (e : Endpoint) (op : Operation) {s : Step Nat (ω × Log)}
    {x : ExportError} (h : s.result = .error x) :
    ∃ closing w, (e.settle env.logged op s).result = .error x ∧
      (e.settle env.logged op s).world = (w, s.world.2 ++ [.closed closing]) := by
  obtain ⟨r, notices, w, log⟩ := s
  cases h
  cases hc : env.target.closeOutput w with
  | mk closing w' =>
    have hclosed : env.logged.target.closeOutput (w, log) =
        (closing, w', log ++ [.closed closing]) := by
      simp only [Environment.logged, Target.logged, Log.enter, hc]
    refine ⟨closing, w', rfl, ?_⟩
    simp only [settle, Target.abandon, hclosed]
    cases closing <;> rfl

omit [LawfulDecoder δ] [Decoder δ] in
/-- After success the output's closing decides. -/
theorem settle_ok (env : Environment ω) (e : Endpoint) (op : Operation) {s : Step Nat (ω × Log)}
    {n : Nat} (h : s.result = .ok n) :
    ∃ closing w, (e.settle env.logged op s).world = (w, s.world.2 ++ [.closed closing]) ∧
      (e.settle env.logged op s).result =
        match closing with
        | .ok () => .ok ⟨e.label, op.kind, n⟩
        | .error reason => .error (.output reason) := by
  obtain ⟨r, notices, w, log⟩ := s
  cases h
  cases hc : env.target.closeOutput w with
  | mk closing w' =>
    have hclosed : env.logged.target.closeOutput (w, log) =
        (closing, w', log ++ [.closed closing]) := by
      simp only [Environment.logged, Target.logged, Log.enter, hc]
    refine ⟨closing, w', ?_⟩
    simp only [settle, Target.close, hclosed]
    cases closing <;> exact ⟨rfl, rfl⟩

/-- A call that decodes from a fresh decoder takes one of its courses. -/
theorem performWith_course (env : Environment ω) (e : Endpoint) (toggles : Toggles)
    (op : Operation) (hd : LawfulDecoder.Ready d) (hfresh : Decoder.records d = 0) (w : ω) :
    let s := e.performWith env.logged toggles op d (w, [])
    Course e toggles op (fun frames => (Transfer.reading e.label frames d).forget) s.world.2
      s.result := by
  cases hopen : env.target.openOutput w with
  | mk r w₁ =>
    have hopened : env.logged.target.openOutput (w, []) = (r, w₁, [.opened r]) := by
      simp only [Environment.logged, Target.logged, Log.enter, hopen, List.nil_append]
    cases r with
    | error x =>
      simp only [performWith, hopened]
      exact .outputRefused x
    | ok u =>
      cases hmake : env.target.openSink toggles w₁ with
      | mk r w₂ =>
        have hmade : env.logged.target.openSink toggles (w₁, [.opened (.ok ())]) =
            (r, w₂, [.opened (.ok ()), .sinkMade toggles r]) := by
          simp only [Environment.logged, Target.logged, Log.enter, hmake, List.cons_append,
            List.nil_append]
        cases r with
        | error x =>
          obtain ⟨closing, w₃, hresult, hworld⟩ := settle_error env e op
            (s := ⟨.error x, [], w₂, [.opened (.ok ()), .sinkMade toggles (.error x)]⟩) rfl
          simp only [performWith, hopened, deliver, hmade, hresult, hworld]
          exact .sinkRefused x closing
        | ok u =>
          obtain ⟨actions, result, w₃, hfilled, hresult, hworld⟩ :=
            fill_filled env e op hd hfresh w₂ [.opened (.ok ()), .sinkMade toggles (.ok ())]
          simp only [performWith, hopened, deliver, hmade]
          cases result with
          | error x =>
            obtain ⟨closing, w₄, hresult', hworld'⟩ := settle_error env e op hresult
            simp only [hresult', hworld', hworld]
            exact .failed hfilled closing
          | ok n =>
            obtain ⟨closing, w₄, hworld', hresult'⟩ := settle_ok env e op hresult
            simp only [hresult', hworld', hworld]
            cases closing with
            | error reason => exact .unclosed hfilled reason
            | ok u => exact .complete hfilled

end Decoders

/-- What the frames of an answer say to the decoder of an operation. -/
def reading (e : Endpoint) (op : Operation) (frames : List Http.Frame) : Emission Unit :=
  match op.kind with
  | .tuple => (Transfer.reading e.label frames TupleDecoder.initial).forget
  | .graph => (Transfer.reading e.label frames (GraphDecoder.initial e.graphMode)).forget
  | .graphStore => (Transfer.reading e.label frames (GraphDecoder.initial e.graphMode)).forget

/-- What octets say as a whole to the decoder of an operation. -/
def decoding (e : Endpoint) (op : Operation) (bytes : Bytes) : Emission Unit :=
  match op.kind with
  | .tuple => (Decoder.decoding bytes TupleDecoder.initial).forget
  | .graph => (Decoder.decoding bytes (GraphDecoder.initial e.graphMode)).forget
  | .graphStore => (Decoder.decoding bytes (GraphDecoder.initial e.graphMode)).forget

theorem reading_eq_decoding (e : Endpoint) (op : Operation) {frames : List Http.Frame}
    (h : Http.break? frames = none) :
    e.reading op frames = e.decoding op (frames.flatMap Http.Frame.octets) := by
  unfold reading decoding
  cases op.kind <;> simp only [Transfer.reading_eq_decoding h]

theorem break?_of_reading_ok {e : Endpoint} {op : Operation} {frames : List Http.Frame}
    (h : (e.reading op frames).ending = .ok ()) : Http.break? frames = none := by
  have hforget : ∀ {δ : Type} [Decoder δ] (d : δ),
      (Transfer.reading e.label frames d).forget.ending = .ok () → Http.break? frames = none := by
    intro δ _ d h
    cases hd : (Transfer.reading e.label frames d).ending with
    | error x => simp [Emission.forget, hd, Except.map] at h
    | ok d' => exact Transfer.break?_of_reading_ok hd
  unfold reading at h
  cases hkind : op.kind with
  | tuple => exact hforget TupleDecoder.initial (by simpa [hkind] using h)
  | graph => exact hforget (GraphDecoder.initial e.graphMode) (by simpa [hkind] using h)
  | graphStore => exact hforget (GraphDecoder.initial e.graphMode) (by simpa [hkind] using h)

theorem reading_records_prefix (e : Endpoint) (op : Operation) (frames : List Http.Frame) :
    (e.reading op frames).records <+: (e.decoding op (Http.dataOf frames)).records := by
  unfold reading decoding
  cases op.kind with
  | tuple => exact Transfer.reading_records_prefix e.label frames TupleDecoder.initial
  | graph =>
    exact Transfer.reading_records_prefix e.label frames (GraphDecoder.initial e.graphMode)
  | graphStore =>
    exact Transfer.reading_records_prefix e.label frames (GraphDecoder.initial e.graphMode)

theorem perform_course (env : Environment ω) (e : Endpoint) (toggles : Toggles) (op : Operation)
    (w : ω) :
    let s := e.perform env.logged toggles op (w, [])
    Course e toggles op (e.reading op) s.world.2 s.result := by
  unfold perform reading
  cases op.kind with
  | tuple => exact performWith_course env e toggles op TupleDecoder.initial_ready rfl w
  | graph => exact performWith_course env e toggles op (GraphDecoder.initial_ready _) rfl w
  | graphStore => exact performWith_course env e toggles op (GraphDecoder.initial_ready _) rfl w

end Endpoint

theorem Pool.choose_logged (env : Environment ω) (p : Pool) (w : ω) (log : Log) :
    p.choose env.logged.draw (w, log) =
      ((p.choose env.draw w).1, (p.choose env.draw w).2.1, (p.choose env.draw w).2.2, log) := by
  have h : p.nextIndex env.logged.draw (w, log) =
      ((p.nextIndex env.draw w).1, (p.nextIndex env.draw w).2.1, (p.nextIndex env.draw w).2.2,
        log) := by
    unfold nextIndex
    by_cases hone : p.size = 1
    · simp only [if_pos hone]
    · simp only [if_neg hone]
      cases p.strategy <;> rfl
  simp [choose, h]

/-- A call of a client takes one of the courses on the endpoint chosen for it. -/
theorem Client.run_course (env : Environment ω) (c : Client) (op : Operation) (w : ω) :
    let e := (c.choose env w).1
    let s := (c.run env.logged op (w, [])).1
    e.Course c.toggles op (e.reading op) s.world.2 s.result := by
  have hchoose : c.choose env.logged (w, []) =
      ((c.choose env w).1, (c.choose env w).2.1, (c.choose env w).2.2, []) := by
    simp only [choose, Pool.choose_logged]
  simp only [run, hchoose, Step.after]
  exact Endpoint.perform_course env _ c.toggles op _

end RdfExport
