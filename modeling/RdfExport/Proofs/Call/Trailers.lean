import RdfExport.Proofs.Call.Outcome
import RdfExport.Proofs.Call.Protocol
import RdfExport.Rehearsal.Stage

/-!
# RdfExport.Proofs.Call.Trailers

What a call makes of trailers that report a failure. They come after all data, so an answer that was
cut short may still decode. Trailers are asked for the cause of a failure that shows elsewhere; they
are no failure themselves.

* `Transfer.run_error_told`: a transfer that fails tells what the trailers say.
* `Client.Call.failure_told_by_trailers`: so does a call, unless its data decode as a whole.
* `Client.Call.failure_hidden_between_rows`: a call that succeeds although the server has failed.
-/

namespace RdfExport

variable {δ σ ω : Type}

namespace Transfer

open Http

/-- If a body ends with trailers that say something, and is not longer than what is drained, then
every failure to move it is told together with that, but for those of the output. -/
theorem run_error_told [Decoder δ] (sink : Sink σ) (endpoint : String) {frames : List Frame}
    {diagnostic : String} (hwhole : frames.all (!·.isBreak) = true)
    (hdiagnostic : (lastTrailers none frames).bind Diagnostic.ofTrailers? = some diagnostic)
    (hsize : dataSize frames ≤ Body.drainLimit) (s : δ × σ) {x : ExportError}
    (h : (run true sink (Body.ofFrames endpoint frames) s).result = .error x) :
    x.kind = .sink ∨ ∃ first, x = .serverReported diagnostic first := by
  rcases stream_ok_or_firstFailure sink endpoint frames none s with
    hok | ⟨first, before, after, s', hfirst⟩
  · cases hs : stream sink ⟨endpoint, frames, none, false⟩ s with
    | mk r rest =>
      rw [hs] at hok
      cases hok
      simp [run, Body.ofFrames, hs] at h
  obtain ⟨finished, hs, hf⟩ := stream_of_firstFailure sink hfirst none
  have hx : (explain true first ⟨endpoint, after, lastTrailers none before, finished⟩).2.1 = x := by
    simpa [run, Body.ofFrames, hs] using h
  by_cases hkind : first.kind = .sink
  · left
    rw [explain_quiet (.inr hkind)] at hx
    rw [← hx]
    exact hkind
  · right
    obtain ⟨drained, rest, finished', hafter, hdrain, hread, -⟩ :=
      drain_after endpoint (lastTrailers none before) hf
    have hframes : frames = before ++ (drained ++ rest) := hafter ▸ hfirst.frames_eq
    -- a frame that draining did not read would lie beyond the limit
    have hall : rest = [] := by
      cases rest with
      | nil => rfl
      | cons frame rest =>
        have hopen : (before ++ drained).all (!·.isBreak) = true := by
          rw [hframes, ← List.append_assoc, List.all_append, Bool.and_eq_true] at hwhole
          exact hwhole.1
        have hlimit : dataSize drained ≤ Body.drainLimit := by
          rw [hframes, dataSize_append, dataSize_append] at hsize
          omega
        exact absurd ((hread drained frame rest hafter).2 ⟨hopen, hlimit⟩) (Nat.lt_irrefl _)
    have htold : Diagnostic.ofBody?
        (Body.drain ⟨endpoint, after, lastTrailers none before, finished⟩).2 =
          some diagnostic := by
      subst hall
      rw [List.append_nil] at hframes
      rw [hdrain, Diagnostic.ofBody?, ← lastTrailers_append, ← hframes]
      exact hdiagnostic
    rw [(explain_loud (by simpa using hkind) _).1, htold] at hx
    exact ⟨first, hx.symm⟩

end Transfer

theorem Action.eq_sent_of_answer? {action : Action} {response : Http.Response}
    (h : action.answer? = some response) :
    ∃ agent request, action = .sent agent request (.ok response) ∧ response.isSuccess = true := by
  cases action with
  | sent agent request answer =>
    cases answer with
    | error reason => cases h
    | ok response' =>
      by_cases hr : response'.isSuccess = true
      · rw [answer?, if_pos hr, Option.some.injEq] at h
        subst h
        exact ⟨agent, request, rfl, hr⟩
      · rw [answer?, if_neg hr] at h
        cases h
  | _ => cases h

namespace Endpoint

variable {e : Endpoint} {op : Operation} {log : Log}

theorem Prepared.not_sent {request : Http.Request} (h : e.Prepared op log request) {agent : String}
    {sent : Http.Request} {answer : Except IoError Http.Response} :
    .sent agent sent answer ∉ log := by
  cases h <;> simp

/-- A request that was answered is the last thing that is dispatched: a success is the outcome, and
anything else is a failure. -/
theorem Dispatched.outcome_of_sent {outcome : Except ExportError Http.Response}
    (h : e.Dispatched op log outcome) {agent : String} {request : Http.Request}
    {response : Http.Response} (hsent : .sent agent request (.ok response) ∈ log) :
    outcome = if response.isSuccess then .ok response
      else .error (.http e.label response.status
        (Diagnostic.ofRefusal (Http.refusalText response.frames))) := by
  cases h with
  | unbuilt hrequest => cases hsent
  | unsigned hrequest hs => simp at hsent
  | unanswered hp => simp [hp.not_sent] at hsent
  | refused hp hr =>
    simp only [List.mem_append, hp.not_sent, false_or, List.mem_singleton, Action.sent.injEq,
      Except.ok.injEq] at hsent
    obtain ⟨-, -, rfl⟩ := hsent
    simp [hr]
  | answered hp hr =>
    simp only [List.mem_append, hp.not_sent, false_or, List.mem_singleton, Action.sent.injEq,
      Except.ok.injEq] at hsent
    obtain ⟨-, -, rfl⟩ := hsent
    simp [hr]

theorem Dispatched.eq_ok_of_sent {outcome : Except ExportError Http.Response}
    (h : e.Dispatched op log outcome) {agent : String} {request : Http.Request}
    {response : Http.Response} (hsent : .sent agent request (.ok response) ∈ log)
    (hsuccess : response.isSuccess = true) : outcome = .ok response := by
  rw [h.outcome_of_sent hsent, if_pos hsuccess]

section Decoders

variable [Decoder δ] [LawfulDecoder δ] {d : δ}

/-- Once the request was answered with success, the sink is not filled only if the transfer of the
answer fails. -/
theorem fill_error_of_sent (env : Environment ω) (e : Endpoint) (op : Operation)
    (hd : LawfulDecoder.Ready d) (hfresh : Decoder.records d = 0) (w : ω) (log : Log)
    {agent : String} {request : Http.Request} {response : Http.Response}
    (hbefore : .sent agent request (.ok response) ∉ log)
    (hsent : .sent agent request (.ok response) ∈ (e.fill env.logged op d (w, log)).world.2)
    (hsuccess : response.isSuccess = true) {x : ExportError}
    (h : (e.fill env.logged op d (w, log)).result = .error x) :
    ∃ w', (Transfer.run e.trailerDiagnostics env.target.sink.logged (e.body response)
      (d, w')).result = .error x := by
  obtain ⟨actions, outcome, w', hdispatched, hresult, hworld⟩ := e.dispatch_dispatched env op w log
  cases outcome with
  | error first =>
    have hlog : (e.fill env.logged op d (w, log)).world.2 = log ++ actions ++ [.sinkDropped] := by
      simp only [fill, hresult, hworld, Except.map]
      rfl
    rw [hlog] at hsent
    have hmem : .sent agent request (.ok response) ∈ actions := by simpa [hbefore] using hsent
    cases hdispatched.eq_ok_of_sent hmem hsuccess
  | ok response' =>
    obtain ⟨actions', outcome', w'', hmoved, hcount, hsink⟩ :=
      Transfer.run_moved e.trailerDiagnostics env.target.sink e.label response'.frames hd hfresh w'
        (log ++ actions)
    have hlog : (e.fill env.logged op d (w, log)).world.2 =
        log ++ actions ++ actions' ++ [.sinkDropped] := by
      simp only [fill, hresult, hworld, Except.map]
      exact congrArg (fun s => (env.logged.target.dropSink s).2) hsink
    rw [hlog] at hsent
    have hmem : .sent agent request (.ok response) ∈ actions := by
      simpa [hbefore, hmoved.not_sent] using hsent
    cases hdispatched.eq_ok_of_sent hmem hsuccess
    simp only [fill, hresult, hworld, Except.map] at h
    refine ⟨(w', log ++ actions), ?_⟩
    split at h
    · cases h
      assumption
    · cases h

/-- A call whose request was answered with success fails only as the transfer of the answer fails,
or in closing the output. -/
theorem performWith_error_of_sent (env : Environment ω) (e : Endpoint) (toggles : Toggles)
    (op : Operation) (hd : LawfulDecoder.Ready d) (hfresh : Decoder.records d = 0) (w : ω)
    {agent : String} {request : Http.Request} {response : Http.Response}
    (hsent : .sent agent request (.ok response) ∈
      (e.performWith env.logged toggles op d (w, [])).world.2)
    (hsuccess : response.isSuccess = true) {x : ExportError}
    (h : (e.performWith env.logged toggles op d (w, [])).result = .error x) :
    x.kind = .sink ∨
      ∃ w', (Transfer.run e.trailerDiagnostics env.target.sink.logged (e.body response)
        (d, w')).result = .error x := by
  cases hopen : env.target.openOutput w with
  | mk r w₁ =>
    have hopened : env.logged.target.openOutput (w, []) = (r, w₁, [.opened r]) := by
      simp only [Environment.logged, Target.logged, Log.enter, hopen, List.nil_append]
    cases r with
    | error reason => simp [performWith, hopened] at hsent
    | ok u =>
      cases hmake : env.target.openSink toggles w₁ with
      | mk r w₂ =>
        have hmade : env.logged.target.openSink toggles (w₁, [.opened (.ok ())]) =
            (r, w₂, [.opened (.ok ()), .sinkMade toggles r]) := by
          simp only [Environment.logged, Target.logged, Log.enter, hmake, List.cons_append,
            List.nil_append]
        cases r with
        | error reason =>
          let refused : Step Nat (ω × Log) :=
            ⟨.error reason, [], w₂, [.opened (.ok ()), .sinkMade toggles (.error reason)]⟩
          have hrefused : refused.result = .error reason := rfl
          obtain ⟨closing, w₃, hresult, hworld⟩ := settle_error env e op hrefused
          simp only [refused, List.cons_append, List.nil_append] at hworld
          simp [performWith, hopened, deliver, hmade, hworld] at hsent
        | ok u =>
          simp only [performWith, hopened, deliver, hmade] at hsent h
          let before : Log := [.opened (.ok ()), .sinkMade toggles (.ok ())]
          cases hfill : (e.fill env.logged op d (w₂, before)).result with
          | error first =>
            obtain ⟨closing, w₃, hresult, hworld⟩ := settle_error env e op hfill
            rw [hresult] at h
            cases h
            rw [hworld] at hsent
            have hmem : .sent agent request (.ok response) ∈
                (e.fill env.logged op d (w₂, before)).world.2 := by simpa using hsent
            exact .inr (e.fill_error_of_sent env op hd hfresh w₂ before (by simp [before]) hmem
              hsuccess hfill)
          | ok n =>
            obtain ⟨closing, w₃, hworld, hresult⟩ := settle_ok env e op hfill
            rw [hresult] at h
            cases closing with
            | error reason =>
              cases h
              exact .inl rfl
            | ok u => cases h

end Decoders

theorem perform_error_told (env : Environment ω) {e : Endpoint} (he : e.trailerDiagnostics = true)
    (toggles : Toggles) (op : Operation) (w : ω) {agent : String} {request : Http.Request}
    {response : Http.Response} {diagnostic : String}
    (hsent : .sent agent request (.ok response) ∈ (e.perform env.logged toggles op (w, [])).world.2)
    (hsuccess : response.isSuccess = true)
    (hwhole : response.frames.all (!·.isBreak) = true)
    (hdiagnostic : (Http.lastTrailers none response.frames).bind Diagnostic.ofTrailers? =
      some diagnostic)
    (hsize : Http.dataSize response.frames ≤ Http.Body.drainLimit) {x : ExportError}
    (h : (e.perform env.logged toggles op (w, [])).result = .error x) :
    x.kind = .sink ∨ ∃ first, x = .serverReported diagnostic first := by
  have htold : ∀ {δ : Type} [Decoder δ] [LawfulDecoder δ] (d : δ), LawfulDecoder.Ready d →
      Decoder.records d = 0 →
      .sent agent request (.ok response) ∈
        (e.performWith env.logged toggles op d (w, [])).world.2 →
      (e.performWith env.logged toggles op d (w, [])).result = .error x →
        x.kind = .sink ∨ ∃ first, x = .serverReported diagnostic first := by
    intro δ _ _ d hd hfresh hsent h
    rcases e.performWith_error_of_sent env toggles op hd hfresh w hsent hsuccess h with
      hsink | ⟨w', ht⟩
    · exact .inl hsink
    · rw [he] at ht
      exact Transfer.run_error_told _ e.label hwhole hdiagnostic hsize _ ht
  unfold perform at hsent h
  cases hkind : op.kind with
  | tuple =>
    rw [hkind] at hsent h
    exact htold TupleDecoder.initial TupleDecoder.initial_ready rfl hsent h
  | graph =>
    rw [hkind] at hsent h
    exact htold (GraphDecoder.initial e.graphMode) (GraphDecoder.initial_ready _) rfl hsent h
  | graphStore =>
    rw [hkind] at hsent h
    exact htold (GraphDecoder.initial e.graphMode) (GraphDecoder.initial_ready _) rfl hsent h

theorem Course.answer_of_sent {toggles : Toggles} {result : Except ExportError Summary}
    (h : e.Course toggles op (e.reading op) log result) {agent : String} {request : Http.Request}
    {response : Http.Response} (hsent : .sent agent request (.ok response) ∈ log)
    (hsuccess : response.isSuccess = true) :
    log.findSome? Action.answer? = some response ∧ ∃ request, e.request op = .ok request := by
  have hfilled : ∀ {log : Log} {result : Except ExportError Nat} (closing : Except IoError Unit),
      e.Filled op (e.reading op) log result → .sent agent request (.ok response) ∈ log →
        let whole : Log :=
          .opened (.ok ()) :: .sinkMade toggles (.ok ()) :: (log ++ [.closed closing])
        whole.findSome? Action.answer? = some response ∧ ∃ request, e.request op = .ok request := by
    intro log result closing hf hmem
    cases hf with
    | undispatched hd => cases hd.eq_ok_of_sent (by simpa using hmem) hsuccess
    | moved hd hm hr =>
      cases hd.eq_ok_of_sent (by simpa [hm.not_sent] using hmem) hsuccess
      refine ⟨?_, hd.request_ok⟩
      rw [List.append_assoc, List.append_assoc]
      exact Filled.answer_whole hd toggles _
  cases h with
  | outputRefused x => simp at hsent
  | sinkRefused x closing => simp at hsent
  | failed hf closing => exact hfilled closing hf (by simpa using hsent)
  | unclosed hf reason => exact hfilled _ hf (by simpa using hsent)
  | complete hf => exact hfilled _ hf (by simpa using hsent)

/-- A call whose request was answered with success succeeds exactly if the answer can be read and no
action has failed. -/
theorem Course.ok_iff {toggles : Toggles} {result : Except ExportError Summary}
    (h : e.Course toggles op (e.reading op) log result) {agent : String} {request : Http.Request}
    {response : Http.Response} (hsent : .sent agent request (.ok response) ∈ log)
    (hsuccess : response.isSuccess = true) :
    (∃ summary, result = .ok summary) ↔
      (e.reading op response.frames).ending = .ok () ∧ e.shown log = [] := by
  obtain ⟨hanswer, hrequest⟩ := h.answer_of_sent hsent hsuccess
  have hunseen := unseen?_of_answer hrequest hanswer
  have htells := h.tells
  constructor
  · rintro ⟨summary, rfl⟩
    have hnone : ∀ action ∈ log, e.failureAt (e.unseen? op log) action = none :=
      List.filterMap_eq_nil_iff.1 htells
    obtain ⟨_, _, response', hp, -, hend, hlog, -⟩ := h.log_of_ok
    have hdropped : e.unseen? op log = none := hnone .sinkDropped (by simp [hlog])
    refine ⟨?_, List.filterMap_eq_nil_iff.2 fun action hmem => ?_⟩
    · rw [hunseen] at hdropped
      cases hr : (e.reading op response.frames).ending with
      | error x => simp [hr] at hdropped
      | ok u => rfl
    · cases action with
      | sinkDropped => rfl
      | _ => exact hnone _ hmem
  · rintro ⟨hend, hshown⟩
    cases result with
    | ok summary => exact ⟨summary, rfl⟩
    | error x =>
      obtain ⟨first, rest, hfailures, -⟩ := htells
      have hmem : first ∈ e.failures op log := hfailures ▸ List.mem_cons_self
      obtain ⟨action, haction, hfails⟩ := List.mem_filterMap.1 hmem
      have hquiet := List.filterMap_eq_nil_iff.1 hshown action haction
      rw [hunseen, hend] at hfails
      cases action with
      | sinkDropped => cases hfails
      | _ => cases hquiet.symm.trans hfails

end Endpoint

namespace Client.Call

/-- **What trailers do to a call.** Let the request of a call be answered with success, and let the
body of the answer be whole and end with trailers that report a failure, where these are asked for.
The call succeeds exactly if all the data decode as a whole and no action fails. So trailers by
themselves fail no call; but if one fails, for a body that is not longer than what is drained, then
it tells what the trailers say, unless it is the output that failed. -/
theorem failure_told_by_trailers (env : Environment ω) (c : Client) {call : Call} {op : Operation}
    (hop : call.operation? c = some op) (w : ω) {agent : String} {request : Http.Request}
    {response : Http.Response} {diagnostic : String}
    (htrailers : (c.choose env w).1.trailerDiagnostics = true)
    (hsent : .sent agent request (.ok response) ∈ (call.make env.logged c (w, [])).1.world.2)
    (hsuccess : response.isSuccess = true)
    (hwhole : response.frames.all (!·.isBreak) = true)
    (hdiagnostic : (Http.lastTrailers none response.frames).bind Diagnostic.ofTrailers? =
      some diagnostic) :
    let e := (c.choose env w).1
    let s := (call.make env.logged c (w, [])).1
    let said := e.decoding op (response.frames.flatMap Http.Frame.octets)
    ((∃ summary, s.result = .ok summary) ↔ said.ending = .ok () ∧ e.shown s.world.2 = []) ∧
    (Http.dataSize response.frames ≤ Http.Body.drainLimit → ∀ x, s.result = .error x →
      x.kind = .sink ∨ ∃ first, x = .serverReported diagnostic first) := by
  intro e s said
  obtain ⟨notices, hmake⟩ := make_eq_run env.logged c (w, []) hop
  have hchoose : c.choose env.logged (w, []) =
      (e, (c.choose env w).2.1, (c.choose env w).2.2, []) := by
    simp only [choose, Pool.choose_logged, e]
  have hresult : s.result = (c.run env.logged op (w, [])).1.result := by
    simp only [s, hmake]
    rfl
  have hworld : s.world = (c.run env.logged op (w, [])).1.world := by
    simp only [s, hmake]
    rfl
  change .sent agent request (.ok response) ∈ s.world.2 at hsent
  constructor
  · have hcourse : e.Course c.toggles op (e.reading op) s.world.2 s.result := by
      rw [hresult, hworld]
      exact c.run_course env op w
    have hsaid : e.reading op response.frames = said :=
      e.reading_eq_decoding op (Http.break?_eq_none.2 hwhole)
    rw [← hsaid]
    exact hcourse.ok_iff hsent hsuccess
  · intro hsize x hx
    rw [hworld, run, hchoose] at hsent
    rw [hresult, run, hchoose] at hx
    exact Endpoint.perform_error_told env htrailers _ op _ hsent hsuccess hwhole hdiagnostic hsize
      hx

/-- An endpoint without a signer that is asked for trailers. -/
def loopback : Endpoint where
  label := "[::1]:8182"
  baseUrl := "http://[::1]:8182"
  queryUrl := "http://[::1]:8182/sparql"
  signing := none
  trailerDiagnostics := true
  lenientIriParsing := true
  userAgent := "sparql-export/0.1.0"

def loopbackClient : Client := ⟨⟨[loopback], List.cons_ne_nil _ _, .random, 0⟩, Toggles.none⟩

def subjects : Call := .tupleQuery "SELECT ?s WHERE { ?s ?p ?o }"

/-- The frames of a server that fails after so much of the body. -/
def interrupted (body : String) : List Http.Frame :=
  [.data (Utf8.ofString body),
    .trailers [("x-neptune-status", Utf8.ofString "InternalFailureException"),
      ("x-neptune-detail", Utf8.ofString "disk full")]]

def interruptedCall (body : String) : Step Summary (Rehearsal.World × Log) :=
  (subjects.make (Rehearsal.stage ⟨.log, true, none⟩ ⟨none⟩).logged loopbackClient
    (.start [.answer ⟨200, [], interrupted body⟩], [])).1

theorem lastTrailers_interrupted (body : String) :
    (Http.lastTrailers none (interrupted body)).bind Diagnostic.ofTrailers? =
      some "InternalFailureException: disk full" := by
  change Diagnostic.ofTrailers? _ = _
  decide +kernel

/-- If the server fails within a row, then the call fails with what its trailers say. -/
theorem failure_told_within_row :
    let s := interruptedCall "?s\n<urn:s>\n<urn"
    (¬∃ summary, s.result = .ok summary) ∧ ∀ x, s.result = .error x → x.kind = .sink ∨
      ∃ first, x = .serverReported "InternalFailureException: disk full" first := by
  intro s
  have hanswer : (s.world.2.findSome? Action.answer?).map Http.Response.frames =
      some (interrupted "?s\n<urn:s>\n<urn") := by decide +kernel
  obtain ⟨response, hfound, hframes⟩ := Option.map_eq_some_iff.1 hanswer
  obtain ⟨action, hmem, hsome⟩ := List.exists_of_findSome?_eq_some hfound
  obtain ⟨agent, request, rfl, hsuccess⟩ := Action.eq_sent_of_answer? hsome
  have hwhole : response.frames.all (!·.isBreak) = true := by
    rw [hframes]
    rfl
  have hdiagnostic := lastTrailers_interrupted "?s\n<urn:s>\n<urn"
  rw [← hframes] at hdiagnostic
  obtain ⟨hok, htold⟩ := failure_told_by_trailers (Rehearsal.stage ⟨.log, true, none⟩ ⟨none⟩)
    loopbackClient (show subjects.operation? loopbackClient = some _ from rfl)
    (.start [.answer ⟨200, [], interrupted _⟩]) rfl hmem hsuccess hwhole hdiagnostic
  rw [hframes] at hok htold
  refine ⟨fun h => ?_, htold (by decide +kernel)⟩
  have hend := (hok.1 h).1
  have hcut : (loopback.decoding (.tupleQuery "SELECT ?s WHERE { ?s ?p ?o }")
      ((interrupted "?s\n<urn:s>\n<urn").flatMap Http.Frame.octets)).ending.isOk = false := by
    decide +kernel
  rw [show (loopback.decoding _ _).ending = .ok () from hend] at hcut
  cases hcut

/-- If the server fails between two rows, then the call succeeds, although the trailers that it has
asked for say that the server has failed. -/
theorem failure_hidden_between_rows :
    loopback.trailerDiagnostics = true ∧
      (interrupted "?s\n<urn:s>\n").all (!·.isBreak) = true ∧
      (Http.lastTrailers none (interrupted "?s\n<urn:s>\n")).bind Diagnostic.ofTrailers? =
        some "InternalFailureException: disk full" ∧
      ((interruptedCall "?s\n<urn:s>\n").world.2.findSome? Action.answer?).map
        Http.Response.frames = some (interrupted "?s\n<urn:s>\n") ∧
      (interruptedCall "?s\n<urn:s>\n").result.toOption = some ⟨"[::1]:8182", .tuple, 1⟩ :=
  ⟨rfl, rfl, lastTrailers_interrupted _, by decide +kernel, by decide +kernel⟩

end Client.Call
end RdfExport
