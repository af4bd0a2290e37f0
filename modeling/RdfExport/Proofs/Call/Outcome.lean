import RdfExport.Proofs.Call.Records

/-!
# RdfExport.Proofs.Call.Outcome

What the result of a call tells. A call succeeds exactly if nothing in it has failed, and then the
sink holds all that the answer says. Otherwise it reports what failed first, and what the sink holds
is the beginning of it.

* `Action.failure?`, `Endpoint.unseen?`: what can fail in a call.
* `Endpoint.failures`: all that has failed in a call, in order.
* `Client.run_outcome_sound`: how the result follows from that.
-/

namespace RdfExport

variable {ω : Type}

/-- The answer of an action, if it is a success. -/
def Action.answer? : Action → Option Http.Response
  | .sent _ _ (.ok response) => if response.isSuccess then some response else none
  | _ => none

/-- The failure that shows in an action on behalf of an endpoint. -/
def Action.failure? (e : Endpoint) : Action → Option ExportError
  | .opened (.error x) => some x
  | .sinkMade _ (.error x) => some x
  | .signed _ _ (.error x) => some x
  | .sent _ _ (.error reason) => some (e.broken reason)
  | .sent _ _ (.ok response) =>
    if response.isSuccess then none
    else
      some (.http e.label response.status (Diagnostic.ofRefusal (Http.refusalText response.frames)))
  | .offered _ (.error x) => some x
  | .finished (.error x) => some x
  | .closed (.error reason) => some (.output reason)
  | _ => none

namespace Endpoint

/-- The failure that shows in no action: the request could not be built, or the frames of the answer
broke or did not say what they should. -/
def unseen? (e : Endpoint) (op : Operation) (log : Log) : Option ExportError :=
  match e.request op with
  | .error fault => some (e.broken (unbuilt fault))
  | .ok _ =>
    match log.findSome? Action.answer? with
    | some response =>
      match (e.reading op response.frames).ending with
      | .error x => some x
      | .ok () => none
    | none => none

/-- What has failed up to an action. A failure that shows in no action, if there is one, lies just
before the sink is dropped. -/
def failureAt (e : Endpoint) (unseen : Option ExportError) : Action → Option ExportError
  | .sinkDropped => unseen
  | action => action.failure? e

/-- All that has failed in a call, in order. -/
def failures (e : Endpoint) (op : Operation) (log : Log) : List ExportError :=
  log.filterMap (e.failureAt (e.unseen? op log))

variable {e : Endpoint} {op : Operation} {log : Log}

def shown (e : Endpoint) (log : Log) : List ExportError := log.filterMap (Action.failure? e)

theorem shown_append (a b : Log) : e.shown (a ++ b) = e.shown a ++ e.shown b :=
  List.filterMap_append

theorem shown_offers (records : List Record) : e.shown (offers records) = [] := by
  induction records with
  | nil => rfl
  | cons record rest ih => exact ih

theorem shown_prepared {request : Http.Request} (h : e.Prepared op log request) :
    e.shown log = [] := by
  cases h <;> rfl

/-- Up to the answer, what fails shows in the actions or is a request that cannot be built. -/
theorem shown_dispatched_error {x : ExportError} (h : e.Dispatched op log (.error x)) :
    e.shown log = [x] ∨ e.shown log = [] ∧ ∀ log', e.unseen? op log' = some x := by
  cases h with
  | unbuilt hrequest =>
    refine .inr ⟨rfl, fun log' => ?_⟩
    simp only [unseen?, hrequest]
  | unsigned hrequest hs => exact .inl rfl
  | unanswered hp =>
    refine .inl ?_
    rw [shown_append, shown_prepared hp]
    rfl
  | refused hp hr =>
    refine .inl ?_
    rw [shown_append, shown_prepared hp]
    simp [shown, Action.failure?, hr]

theorem Dispatched.answer {response : Http.Response} (h : e.Dispatched op log (.ok response)) :
    log.findSome? Action.answer? = some response := by
  cases h with
  | answered hp hr =>
    have hbefore : ∀ {before : Log} {request : Http.Request}, e.Prepared op before request →
        before.findSome? Action.answer? = none := by
      intro before request hp
      cases hp <;> rfl
    rw [List.findSome?_append, hbefore hp]
    simp [Action.answer?, hr]

theorem Dispatched.shown_ok {response : Http.Response} (h : e.Dispatched op log (.ok response)) :
    e.shown log = [] := by
  cases h with
  | answered hp hr =>
    rw [shown_append, shown_prepared hp]
    simp [shown, Action.failure?, hr]

theorem Dispatched.request_ok {response : Http.Response} (h : e.Dispatched op log (.ok response)) :
    ∃ request, e.request op = .ok request := by
  cases h with
  | answered hp hr =>
    cases hp with
    | plain hrequest hs => exact ⟨_, hrequest⟩
    | signed hrequest hs => exact ⟨_, hrequest⟩

theorem Dispatched.not_dropped {outcome : Except ExportError Http.Response}
    (h : e.Dispatched op log outcome) : .sinkDropped ∉ log := by
  intro hmem
  rcases h.action_of_mem hmem with ⟨_, _, _, heq⟩ | ⟨_, _, heq, -⟩ <;> cases heq

theorem not_dropped_moved {em : Emission Unit} {outcome : Except ExportError Nat}
    (h : Moved em log outcome) : .sinkDropped ∉ log := by
  cases h <;> simp [offers]

/-- While what the frames say is moved, what fails first shows in an action, or it is the frames
that fail after all their records. -/
theorem shown_moved_error {em : Emission Unit} {x : ExportError} (h : Moved em log (.error x)) :
    e.shown log = [x] ∨ e.shown log = [] ∧ em.ending = .error x := by
  cases h with
  | refused hpre =>
    refine .inl ?_
    rw [shown_append, shown_offers]
    rfl
  | unread hend => exact .inr ⟨shown_offers em.records, hend⟩
  | unfinished hend =>
    refine .inl ?_
    rw [shown_append, shown_offers]
    rfl

theorem shown_moved_ok {em : Emission Unit} {n : Nat} (h : Moved em log (.ok n)) :
    e.shown log = [] ∧ em.ending = .ok () := by
  cases h with
  | complete hend =>
    refine ⟨?_, hend⟩
    rw [shown_append, shown_offers]
    rfl

theorem unseen?_of_answer {response : Http.Response} {whole : Log}
    (hrequest : ∃ request, e.request op = .ok request)
    (hanswer : whole.findSome? Action.answer? = some response) :
    e.unseen? op whole =
      match (e.reading op response.frames).ending with
      | .error x => some x
      | .ok () => none := by
  obtain ⟨request, hrequest⟩ := hrequest
  simp only [unseen?, hrequest, hanswer]

theorem filterMap_failureAt (unseen : Option ExportError) (h : .sinkDropped ∉ log) :
    log.filterMap (e.failureAt unseen) = e.shown log := by
  induction log with
  | nil => rfl
  | cons action rest ih =>
    have hrest := ih fun hmem => h (List.mem_cons_of_mem action hmem)
    have haction : e.failureAt unseen action = action.failure? e := by
      cases action with
      | sinkDropped => exact absurd List.mem_cons_self h
      | _ => rfl
    rw [shown, List.filterMap_cons, List.filterMap_cons, haction, hrest, shown]

theorem failures_eq (e : Endpoint) (op : Operation) {a b : Log} (ha : .sinkDropped ∉ a)
    (hb : .sinkDropped ∉ b) :
    e.failures op (a ++ .sinkDropped :: b) =
      e.shown a ++ (e.unseen? op (a ++ .sinkDropped :: b)).toList ++ e.shown b := by
  rw [failures, List.filterMap_append, List.filterMap_cons, filterMap_failureAt _ ha,
    filterMap_failureAt _ hb, failureAt]
  cases e.unseen? op (a ++ .sinkDropped :: b) <;> simp

/-- Closing the output comes after all else. -/
theorem failures_whole (e : Endpoint) (op : Operation) (toggles : Toggles)
    (closing : Except IoError Unit) (h : .sinkDropped ∉ log) :
    let whole : Log :=
      .opened (.ok ()) :: .sinkMade toggles (.ok ()) :: (log ++ [.sinkDropped] ++ [.closed closing])
    e.failures op whole =
      e.shown log ++ (e.unseen? op whole).toList ++ e.shown [.closed closing] := by
  have hbefore :
      .sinkDropped ∉ (.opened (.ok ()) :: .sinkMade toggles (.ok ()) :: log : Log) := by
    simpa using h
  have hshown : e.shown (.opened (.ok ()) :: .sinkMade toggles (.ok ()) :: log) = e.shown log := rfl
  have hclosed : .sinkDropped ∉ ([.closed closing] : Log) := by simp
  have hfailures := failures_eq e op hbefore hclosed
  rw [hshown] at hfailures
  simpa using hfailures

/-- What the result of a call says of the failures in its log. -/
def Tells (e : Endpoint) (op : Operation) (log : Log) (result : Except ExportError Summary) :
    Prop :=
  match result with
  | .ok _ => e.failures op log = []
  | .error x => ∃ first rest, e.failures op log = first :: rest ∧
      (x = first ∨ first.kind ≠ .sink ∧
        (∃ response, log.findSome? Action.answer? = some response) ∧
        ∃ diagnostic, x = .serverReported diagnostic first)

theorem Filled.answer_whole {response : Http.Response} (h : e.Dispatched op log (.ok response))
    (toggles : Toggles) (after : Log) :
    (.opened (.ok ()) :: .sinkMade toggles (.ok ()) :: (log ++ after) : Log).findSome?
      Action.answer? = some response := by
  simp only [List.findSome?_cons, List.findSome?_append, h.answer, Action.answer?, Option.some_or]

/-- If the sink is filled only the output's closing can fail, and otherwise what failed first is
reported, whatever the closing does. -/
theorem Filled.tells {result : Except ExportError Nat}
    (h : e.Filled op (e.reading op) log result) (toggles : Toggles)
    (closing : Except IoError Unit) :
    let whole : Log := .opened (.ok ()) :: .sinkMade toggles (.ok ()) :: (log ++ [.closed closing])
    match result with
    | .ok _ => e.failures op whole = e.shown [.closed closing]
    | .error x => e.Tells op whole (.error x) := by
  cases h with
  | @undispatched log x hd =>
    have hfailures := failures_whole e op toggles closing hd.not_dropped
    rcases shown_dispatched_error hd with hshown | ⟨hshown, hunseen⟩
    · rw [hshown] at hfailures
      exact ⟨x, _, hfailures, .inl rfl⟩
    · simp only [hshown, hunseen, Option.toList_some] at hfailures
      exact ⟨x, _, hfailures, .inl rfl⟩
  | @moved log log' response outcome result hd hm hr =>
    have hdropped : .sinkDropped ∉ log ++ log' := by
      rw [List.mem_append, not_or]
      exact ⟨hd.not_dropped, not_dropped_moved hm⟩
    have hfailures := failures_whole e op toggles closing hdropped
    have hanswer := answer_whole hd toggles (log' ++ [.sinkDropped] ++ [.closed closing])
    simp only [← List.append_assoc] at hanswer
    simp only [unseen?_of_answer hd.request_ok hanswer, shown_append, hd.shown_ok,
      List.nil_append] at hfailures
    -- after a success only the moving can fail, in an action or in the frames
    cases outcome with
    | ok n =>
      obtain ⟨hshown, hend⟩ := shown_moved_ok (e := e) hm
      cases hr
      simpa [hshown, hend] using hfailures
    | error first =>
      obtain ⟨x, hx, rfl⟩ := hr
      have hfirst : ∃ rest, e.failures op
          (.opened (.ok ()) :: .sinkMade toggles (.ok ()) ::
            (log ++ log' ++ [.sinkDropped] ++ [.closed closing])) = first :: rest := by
        rcases shown_moved_error (e := e) hm with hshown | ⟨hshown, hend⟩
        · rw [hshown] at hfailures
          exact ⟨_, hfailures⟩
        · simp only [hshown, hend, Option.toList_some] at hfailures
          exact ⟨_, hfailures⟩
      obtain ⟨rest, hrest⟩ := hfirst
      refine ⟨first, rest, hrest, ?_⟩
      rcases hx with rfl | ⟨hkind, hx⟩
      · exact .inl rfl
      · exact .inr ⟨hkind, ⟨response, hanswer⟩, hx⟩

theorem Course.tells {toggles : Toggles} {result : Except ExportError Summary}
    (h : e.Course toggles op (e.reading op) log result) : e.Tells op log result := by
  cases h with
  | outputRefused x => exact ⟨x, _, rfl, .inl rfl⟩
  | sinkRefused x closing => exact ⟨x, _, rfl, .inl rfl⟩
  | failed hf closing => exact hf.tells toggles closing
  | unclosed hf reason =>
    have hfailures := hf.tells toggles (.error reason)
    exact ⟨.output reason, [], hfailures, .inl rfl⟩
  | complete hf => exact hf.tells toggles (.ok ())

theorem Course.log_of_ok {toggles : Toggles} {summary : Summary}
    (h : e.Course toggles op (e.reading op) log (.ok summary)) :
    ∃ before request response, e.Prepared op before request ∧ response.isSuccess = true ∧
      (e.reading op response.frames).ending = .ok () ∧
      log = [.opened (.ok ()), .sinkMade toggles (.ok ())] ++ before ++
        [.sent e.userAgent request (.ok response)] ++
        offers (e.reading op response.frames).records ++
        [.finished (.ok ()), .sinkDropped, .closed (.ok ())] ∧
      summary = ⟨e.label, op.kind, (e.reading op response.frames).records.length⟩ := by
  cases h with
  | complete hf =>
    cases hf with
    | @moved _ _ response outcome _ hd hm hr =>
      cases outcome with
      | error first =>
        obtain ⟨x, -, hx⟩ := hr
        cases hx
      | ok n =>
        cases hr
        cases hm with
        | complete hend =>
          cases hd with
          | @answered before request _ hp hsuccess =>
            exact ⟨before, request, response, hp, hsuccess, hend, by simp, rfl⟩

end Endpoint

/-- **The outcome of a call is sound.** If a call succeeds, nothing has failed: the request of the
chosen endpoint was answered with success, no frame of the answer broke, and the sink was offered
exactly the records of all its data taken together, in order and each once, accepted them all, and
was finished after them before the output was closed; the summary counts these records and names
the endpoint. If a call fails, it reports what failed first, perhaps once together with what the
server said if that was after the answer; closing the output after a failure does not change that.
In any case the records that the sink has accepted are the first of those in the data. -/
theorem Client.run_outcome_sound (env : Environment ω) (c : Client) (op : Operation) (w : ω) :
    let e := (c.choose env w).1
    let s := (c.run env.logged op (w, [])).1
    let log := s.world.2
    s.project Prod.fst = (c.run env op w).1 ∧
    (∀ summary, s.result = .ok summary →
      e.failures op log = [] ∧
      ∃ before request response, e.Prepared op before request ∧ response.isSuccess = true ∧
        response.frames.all (!·.isBreak) = true ∧
        let said := e.decoding op (response.frames.flatMap Http.Frame.octets)
        said.ending = .ok () ∧
        log = [.opened (.ok ()), .sinkMade c.toggles (.ok ())] ++ before ++
          [.sent e.userAgent request (.ok response)] ++ offers said.records ++
          [.finished (.ok ()), .sinkDropped, .closed (.ok ())] ∧
        summary = ⟨e.label, op.kind, said.records.length⟩) ∧
    (∀ x, s.result = .error x →
      ∃ first rest, e.failures op log = first :: rest ∧
        (x = first ∨ first.kind ≠ .sink ∧
          (∃ response, log.findSome? Action.answer? = some response) ∧
          ∃ diagnostic, x = .serverReported diagnostic first)) ∧
    (∀ agent request response, .sent agent request (.ok response) ∈ log →
      log.accepted <+: (e.decoding op (Http.dataOf response.frames)).records) ∧
    ((∀ agent request response, .sent agent request (.ok response) ∉ log) → log.accepted = []) := by
  intro e s log
  have hcourse : e.Course c.toggles op (e.reading op) log s.result := c.run_course env op w
  refine ⟨?_, ?_, ?_, ?_, ?_⟩
  · exact (congrArg Prod.fst (c.run_projects env.logged_projects op (w, []))).symm
  · intro summary hok
    rw [hok] at hcourse
    obtain ⟨before, request, response, hp, hsuccess, hend, hlog, hsummary⟩ := hcourse.log_of_ok
    have hbreak := Endpoint.break?_of_reading_ok hend
    rw [e.reading_eq_decoding op hbreak] at hend hlog hsummary
    exact ⟨hcourse.tells, before, request, response, hp, hsuccess, Http.break?_eq_none.1 hbreak,
      hend, hlog, hsummary⟩
  · intro x herror
    rw [herror] at hcourse
    exact hcourse.tells
  · intro agent request response hsent
    exact (hcourse.faithful.accepted hsent).trans (e.reading_records_prefix op response.frames)
  · intro hnone
    exact Log.accepted_eq_nil (hcourse.faithful.silent hnone)

end RdfExport
