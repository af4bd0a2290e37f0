import RdfExport.Proofs.Call.Records
import RdfExport.Proofs.Call.Turns
import RdfExport.Proofs.Requirements

/-!
# RdfExport.Proofs.Call.Signing

Who signs what. A client that signs has a region in all its endpoints, and keeps it. Each request
passes the signer just before it is sent, complete but for the signature, and is sent as the signer
leaves it. A signer that fails ends the call before anything is sent.

* `Action.isExchange`: the actions that deal with requests.
* `Endpoint.Exchanges`, `Endpoint.Course.exchanges`: which of these a call takes.
* `Client.after`: a client after any calls.
* `Client.signs_what_it_sends`: all of it, from the settings on.
-/

namespace RdfExport

variable {ω : Type}

/-- Whether an action signs or sends a request. -/
def Action.isExchange : Action → Bool
  | .signed _ _ _ | .sent _ _ _ => true
  | _ => false

theorem Moved.no_exchange {em : Emission Unit} {log : Log} {outcome : Except ExportError Nat}
    (h : Moved em log outcome) : ∀ action ∈ log, action.isExchange = false := by
  intro action hmem
  have hoffers : ∀ records : List Record, action ∈ offers records → action.isExchange = false := by
    intro records hmem
    obtain ⟨record, -, rfl⟩ := List.mem_map.1 hmem
    rfl
  cases h with
  | unread hend => exact hoffers _ hmem
  | refused _ | unfinished _ | complete _ =>
    rcases List.mem_append.1 hmem with hmem | hmem
    · exact hoffers _ hmem
    · rw [List.mem_singleton.1 hmem]
      rfl

namespace Endpoint

variable {e : Endpoint} {op : Operation} {log : Log}

theorem Dispatched.all_exchange {outcome : Except ExportError Http.Response}
    (h : e.Dispatched op log outcome) : ∀ action ∈ log, action.isExchange = true := by
  intro action hmem
  rcases h.action_of_mem hmem with ⟨_, _, _, rfl⟩ | ⟨_, _, rfl, -⟩ <;> rfl

/-- Where requests are signed, nothing is dispatched, or the signer refuses, or one request is sent
just as the signer has left it. -/
theorem Dispatched.cases_of_signing {region : String} (hs : e.signing = some region)
    {outcome : Except ExportError Http.Response} (h : e.Dispatched op log outcome) :
    log = [] ∨
      (∃ draft x, log = [.signed region draft (.error x)] ∧ outcome = .error x) ∨
      ∃ draft request answer, e.request op = .ok draft ∧
        log = [.signed region draft (.ok request), .sent e.userAgent request answer] := by
  have hsent : ∀ {before : Log} {request : Http.Request} (answer : Except IoError Http.Response),
      e.Prepared op before request → ∃ draft request' answer', e.request op = .ok draft ∧
        before ++ [.sent e.userAgent request answer] =
          [.signed region draft (.ok request'), .sent e.userAgent request' answer'] := by
    intro before request answer hp
    cases hp with
    | plain hrequest hnone =>
      rw [hnone] at hs
      cases hs
    | signed hrequest hs' =>
      rw [hs'] at hs
      cases hs
      exact ⟨_, request, answer, hrequest, rfl⟩
  cases h with
  | unbuilt hrequest => exact .inl rfl
  | @unsigned draft region' x hrequest hs' =>
    rw [hs'] at hs
    cases hs
    exact .inr (.inl ⟨draft, x, rfl, rfl⟩)
  | unanswered hp | refused hp hr | answered hp hr => exact .inr (.inr (hsent _ hp))

theorem Dispatched.not_signed (hs : e.signing = none)
    {outcome : Except ExportError Http.Response} (h : e.Dispatched op log outcome) {region : String}
    {draft : Http.Request} {r : Except ExportError Http.Request} :
    .signed region draft r ∉ log := by
  have hprepared : ∀ {before : Log} {request : Http.Request}, e.Prepared op before request →
      .signed region draft r ∉ before := by
    intro before request hp
    cases hp with
    | plain hrequest hnone => simp
    | signed hrequest hs' =>
      rw [hs'] at hs
      cases hs
  cases h with
  | unbuilt hrequest => simp
  | unsigned hrequest hs' =>
    rw [hs'] at hs
    cases hs
  | unanswered hp | refused hp hr | answered hp hr => simp [hprepared hp]

variable {read : List Http.Frame → Emission Unit}

/-- That `dispatched` is all that a call signs and sends. If the outcome is a failure, the call
fails with it: the sink is dropped, the output is closed, and that is all. -/
structure Exchanges (e : Endpoint) (toggles : Toggles) (op : Operation) (dispatched : Log)
    (outcome : Except ExportError Http.Response) (log : Log)
    (result : Except ExportError Summary) : Prop where
  dispatch : e.Dispatched op dispatched outcome
  exchanged : log.filter Action.isExchange = dispatched
  failed : ∀ x, outcome = .error x → result = .error x ∧ ∃ closing,
    log = [.opened (.ok ()), .sinkMade toggles (.ok ())] ++ dispatched ++
      [.sinkDropped, .closed closing]

/-- What is dispatched is all that is signed and sent while the sink is filled. If it fails, the
sink is dropped and that is all. -/
theorem Filled.exchanges {result : Except ExportError Nat} (h : e.Filled op read log result) :
    ∃ dispatched outcome, e.Dispatched op dispatched outcome ∧
      log.filter Action.isExchange = dispatched ∧
      ∀ x, outcome = .error x → log = dispatched ++ [.sinkDropped] ∧ result = .error x := by
  cases h with
  | @undispatched dispatched x hd =>
    refine ⟨dispatched, .error x, hd, ?_, ?_⟩
    · rw [List.filter_append, List.filter_eq_self.2 hd.all_exchange]
      exact List.append_nil _
    · rintro _ ⟨⟩
      exact ⟨rfl, rfl⟩
  | @moved dispatched moved response outcome result hd hm hr =>
    refine ⟨dispatched, .ok response, hd, ?_, fun x hx => by cases hx⟩
    have hmoved : moved.filter Action.isExchange = [] := by
      rw [List.filter_eq_nil_iff]
      intro action hmem
      rw [hm.no_exchange action hmem]
      exact Bool.false_ne_true
    rw [List.filter_append, List.filter_append, List.filter_eq_self.2 hd.all_exchange, hmoved,
      List.append_nil]
    exact List.append_nil _

theorem Course.exchanges {toggles : Toggles} {result : Except ExportError Summary}
    (h : e.Course toggles op read log result) :
    log.filter Action.isExchange = [] ∨
      ∃ dispatched outcome, e.Exchanges toggles op dispatched outcome log result := by
  have hfilled : ∀ {log : Log} {filled : Except ExportError Nat} (closing : Except IoError Unit),
      e.Filled op read log filled → (∀ x, filled = .error x → result = .error x) →
        ∃ dispatched outcome, e.Exchanges toggles op dispatched outcome
          (.opened (.ok ()) :: .sinkMade toggles (.ok ()) :: (log ++ [.closed closing]))
          result := by
    intro log filled closing hf hresult
    obtain ⟨dispatched, outcome, hd, hfilter, herror⟩ := hf.exchanges
    refine ⟨dispatched, outcome, hd, ?_, fun x hx => ?_⟩
    · rw [← hfilter]
      simp [Action.isExchange]
    · obtain ⟨rfl, hfails⟩ := herror x hx
      exact ⟨hresult x hfails, closing, by simp⟩
  cases h with
  | outputRefused x => exact .inl rfl
  | sinkRefused x closing => exact .inl rfl
  | failed hf closing =>
    refine .inr (hfilled closing hf fun x hx => ?_)
    cases hx
    rfl
  | unclosed hf reason => exact .inr (hfilled _ hf fun x hx => by cases hx)
  | complete hf => exact .inr (hfilled _ hf fun x hx => by cases hx)

theorem request_headers {request : Http.Request} (h : e.request op = .ok request) :
    ("accept", op.kind.accept) ∈ request.headers ∧
      (e.trailerDiagnostics = true → ("te", "trailers") ∈ request.headers) := by
  unfold Endpoint.request at h
  cases hurl : Net.Url.parse (e.parts op).2.1 with
  | error fault => simp [hurl] at h
  | ok url =>
    simp only [hurl, Except.ok.injEq] at h
    subst h
    refine ⟨by simp, fun ht => ?_⟩
    simp [ht]

end Endpoint

namespace Client

/-- Where requests are to be signed there is a signer and a region: that of the settings, or else
that of the environment, trimmed. Where they are not, no region is kept, signer or not. -/
theorem signingRegion_ok {c : Config} {hasSigner : Bool} {environment : Option String}
    {notices : List Notice} {signing : Option String}
    (h : signingRegion c hasSigner environment = .ok (notices, signing)) :
    if c.iamAuth then
      hasSigner = true ∧ signing.isSome = true ∧ signing =
        (c.serviceRegion.bind Text.nonBlank?).or (environment.bind Text.nonBlank?)
    else signing = none := by
  unfold signingRegion at h
  rcases c.region_cases environment with
    ⟨hauth, hregion⟩ | ⟨own, hauth, hown, hregion⟩ | ⟨-, -, hregion⟩
  · rw [hregion] at h
    rw [hauth, if_neg Bool.false_ne_true]
    cases hasSigner <;> cases h <;> rfl
  · rw [hregion] at h
    rw [hauth, if_pos rfl, Config.regionOf_iff.1 hown]
    cases hasSigner <;> cases h
    exact ⟨rfl, rfl, rfl⟩
  · rw [hregion] at h
    cases h

theorem Holds.of_mem {c : Config} {toggles : Toggles} {signing : Option String} {client : Client}
    (h : client.Holds c toggles signing) {e : Endpoint} (he : e ∈ client.pool.endpoints) :
    e.signing = signing ∧ e.trailerDiagnostics = c.trailerDiagnostics := by
  obtain ⟨index, he⟩ := List.mem_iff_getElem?.1 he
  have hlt : index < c.endpoints.length := h.size ▸ (List.getElem?_eq_some_iff.1 he).1
  exact (Endpoint.ofHost_ok (h.ofHost_at (List.getElem?_eq_getElem hlt) he)).2.2

theorem choose_mem (c : Client) (env : Environment ω) (w : ω) :
    (c.choose env w).1 ∈ c.pool.endpoints := List.get_mem ..

/-- A call leaves the endpoints and the toggles of a client as they are. -/
theorem Call.make_keeps (env : Environment ω) (c : Client) (call : Call) (w : ω) :
    (call.make env c w).2.pool.endpoints = c.pool.endpoints ∧
      (call.make env c w).2.toggles = c.toggles := by
  cases hop : call.operation? c with
  | none =>
    obtain ⟨x, hmake⟩ := Call.make_refused (ω := ω) (Call.operation?_eq_none.1 hop)
    rw [hmake]
    exact ⟨rfl, rfl⟩
  | some op =>
    rw [Call.make_eq env c w hop]
    refine ⟨?_, rfl⟩
    change (c.pool.nextIndex env.draw w).2.1.endpoints = c.pool.endpoints
    unfold Pool.nextIndex
    by_cases hone : c.pool.size = 1
    · rw [if_pos hone]
    · rw [if_neg hone]
      cases c.pool.strategy <;> rfl

/-- A client after calls. -/
def after (c : Client) (visits : List (Visit ω)) : Client :=
  visits.foldl (fun c v => (v.call.make v.env c v.world).2) c

theorem after_keeps (c : Client) (visits : List (Visit ω)) :
    (c.after visits).pool.endpoints = c.pool.endpoints ∧ (c.after visits).toggles = c.toggles := by
  induction visits generalizing c with
  | nil => exact ⟨rfl, rfl⟩
  | cons v rest ih =>
    obtain ⟨hendpoints, htoggles⟩ := Call.make_keeps v.env c v.call v.world
    obtain ⟨hendpoints', htoggles'⟩ := ih (v.call.make v.env c v.world).2
    exact ⟨hendpoints'.trans hendpoints, htoggles'.trans htoggles⟩

theorem Call.make_exchanges (env : Environment ω) (c : Client) (call : Call) (w : ω) :
    let s := (call.make env.logged c (w, [])).1
    s.world.2.filter Action.isExchange = [] ∨
      ∃ op dispatched outcome, call.operation? c = some op ∧
        (c.choose env w).1.Exchanges c.toggles op dispatched outcome s.world.2 s.result := by
  intro s
  cases hop : call.operation? c with
  | none =>
    obtain ⟨x, hmake⟩ := Call.make_refused (ω := ω × Log) (Call.operation?_eq_none.1 hop)
    left
    simp only [s, hmake, List.filter_nil]
  | some op =>
    have hmake := Call.make_eq env.logged c (w, []) hop
    have hresult : s.result = (c.run env.logged op (w, [])).1.result := by
      simp only [s, hmake, Step.after]
    have hworld : s.world = (c.run env.logged op (w, [])).1.world := by
      simp only [s, hmake, Step.after]
    rw [hresult, hworld]
    rcases (c.run_course env op w).exchanges with hnone | ⟨dispatched, outcome, hexchanges⟩
    · exact .inl hnone
    · exact .inr ⟨op, dispatched, outcome, rfl, hexchanges⟩

/-- **A client that signs sends nothing unsigned.** Let settings open a client, and let any calls be
made at it before this one. If requests are to be signed, then there is a signer, and a request that
the call sends is one that the signer has left so. The signer was given it just before, and this is
all it was given: the whole request for the operation, for the region of the settings or of the
environment, trimmed. If the signer fails, then the call fails with just that, and all it has done
besides is that the output was opened and the sink made, and that the sink was dropped and the
output closed. If requests are not to be signed, then the signer is given nothing, whether there is
one or not. -/
theorem signs_what_it_sends {settings : Config} {toggles : Toggles} {hasSigner : Bool}
    {environment : Option String} {client : Client}
    (hopen : (ofConfig settings toggles hasSigner environment).2 = .ok client)
    (visits : List (Visit ω)) (call : Call) (env : Environment ω) (w : ω) :
    let now := client.after visits
    let e := (now.choose env w).1
    let s := (call.make env.logged now (w, [])).1
    let log := s.world.2
    s.project Prod.fst = (call.make env now w).1 ∧
    if settings.iamAuth then
      hasSigner = true ∧ ∃ region,
        (settings.serviceRegion.bind Text.nonBlank?).or (environment.bind Text.nonBlank?) =
          some region ∧
        (∀ agent request answer, .sent agent request answer ∈ log → ∃ op draft,
          call.operation? now = some op ∧ e.request op = .ok draft ∧
          ("accept", op.kind.accept) ∈ draft.headers ∧
          (settings.trailerDiagnostics = true → ("te", "trailers") ∈ draft.headers) ∧
          log.filter Action.isExchange =
            [.signed region draft (.ok request), .sent agent request answer]) ∧
        ∀ region' draft x, .signed region' draft (.error x) ∈ log →
          region' = region ∧ s.result = .error x ∧ ∃ closing,
            log = [.opened (.ok ()), .sinkMade toggles (.ok ()), .signed region draft (.error x),
              .sinkDropped, .closed closing]
    else ∀ region draft r, .signed region draft r ∉ log := by
  intro now e s log
  refine ⟨Call.make_project env now call w [], ?_⟩
  obtain ⟨-, notices, signing, hsigning, hclient⟩ := ofConfig_ok_iff.1 hopen
  obtain ⟨hendpoints, htoggles⟩ := client.after_keeps visits
  obtain ⟨hregion, htrailers⟩ := hclient.of_mem (e := e) (hendpoints ▸ now.choose_mem env w)
  have hok := signingRegion_ok hsigning
  -- an action on a request is one of those that were dispatched
  have hdispatched : ∀ {action : Action}, action ∈ log → action.isExchange = true →
      ∃ op dispatched outcome, action ∈ dispatched ∧ call.operation? now = some op ∧
        e.Exchanges now.toggles op dispatched outcome log s.result := by
    intro action hmem hexchange
    have hfiltered : action ∈ log.filter Action.isExchange := List.mem_filter.2 ⟨hmem, hexchange⟩
    rcases Call.make_exchanges env now call w with
      hnone | ⟨op, dispatched, outcome, hop, hexchanges⟩
    · rw [hnone] at hfiltered
      cases hfiltered
    · exact ⟨op, dispatched, outcome, hexchanges.exchanged ▸ hfiltered, hop, hexchanges⟩
  cases hauth : settings.iamAuth with
  | false =>
    rw [hauth, if_neg Bool.false_ne_true] at hok
    rw [if_neg Bool.false_ne_true]
    intro region draft r hmem
    obtain ⟨op, dispatched, outcome, hmem, -, hexchanges⟩ := hdispatched hmem rfl
    exact hexchanges.dispatch.not_signed (hregion.trans hok) hmem
  | true =>
    rw [hauth, if_pos rfl] at hok
    rw [if_pos rfl]
    obtain ⟨hsigner, hsome, hresolved⟩ := hok
    obtain ⟨region, rfl⟩ := Option.isSome_iff_exists.1 hsome
    refine ⟨hsigner, region, hresolved.symm, ?_, ?_⟩
    · intro agent request answer hmem
      obtain ⟨op, dispatched, outcome, hmem, hop, hexchanges⟩ := hdispatched hmem rfl
      rcases hexchanges.dispatch.cases_of_signing hregion with
        hnone | ⟨draft, x, hlog, -⟩ | ⟨draft, request', answer', hdraft, hlog⟩
      · rw [hnone] at hmem
        cases hmem
      · simp [hlog] at hmem
      · have hthis : agent = e.userAgent ∧ request = request' ∧ answer = answer' := by
          simpa [hlog] using hmem
        obtain ⟨rfl, rfl, rfl⟩ := hthis
        obtain ⟨haccept, hte⟩ := Endpoint.request_headers hdraft
        exact ⟨op, draft, hop, hdraft, haccept, fun ht => hte (htrailers.trans ht),
          hexchanges.exchanged.trans hlog⟩
    · intro region' draft x hmem
      obtain ⟨op, dispatched, outcome, hmem, -, hexchanges⟩ := hdispatched hmem rfl
      rcases hexchanges.dispatch.cases_of_signing hregion with
        hnone | ⟨draft', x', hlog, hx⟩ | ⟨draft', request, answer, -, hlog⟩
      · rw [hnone] at hmem
        cases hmem
      · have hthis : region' = region ∧ draft = draft' ∧ x = x' := by simpa [hlog] using hmem
        obtain ⟨rfl, rfl, rfl⟩ := hthis
        obtain ⟨hresult, closing, hwhole⟩ := hexchanges.failed x hx
        rw [hlog, htoggles, hclient.toggles] at hwhole
        exact ⟨rfl, hresult, closing, hwhole⟩
      · simp [hlog] at hmem

end Client

def Action.isSent : Action → Bool
  | .sent _ _ _ => true
  | _ => false

def Action.unsigned? : Action → Option ExportError
  | .signed _ _ (.error x) => some x
  | _ => none

namespace Client

def signedHost : Config where
  endpoints := ["[::1]"]
  tls := false
  iamAuth := true
  serviceRegion := some " eu-west-1 "

def askSigned (failure : Option ExportError) (c : Client) : Step Summary (Rehearsal.World × Log) :=
  ((Call.tupleQuery "ASK").make (Rehearsal.stage ⟨.log, true, none⟩ ⟨failure⟩).logged c
    (.start [], [])).1

/-- The query is signed for the trimmed region and sent so. If the signer fails, the query fails
with that, and nothing is sent. -/
theorem signs_what_it_sends_for_trimmed_region :
    ∃ client, (ofConfig signedHost .none true none).2 = .ok client ∧
      (∃ agent draft request answer, (askSigned none client).world.2.filter Action.isExchange =
        [.signed "eu-west-1" draft (.ok request), .sent agent request answer]) ∧
      ∃ draft closing, (askSigned (some (.config .noSigner)) client).world.2 =
        [.opened (.ok ()), .sinkMade .none (.ok ()),
          .signed "eu-west-1" draft (.error (.config .noSigner)), .sinkDropped,
          .closed closing] := by
  have hchecked : ((ofConfig signedHost .none true none).2.toOption.any fun client =>
      (askSigned none client).world.2.any Action.isSent &&
        (askSigned (some (.config .noSigner)) client).world.2.any fun action =>
          action.unsigned? == some (.config .noSigner)) = true := by
    decide +kernel
  have hregion : (signedHost.serviceRegion.bind Text.nonBlank?).or
      ((none : Option String).bind Text.nonBlank?) = some "eu-west-1" := by
    decide +kernel
  cases hclient : (ofConfig signedHost .none true none).2 with
  | error f =>
    rw [hclient] at hchecked
    cases hchecked
  | ok client =>
    rw [hclient] at hchecked
    obtain ⟨hsent, hfailed⟩ := Bool.and_eq_true_iff.1 hchecked
    refine ⟨client, rfl, ?_, ?_⟩
    · obtain ⟨action, hmem, haction⟩ := List.any_eq_true.1 hsent
      obtain ⟨-, -, region, hresolved, hsigned, -⟩ := signs_what_it_sends hclient []
        (Call.tupleQuery "ASK") (Rehearsal.stage ⟨.log, true, none⟩ ⟨none⟩) (.start [])
      rw [hregion, Option.some.injEq] at hresolved
      subst hresolved
      cases action with
      | sent agent request answer =>
        obtain ⟨op, draft, -, -, -, -, hlog⟩ := hsigned agent request answer hmem
        exact ⟨agent, draft, request, answer, hlog⟩
      | _ => cases haction
    · obtain ⟨action, hmem, haction⟩ := List.any_eq_true.1 hfailed
      obtain ⟨-, -, region, hresolved, -, hrefused⟩ := signs_what_it_sends hclient []
        (Call.tupleQuery "ASK") (Rehearsal.stage ⟨.log, true, none⟩ ⟨some (.config .noSigner)⟩)
        (.start [])
      rw [hregion, Option.some.injEq] at hresolved
      subst hresolved
      cases action with
      | signed region draft answer =>
        cases answer with
        | ok request => cases haction
        | error x =>
          have hx : x = .config .noSigner := by simpa [Action.unsigned?] using haction
          subst hx
          obtain ⟨-, -, closing, hlog⟩ := hrefused region draft _ hmem
          exact ⟨draft, closing, hlog⟩
      | _ => cases haction

end Client
end RdfExport
