import RdfExport.Proofs.Call.Course

/-!
# RdfExport.Proofs.Call.Records

Which records a call offers to the sink, and which of them the sink accepts. Both are the first
ones of what the frames of the answer say, and without an answer there are none.

* `Log.offered`, `Log.accepted`: the records in a log.
* `Endpoint.Faithful`: what is true of the records in every log of a call.
* `Endpoint.Course.faithful`: that it is true of every course.
-/

namespace RdfExport

def Action.offered? : Action → Option Record
  | .offered record _ => some record
  | _ => none

def Action.accepted? : Action → Option Record
  | .offered record (.ok ()) => some record
  | _ => none

def Action.isScope : Action → Bool
  | .opened _ | .sinkMade _ _ | .sinkDropped | .closed _ => true
  | _ => false

namespace Log

def offered (log : Log) : List Record := log.filterMap Action.offered?

/-- The records that the sink has accepted. -/
def accepted (log : Log) : List Record := log.filterMap Action.accepted?

theorem offered_append (a b : Log) : offered (a ++ b) = offered a ++ offered b :=
  List.filterMap_append

theorem accepted_append (a b : Log) : accepted (a ++ b) = accepted a ++ accepted b :=
  List.filterMap_append

theorem offered_offers (records : List Record) : offered (offers records) = records := by
  induction records with
  | nil => rfl
  | cons record rest ih => exact congrArg (record :: ·) ih

theorem accepted_offers (records : List Record) : accepted (offers records) = records := by
  induction records with
  | nil => rfl
  | cons record rest ih => exact congrArg (record :: ·) ih

theorem offered_finished (r : Except ExportError Unit) : offered [.finished r] = [] := rfl

theorem accepted_finished (r : Except ExportError Unit) : accepted [.finished r] = [] := rfl

theorem accepted_refused (record : Record) (x : ExportError) :
    accepted [.offered record (.error x)] = [] := rfl

theorem accepted_eq_nil {log : Log} (h : log.offered = []) : log.accepted = [] := by
  rw [offered, List.filterMap_eq_nil_iff] at h
  rw [accepted, List.filterMap_eq_nil_iff]
  intro action hmem
  have hnone := h action hmem
  cases action with
  | offered record outcome => cases hnone
  | _ => rfl

theorem offered_scope {log : Log} (h : log.all Action.isScope = true) : log.offered = [] := by
  rw [offered, List.filterMap_eq_nil_iff]
  intro action hmem
  have hscope := List.all_eq_true.1 h action hmem
  cases action with
  | offered record outcome => cases hscope
  | _ => rfl

end Log

namespace Moved

variable {em : Emission Unit} {log : Log} {outcome : Except ExportError Nat}

theorem offered_prefix (h : Moved em log outcome) : log.offered <+: em.records := by
  cases h with
  | refused hpre =>
    rw [Log.offered_append, Log.offered_offers]
    exact hpre
  | unread hend =>
    simp only [Log.offered_offers, List.prefix_rfl]
  | unfinished hend | complete hend =>
    simp only [Log.offered_append, Log.offered_offers, Log.offered_finished, List.append_nil,
      List.prefix_rfl]

theorem accepted_prefix (h : Moved em log outcome) : log.accepted <+: em.records := by
  cases h with
  | @refused before record x hpre =>
    rw [Log.accepted_append, Log.accepted_offers, Log.accepted_refused, List.append_nil]
    exact (List.prefix_append before [record]).trans hpre
  | unread hend =>
    simp only [Log.accepted_offers, List.prefix_rfl]
  | unfinished hend | complete hend =>
    simp only [Log.accepted_append, Log.accepted_offers, Log.accepted_finished, List.append_nil,
      List.prefix_rfl]

theorem not_sent (h : Moved em log outcome) {agent : String} {request : Http.Request}
    {answer : Except IoError Http.Response} : .sent agent request answer ∉ log := by
  cases h <;> simp [offers]

/-- The sink is told of the end only after all records of frames that did not fail. -/
theorem finished_of_mem (h : Moved em log outcome) {r : Except ExportError Unit}
    (hmem : .finished r ∈ log) : em.ending = .ok () ∧ log.offered = em.records := by
  cases h with
  | refused hpre => simp [offers] at hmem
  | unread hend => simp [offers] at hmem
  | unfinished hend | complete hend =>
    refine ⟨hend, ?_⟩
    rw [Log.offered_append, Log.offered_offers, Log.offered_finished, List.append_nil]

end Moved

namespace Endpoint

variable {e : Endpoint} {op : Operation} {log : Log}

theorem Dispatched.action_of_mem {outcome : Except ExportError Http.Response}
    (h : e.Dispatched op log outcome) {action : Action} (hmem : action ∈ log) :
    (∃ region draft signed, action = .signed region draft signed) ∨
      ∃ request answer, action = .sent e.userAgent request answer ∧
        (∃ before, e.Prepared op before request) ∧
        ∀ response, outcome = .ok response → answer = .ok response := by
  have hprepared : ∀ {log : Log} {request : Http.Request}, e.Prepared op log request →
      action ∈ log → ∃ region draft signed, action = .signed region draft signed := by
    intro log request hp hmem
    cases hp with
    | plain hrequest hs => cases hmem
    | signed hrequest hs => exact ⟨_, _, _, List.mem_singleton.1 hmem⟩
  have hsent : ∀ {before : Log} {request : Http.Request} {answer : Except IoError Http.Response},
      e.Prepared op before request → action ∈ before ++ [.sent e.userAgent request answer] →
        (∀ response, outcome = .ok response → answer = .ok response) →
          (∃ region draft signed, action = .signed region draft signed) ∨
            ∃ request answer, action = .sent e.userAgent request answer ∧
              (∃ before, e.Prepared op before request) ∧
              ∀ response, outcome = .ok response → answer = .ok response := by
    intro before request answer hp hmem houtcome
    rcases List.mem_append.1 hmem with hbefore | hlast
    · exact .inl (hprepared hp hbefore)
    · exact .inr ⟨request, answer, List.mem_singleton.1 hlast, ⟨before, hp⟩, houtcome⟩
  cases h with
  | unbuilt hrequest => cases hmem
  | unsigned hrequest hs => exact .inl ⟨_, _, _, List.mem_singleton.1 hmem⟩
  | unanswered hp => exact hsent hp hmem fun _ hr => by cases hr
  | refused hp hr => exact hsent hp hmem fun _ hr => by cases hr
  | answered hp hr => exact hsent hp hmem fun _ hr => by cases hr; rfl

theorem Dispatched.offered_eq_nil {outcome : Except ExportError Http.Response}
    (h : e.Dispatched op log outcome) : log.offered = [] := by
  rw [Log.offered, List.filterMap_eq_nil_iff]
  intro action hmem
  rcases h.action_of_mem hmem with ⟨_, _, _, rfl⟩ | ⟨_, _, rfl, -⟩ <;> rfl

theorem Dispatched.not_finished {outcome : Except ExportError Http.Response}
    (h : e.Dispatched op log outcome) {r : Except ExportError Unit} : .finished r ∉ log := by
  intro hmem
  rcases h.action_of_mem hmem with ⟨_, _, _, heq⟩ | ⟨_, _, heq, -⟩ <;> cases heq

/-- What is true of the records in every log of a call, where `read` is what frames say. -/
structure Faithful (e : Endpoint) (op : Operation) (read : List Http.Frame → Emission Unit)
    (log : Log) : Prop where
  /-- The request is the endpoint's own. -/
  sent : ∀ {agent request answer}, .sent agent request answer ∈ log →
    agent = e.userAgent ∧ ∃ before, e.Prepared op before request
  /-- The records offered are the first that the answer says. -/
  offered : ∀ {agent request response}, .sent agent request (.ok response) ∈ log →
    log.offered <+: (read response.frames).records
  accepted : ∀ {agent request response}, .sent agent request (.ok response) ∈ log →
    log.accepted <+: (read response.frames).records
  /-- The sink is finished only after all that an answer without a failure says. -/
  finished : ∀ {agent request response r}, .sent agent request (.ok response) ∈ log →
    .finished r ∈ log →
      (read response.frames).ending = .ok () ∧ log.offered = (read response.frames).records
  /-- Without an answer nothing is offered. -/
  silent : (∀ agent request response, .sent agent request (.ok response) ∉ log) →
    log.offered = []

variable {read : List Http.Frame → Emission Unit}

/-- Opening and releasing does not matter to the records. -/
theorem Faithful.scoped (h : Faithful e op read log) {a b : Log}
    (ha : a.all Action.isScope = true) (hb : b.all Action.isScope = true) :
    Faithful e op read (a ++ log ++ b) := by
  have hmem : ∀ {action : Action}, action.isScope = false → action ∈ a ++ log ++ b →
      action ∈ log := by
    intro action hscope hmem
    rcases List.mem_append.1 hmem with hmem | hmem
    · rcases List.mem_append.1 hmem with hmem | hmem
      · rw [List.all_eq_true.1 ha action hmem] at hscope
        cases hscope
      · exact hmem
    · rw [List.all_eq_true.1 hb action hmem] at hscope
      cases hscope
  have hoffered : (a ++ log ++ b).offered = log.offered := by
    rw [Log.offered_append, Log.offered_append, Log.offered_scope ha, Log.offered_scope hb,
      List.nil_append, List.append_nil]
  have haccepted : (a ++ log ++ b).accepted = log.accepted := by
    rw [Log.accepted_append, Log.accepted_append, Log.accepted_eq_nil (Log.offered_scope ha),
      Log.accepted_eq_nil (Log.offered_scope hb), List.nil_append, List.append_nil]
  constructor
  · exact fun hsent => h.sent (hmem rfl hsent)
  · rw [hoffered]
    exact fun hsent => h.offered (hmem rfl hsent)
  · rw [haccepted]
    exact fun hsent => h.accepted (hmem rfl hsent)
  · rw [hoffered]
    exact fun hsent hfinished => h.finished (hmem rfl hsent) (hmem rfl hfinished)
  · rw [hoffered]
    intro hnone
    refine h.silent fun agent request response hsent => hnone agent request response ?_
    exact List.mem_append_left _ (List.mem_append_right _ hsent)

theorem Dispatched.faithful {outcome : Except ExportError Http.Response}
    (h : e.Dispatched op log outcome) : Faithful e op read log := by
  have hnil := h.offered_eq_nil
  constructor
  · intro agent request answer hsent
    rcases h.action_of_mem hsent with ⟨_, _, _, heq⟩ | ⟨_, _, heq, hprepared, -⟩
    · cases heq
    · cases heq
      exact ⟨rfl, hprepared⟩
  · intro agent request response hsent
    rw [hnil]
    exact List.nil_prefix
  · intro agent request response hsent
    rw [Log.accepted_eq_nil hnil]
    exact List.nil_prefix
  · exact fun _ hfinished => absurd hfinished h.not_finished
  · exact fun _ => hnil

theorem Dispatched.faithful_moved {response : Http.Response} {log' : Log}
    {outcome : Except ExportError Nat} (h : e.Dispatched op log (.ok response))
    (hm : Moved (read response.frames) log' outcome) : Faithful e op read (log ++ log') := by
  have hsent : ∀ {agent request answer}, .sent agent request answer ∈ log ++ log' →
      .sent agent request answer ∈ log := fun hmem =>
    (List.mem_append.1 hmem).resolve_right hm.not_sent
  have hanswer : ∀ {agent request response'}, .sent agent request (.ok response') ∈ log ++ log' →
      response' = response := by
    intro agent request response' hmem
    rcases h.action_of_mem (hsent hmem) with ⟨_, _, _, heq⟩ | ⟨_, _, heq, -, hresponse⟩
    · cases heq
    · cases heq
      cases hresponse response rfl
      rfl
  have hoffered : (log ++ log').offered = log'.offered := by
    rw [Log.offered_append, h.offered_eq_nil, List.nil_append]
  have haccepted : (log ++ log').accepted = log'.accepted := by
    rw [Log.accepted_append, Log.accepted_eq_nil h.offered_eq_nil, List.nil_append]
  constructor
  · exact fun hmem => (h.faithful : Faithful e op read log).sent (hsent hmem)
  · intro agent request response' hmem
    rw [hoffered, hanswer hmem]
    exact hm.offered_prefix
  · intro agent request response' hmem
    rw [haccepted, hanswer hmem]
    exact hm.accepted_prefix
  · intro agent request response' r hmem hfinished
    rw [hoffered, hanswer hmem]
    exact hm.finished_of_mem ((List.mem_append.1 hfinished).resolve_left h.not_finished)
  · intro hnone
    cases h with
    | @answered before request response hp hr =>
      refine absurd ?_ (hnone e.userAgent request response)
      exact List.mem_append_left _ (List.mem_append_right _ (List.mem_singleton.2 rfl))

theorem Filled.faithful {result : Except ExportError Nat} (h : e.Filled op read log result) :
    Faithful e op read log := by
  cases h with
  | undispatched hd => exact hd.faithful.scoped (a := []) rfl rfl
  | moved hd hm hr => exact (hd.faithful_moved hm).scoped (a := []) rfl rfl

/-- The records in a call's log are what the answer to the endpoint's own request says. -/
theorem Course.faithful {toggles : Toggles} {result : Except ExportError Summary}
    (h : e.Course toggles op read log result) : Faithful e op read log := by
  have hnone : Faithful e op read [] := by
    constructor <;> simp [Log.offered]
  have hscoped : ∀ {log : Log} {result : Except ExportError Nat} (closing : Except IoError Unit),
      e.Filled op read log result →
        Faithful e op read
          (.opened (.ok ()) :: .sinkMade toggles (.ok ()) :: (log ++ [.closed closing])) :=
    fun closing hf =>
      hf.faithful.scoped (a := [.opened (.ok ()), .sinkMade toggles (.ok ())]) rfl rfl
  cases h with
  | outputRefused x => exact hnone.scoped (a := [.opened (.error x)]) (b := []) rfl rfl
  | sinkRefused x closing =>
    exact hnone.scoped (a := [.opened (.ok ()), .sinkMade toggles (.error x)])
      (b := [.closed closing]) rfl rfl
  | failed hf closing => exact hscoped closing hf
  | unclosed hf reason => exact hscoped _ hf
  | complete hf => exact hscoped _ hf

end Endpoint
end RdfExport
