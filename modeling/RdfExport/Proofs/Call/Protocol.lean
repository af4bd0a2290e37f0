import RdfExport.Proofs.Call.Records

/-!
# RdfExport.Proofs.Call.Protocol

The protocol that every call keeps with its surroundings, whatever they answer and wherever it
fails. The output is opened first; a sink that was made is dropped before the output is closed; the
output is closed exactly once if it was opened. One request is sent at most, once the sink is there,
and records are offered only after it was answered with success. Nothing is offered and nothing is
finished once anything has failed.

* `Phase`, `Phase.next`: the protocol as an automaton over actions.
* `Client.Call`: the ways to make a call.
* `Client.Call.keeps_protocol`: the log of every call is a word of the protocol.
-/

namespace RdfExport

variable {ω : Type}

/-- Where a call is in the protocol. -/
inductive Phase where
  /-- Nothing has happened. -/
  | fresh
  /-- The output is open. -/
  | opened
  /-- The sink is there, and no request was sent. -/
  | ready
  /-- The request was answered with success. -/
  | streaming
  /-- The sink is finished. -/
  | finished
  /-- Something has failed while the sink was there. -/
  | failed
  /-- There is no sink, and the output is open. -/
  | released
  /-- The output is closed, or was never open. -/
  | ended
  deriving DecidableEq

namespace Phase

/-- The phase after an action, if the action may come there. -/
def next : Phase → Action → Option Phase
  | fresh, .opened (.ok ()) => some opened
  | fresh, .opened (.error _) => some ended
  | opened, .sinkMade _ (.ok ()) => some ready
  | opened, .sinkMade _ (.error _) => some released
  | ready, .signed _ _ (.ok _) => some ready
  | ready, .signed _ _ (.error _) => some failed
  | ready, .sent _ _ (.ok response) => some (if response.isSuccess then streaming else failed)
  | ready, .sent _ _ (.error _) => some failed
  | streaming, .offered _ (.ok ()) => some streaming
  | streaming, .offered _ (.error _) => some failed
  | streaming, .finished (.ok ()) => some finished
  | streaming, .finished (.error _) => some failed
  | ready, .sinkDropped => some released
  | streaming, .sinkDropped => some released
  | finished, .sinkDropped => some released
  | failed, .sinkDropped => some released
  | released, .closed _ => some ended
  | _, _ => none

/-- The phase after a log, if all its actions may come where they do. -/
def run (p : Phase) : Log → Option Phase
  | [] => some p
  | action :: rest => (p.next action).bind fun p => p.run rest

theorem run_append (p : Phase) (a b : Log) : p.run (a ++ b) = (p.run a).bind fun p => p.run b := by
  induction a generalizing p with
  | nil => rfl
  | cons action rest ih =>
    simp only [List.cons_append, run]
    cases p.next action with
    | none => rfl
    | some p' => exact ih p'

def HasSink (p : Phase) : Prop := p = ready ∨ p = streaming ∨ p = finished ∨ p = failed

theorem HasSink.drop {p : Phase} (h : p.HasSink) : p.next .sinkDropped = some released := by
  rcases h with rfl | rfl | rfl | rfl <;> rfl

theorem run_offers (records : List Record) : streaming.run (offers records) = some streaming := by
  induction records with
  | nil => rfl
  | cons record rest ih => exact ih

theorem run_moved {em : Emission Unit} {log : Log} {outcome : Except ExportError Nat}
    (h : Moved em log outcome) : ∃ p, streaming.run log = some p ∧ p.HasSink := by
  cases h with
  | refused hpre =>
    refine ⟨failed, ?_, by simp [HasSink]⟩
    rw [run_append, run_offers]
    rfl
  | unread hend => exact ⟨streaming, run_offers em.records, by simp [HasSink]⟩
  | unfinished hend =>
    refine ⟨failed, ?_, by simp [HasSink]⟩
    rw [run_append, run_offers]
    rfl
  | complete hend =>
    refine ⟨finished, ?_, by simp [HasSink]⟩
    rw [run_append, run_offers]
    rfl

section Courses

variable {e : Endpoint} {op : Operation} {log : Log}

theorem run_prepared {request : Http.Request} (h : e.Prepared op log request) :
    ready.run log = some ready := by
  cases h <;> rfl

theorem run_dispatched_ok {response : Http.Response} (h : e.Dispatched op log (.ok response)) :
    ready.run log = some streaming := by
  cases h with
  | answered hp hr =>
    rw [run_append, run_prepared hp]
    simp [run, next, hr]

theorem run_dispatched_error {x : ExportError} (h : e.Dispatched op log (.error x)) :
    ∃ p, ready.run log = some p ∧ p.HasSink := by
  cases h with
  | unbuilt hrequest => exact ⟨ready, rfl, by simp [HasSink]⟩
  | unsigned hrequest hs => exact ⟨failed, rfl, by simp [HasSink]⟩
  | unanswered hp =>
    refine ⟨failed, ?_, by simp [HasSink]⟩
    rw [run_append, run_prepared hp]
    rfl
  | refused hp hr =>
    refine ⟨failed, ?_, by simp [HasSink]⟩
    rw [run_append, run_prepared hp]
    simp [run, next, hr]

variable {read : List Http.Frame → Emission Unit}

theorem run_filled {result : Except ExportError Nat} (h : e.Filled op read log result) :
    ready.run log = some released := by
  cases h with
  | undispatched hd =>
    obtain ⟨p, hrun, hp⟩ := run_dispatched_error hd
    rw [run_append, hrun]
    simp [run, hp.drop]
  | moved hd hm hr =>
    obtain ⟨p, hrun, hp⟩ := run_moved hm
    rw [run_append, run_append, run_dispatched_ok hd, Option.bind_some, hrun]
    simp [run, hp.drop]

/-- Every course of a call is a word of the protocol. -/
theorem run_course {toggles : Toggles} {result : Except ExportError Summary}
    (h : e.Course toggles op read log result) : fresh.run log = some ended := by
  have hclose : ∀ {log : Log} {result : Except ExportError Nat} (closing : Except IoError Unit),
      e.Filled op read log result →
        fresh.run (.opened (.ok ()) :: .sinkMade toggles (.ok ()) :: (log ++ [.closed closing])) =
          some ended := by
    intro log result closing hf
    have hrun : ready.run (log ++ [.closed closing]) = some ended := by
      rw [run_append, run_filled hf]
      rfl
    exact hrun
  cases h with
  | outputRefused x => rfl
  | sinkRefused x closing => rfl
  | failed hf closing => exact hclose closing hf
  | unclosed hf reason => exact hclose _ hf
  | complete hf => exact hclose _ hf

end Courses

end Phase

namespace Client

/-- The ways to make a call. -/
inductive Call where
  | all
  | graph (name : String)
  | graphStore (selector : GraphSelector)
  | tupleQuery (text : String)
  | graphQuery (text : String)

namespace Call

def make (env : Environment ω) (c : Client) (w : ω) : Call → Step Summary ω × Client
  | all => c.exportAll env w
  | graph name => c.exportGraph env name w
  | graphStore selector => c.exportGraphStore env selector w
  | tupleQuery text => c.run env (.tupleQuery text) w
  | graphQuery text => c.run env (.graphQuery text) w

/-- What the call asks an endpoint for. A graph without an absolute IRI cannot be asked for. -/
def operation? (c : Client) : Call → Option Operation
  | all =>
    some (if c.usesQueries then .tupleQuery completeExportQuery else .graphStore .default)
  | graph name =>
    if Rdf.isAbsoluteIri name.toList then
      some (if c.usesQueries then .tupleQuery (namedGraphQuery name) else .graphStore (.named name))
    else none
  | graphStore selector => some (.graphStore selector)
  | tupleQuery text => some (.tupleQuery text)
  | graphQuery text => some (.graphQuery text)

def opening (c : Client) : Call → List Notice
  | all | graph _ => if c.usesQueries then [] else [.graphStoreStarted]
  | graphStore _ => [.graphStoreStarted]
  | tupleQuery _ | graphQuery _ => []

/-- A call that asks for something is a run of what it asks for, after notices of its own. -/
theorem make_eq (env : Environment ω) (c : Client) (w : ω) {call : Call} {op : Operation}
    (h : call.operation? c = some op) :
    call.make env c w = ((c.run env op w).1.after (call.opening c), (c.run env op w).2) := by
  have hnone : ∀ s : Step Summary ω × Client, s = (s.1.after [], s.2) := fun s => rfl
  cases call with
  | all =>
    simp only [operation?, Option.some.injEq] at h
    subst h
    simp only [make, opening, exportAll, exportGraphStore]
    by_cases hq : c.usesQueries = true
    · rw [if_pos hq, if_pos hq, if_pos hq]
      exact hnone _
    · rw [if_neg hq, if_neg hq, if_neg hq]
  | graph name =>
    simp only [operation?] at h
    by_cases hname : Rdf.isAbsoluteIri name.toList = true
    · rw [if_pos hname, Option.some.injEq] at h
      subst h
      simp only [make, opening, exportGraph, exportGraphStore, if_pos hname]
      by_cases hq : c.usesQueries = true
      · rw [if_pos hq, if_pos hq, if_pos hq]
        exact hnone _
      · rw [if_neg hq, if_neg hq, if_neg hq]
    · rw [if_neg hname] at h
      cases h
  | graphStore selector =>
    cases h
    rfl
  | tupleQuery text =>
    cases h
    exact hnone _
  | graphQuery text =>
    cases h
    exact hnone _

theorem make_eq_run (env : Environment ω) (c : Client) (w : ω) {call : Call} {op : Operation}
    (h : call.operation? c = some op) :
    ∃ notices, (call.make env c w).1 = (c.run env op w).1.after notices :=
  ⟨call.opening c, congrArg Prod.fst (make_eq env c w h)⟩

def isRefused : Call → Bool
  | graph name => !Rdf.isAbsoluteIri name.toList
  | _ => false

theorem operation?_eq_none {c : Client} {call : Call} :
    call.operation? c = none ↔ call.isRefused = true := by
  cases call with
  | graph name =>
    by_cases h : Rdf.isAbsoluteIri name.toList = true <;> simp [operation?, isRefused, h]
  | _ => simp [operation?, isRefused]

theorem make_refused {call : Call} (h : call.isRefused = true) :
    ∃ x, ∀ (env : Environment ω) (c : Client) (w : ω),
      call.make env c w = (⟨.error x, [], w⟩, c) := by
  cases call with
  | graph name =>
    have hname : ¬Rdf.isAbsoluteIri name.toList = true := by simpa [isRefused] using h
    refine ⟨.invalidGraphName name "not an absolute IRI", fun env c w => ?_⟩
    rw [make, exportGraph, if_neg hname]
  | _ => cases h

theorem make_eq_refusal (env : Environment ω) (c : Client) (w : ω) {call : Call}
    (h : call.operation? c = none) :
    ∃ x, (call.make env c w).1 = ⟨.error x, [], w⟩ := by
  obtain ⟨x, hmake⟩ := make_refused (operation?_eq_none.1 h)
  exact ⟨x, congrArg Prod.fst (hmake env c w)⟩

theorem make_project (env : Environment ω) (c : Client) (call : Call) (w : ω) (log : Log) :
    ((call.make env.logged c (w, log)).1).project Prod.fst = (call.make env c w).1 := by
  have hrun : ∀ op, (c.run env.logged op (w, log)).1.project Prod.fst = (c.run env op w).1 :=
    fun op => (congrArg Prod.fst (c.run_projects env.logged_projects op (w, log))).symm
  have hafter : ∀ (notices : List Notice) (s : Step Summary (ω × Log)),
      (s.after notices).project Prod.fst = (s.project Prod.fst).after notices := fun _ _ => rfl
  cases call with
  | all =>
    simp only [make, exportAll, exportGraphStore]
    by_cases hq : c.usesQueries = true
    · simp only [if_pos hq, hrun]
    · simp only [if_neg hq, hafter, hrun]
  | graph name =>
    simp only [make, exportGraph, exportGraphStore]
    by_cases hname : Rdf.isAbsoluteIri name.toList = true
    · by_cases hq : c.usesQueries = true
      · simp only [if_pos hname, if_pos hq, hrun]
      · simp only [if_pos hname, if_neg hq, hafter, hrun]
    · simp only [if_neg hname]
      rfl
  | graphStore selector => simp only [make, exportGraphStore, hafter, hrun]
  | tupleQuery text => exact hrun _
  | graphQuery text => exact hrun _

/-- **Every call keeps the protocol.** Whatever the surroundings answer, the log of a call is a word
of the protocol. What is sent, if anything, is the request of the one endpoint chosen for the call.
What is offered to the sink are the first records that the frames of the answer say; so nothing is
offered after the frames have failed, and the sink is finished only if they did not fail and all
their records were offered. A call that asks for nothing does nothing at all. -/
theorem keeps_protocol (env : Environment ω) (c : Client) (call : Call) (w : ω) :
    let s := (call.make env.logged c (w, [])).1
    let log := s.world.2
    s.project Prod.fst = (call.make env c w).1 ∧
    match call.operation? c with
    | none => log = []
    | some op =>
      let e := (c.choose env w).1
      Phase.fresh.run log = some .ended ∧
      (∀ agent request answer, .sent agent request answer ∈ log →
        agent = e.userAgent ∧ ∃ before, e.Prepared op before request) ∧
      ∀ agent request response, .sent agent request (.ok response) ∈ log →
        log.offered <+: (e.reading op response.frames).records ∧
        ∀ outcome, .finished outcome ∈ log →
          (e.reading op response.frames).ending = .ok () ∧
            log.offered = (e.reading op response.frames).records := by
  intro s log
  refine ⟨make_project env c call w [], ?_⟩
  cases hop : call.operation? c with
  | none =>
    obtain ⟨x, hmake⟩ := make_eq_refusal env.logged c (w, []) hop
    simp only [log, s, hmake]
  | some op =>
    obtain ⟨notices, hmake⟩ := make_eq_run env.logged c (w, []) hop
    have hlog : log = (c.run env.logged op (w, [])).1.world.2 := by
      simp only [log, s, hmake]
      rfl
    have hcourse := c.run_course env op w
    simp only [← hlog] at hcourse
    have hfaithful := hcourse.faithful
    refine ⟨Phase.run_course hcourse, ?_, ?_⟩
    · exact fun agent request answer hsent => hfaithful.sent hsent
    · intro agent request response hsent
      exact ⟨hfaithful.offered hsent, fun outcome hfinished => hfaithful.finished hsent hfinished⟩

end Call
end Client
end RdfExport
