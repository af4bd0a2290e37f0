import Mathlib.Data.Int.CardIntervalMod
import RdfExport.Proofs.Call.Protocol
import RdfExport.Proofs.Opening
import RdfExport.Rehearsal.Stage

/-!
# RdfExport.Proofs.Call.Turns

A client that many callers share. All that one call leaves for the others is whose turn is next:
an endpoint is taken in one step, and what a call does with it is done in surroundings of its own.

* `Shared.step`: what happens when a visit goes on; a schedule is any order of such steps.
* `Shared.run_alone`: a visit that nobody interrupts is a call.
* `Orderly`: what every schedule keeps, and `Orderly.step`: that one step keeps it.
* `Shared.run_takes_turns`: the endpoints take turns, and a call does on its endpoint what it would
  do on a client of that endpoint only.
-/

namespace RdfExport

variable {ω : Type}

namespace Client.Call

theorem operation?_congr {c c' : Client} (h : c.toggles = c'.toggles) (call : Call) :
    call.operation? c = call.operation? c' := by
  have hq : c.usesQueries = c'.usesQueries := congrArg (·.contains .noGsp) h
  cases call <;> simp [operation?, hq]

theorem opening_congr {c c' : Client} (h : c.toggles = c'.toggles) (call : Call) :
    call.opening c = call.opening c' := by
  have hq : c.usesQueries = c'.usesQueries := congrArg (·.contains .noGsp) h
  cases call <;> simp [opening, hq]

end Client.Call

/-- A call with the surroundings in which it is made, and the world as it will find it there. -/
structure Visit (ω : Type) where
  call : Client.Call
  env : Environment ω
  world : ω

namespace Visit

/-- The visit if it is the first at a client. -/
def first (v : Visit ω) (c : Client) : Step Summary ω := (v.call.make v.env c v.world).1

/-- The rest of a visit that has an endpoint. -/
def rest (v : Visit ω) (c : Client) (e : Endpoint) (op : Operation) (w : ω) : Step Summary ω :=
  (e.perform v.env c.toggles op w).after (v.call.opening c ++ [.endpointChosen])

theorem rest_congr {c c' : Client} (h : c.toggles = c'.toggles) (v : Visit ω) (e : Endpoint)
    (op : Operation) (w : ω) : v.rest c e op w = v.rest c' e op w := by
  rw [rest, rest, h, Client.Call.opening_congr h]

/-- A visit that asks for something is the choice of an endpoint and the rest. -/
theorem make_eq_rest (v : Visit ω) {c : Client} {op : Operation}
    (h : v.call.operation? c = some op) :
    v.call.make v.env c v.world =
      (v.rest c (c.choose v.env v.world).1 op (c.choose v.env v.world).2.2,
        (c.choose v.env v.world).2.1) := by
  rw [Client.Call.make_eq v.env c v.world h, rest]
  have htoggles : (c.choose v.env v.world).2.1.toggles = c.toggles := rfl
  simp only [Client.run, Step.after, List.append_assoc, htoggles]

end Visit

/-- How far a visit has come. -/
inductive Progress (ω : Type) where
  /-- Nothing has happened. -/
  | waiting
  /-- An endpoint is taken. -/
  | placed (e : Endpoint) (op : Operation) (w : ω)
  | ended (s : Step Summary ω)

/-- That a visit has taken the endpoint at an index. -/
structure Turn where
  visit : Nat
  index : Nat

/-- A client and the visits at it. Visits have numbers; `turns` are in the order in which endpoints
were taken. -/
structure Shared (ω : Type) where
  client : Client
  progress : Nat → Progress ω
  turns : List Turn

def Client.shared (c : Client) : Shared ω := ⟨c, fun _ => .waiting, []⟩

namespace Shared

variable (visits : Nat → Visit ω)

/-- A visit goes on. It takes an endpoint, if it asks for anything; then it does all the rest, which
nobody else sees. -/
def step (s : Shared ω) (i : Nat) : Shared ω :=
  let v := visits i
  match s.progress i with
  | .waiting =>
    match v.call.operation? s.client with
    | none => { s with progress := Function.update s.progress i (.ended (v.first s.client)) }
    | some op =>
      match s.client.choose v.env v.world with
      | (e, client, w) =>
        { client
          progress := Function.update s.progress i (.placed e op w)
          turns := s.turns ++ [⟨i, (s.client.pool.nextIndex v.env.draw v.world).1⟩] }
  | .placed e op w =>
    { s with progress := Function.update s.progress i (.ended (v.rest s.client e op w)) }
  | .ended _ => s

def run (schedule : List Nat) (s : Shared ω) : Shared ω := schedule.foldl (step visits) s

theorem run_concat (schedule : List Nat) (i : Nat) (s : Shared ω) :
    run visits (schedule ++ [i]) s = step visits (run visits schedule s) i := by
  rw [run, List.foldl_append]
  rfl

variable {visits}

section Steps

variable {s : Shared ω} {i : Nat}

theorem step_refused (h : s.progress i = .waiting) (hr : (visits i).call.isRefused = true) :
    step visits s i =
      { s with progress := Function.update s.progress i (.ended ((visits i).first s.client)) } := by
  simp only [step, h, Client.Call.operation?_eq_none.2 hr]

theorem step_taken {op : Operation} (h : s.progress i = .waiting)
    (hop : (visits i).call.operation? s.client = some op) :
    let chosen := s.client.choose (visits i).env (visits i).world
    step visits s i =
      { client := chosen.2.1
        progress := Function.update s.progress i (.placed chosen.1 op chosen.2.2)
        turns := s.turns ++
          [⟨i, (s.client.pool.nextIndex (visits i).env.draw (visits i).world).1⟩] } := by
  simp only [step, h, hop]

theorem step_rest {e : Endpoint} {op : Operation} {w : ω} (h : s.progress i = .placed e op w) :
    step visits s i =
      { s with progress :=
          Function.update s.progress i (.ended ((visits i).rest s.client e op w)) } := by
  simp only [step, h]

theorem step_ended {last : Step Summary ω} (h : s.progress i = .ended last) :
    step visits s i = s := by
  simp only [step, h]

/-- A visit that is not interrupted is a call. -/
theorem run_alone (h : s.progress i = .waiting) :
    let v := visits i
    let made := v.call.make v.env s.client v.world
    (run visits [i, i] s).progress i = .ended made.1 ∧ (run visits [i, i] s).client = made.2 := by
  intro v made
  have hrun : run visits [i, i] s = step visits (step visits s i) i := rfl
  cases hop : v.call.operation? s.client with
  | none =>
    have hr : v.call.isRefused = true := Client.Call.operation?_eq_none.1 hop
    obtain ⟨x, hmake⟩ := Client.Call.make_refused (ω := ω) hr
    rw [hrun, step_refused h hr, step_ended (Function.update_self ..)]
    refine ⟨Function.update_self .., ?_⟩
    simp only [made, hmake]
  | some op =>
    have hmade : made = _ := v.make_eq_rest hop
    rw [hrun, step_taken h hop, step_rest (Function.update_self ..), hmade]
    exact ⟨Function.update_self .., rfl⟩

end Steps

end Shared

def Client.turned (c : Client) (turns : Nat) : Client :=
  { c with pool := { c.pool with cursor := UInt64.ofNat turns } }

namespace Client

/-- The `k`-th turn in a pool of several endpoints that take turns is that of the endpoint with the
index `k` modulo 2⁶⁴ and then modulo their number. -/
theorem nextIndex_turned {c : Client} (hturn : c.pool.strategy = .roundRobin)
    (hmany : c.pool.size ≠ 1) (k : Nat) (draw : Nat → ω → Nat × ω) (w : ω) :
    (c.turned k).pool.nextIndex draw w =
      (k % 2 ^ 64 % c.pool.size, (c.turned (k + 1)).pool, w) := by
  have hsize : (c.turned k).pool.size = c.pool.size := rfl
  have hstrategy : (c.turned k).pool.strategy = .roundRobin := hturn
  have hcursor : (c.turned k).pool.cursor.toNat = k % 2 ^ 64 := UInt64.toNat_ofNat'
  have hnext : (c.turned k).pool.cursor + 1 = (c.turned (k + 1)).pool.cursor :=
    (UInt64.ofNat_add k 1).symm
  simp only [Pool.nextIndex, hsize, if_neg hmany, hstrategy, hcursor, hnext]
  simp only [turned, hturn]

theorem choose_turned {c : Client} (hturn : c.pool.strategy = .roundRobin)
    (hmany : c.pool.size ≠ 1) (k : Nat) (env : Environment ω) (w : ω) :
    ∃ e, c.pool.endpoints[k % 2 ^ 64 % c.pool.size]? = some e ∧
      (c.turned k).choose env w = (e, c.turned (k + 1), w) := by
  have hlt : k % 2 ^ 64 % c.pool.size < c.pool.endpoints.length := Nat.mod_lt _ c.pool.size_pos
  refine ⟨c.pool.endpoints[k % 2 ^ 64 % c.pool.size], List.getElem?_eq_getElem hlt, ?_⟩
  have hnext := nextIndex_turned hturn hmany k env.draw w
  simp only [choose, Pool.choose, hnext]
  rfl

/-- A client of one endpoint only chooses it. -/
theorem choose_only (c : Client) (e : Endpoint) (env : Environment ω) (w : ω) :
    (c.only e).choose env w = (e, c.only e, w) := rfl

end Client

namespace Shared

/-- Where a visit stands after it went on so many times. Once it has an endpoint, that is the one of
its turn. Once it is over, it was what it is as the first visit at a client of that endpoint
only. -/
def Stands (c : Client) (v : Visit ω) (i : Nat) (turns : List Turn) (count : Nat) :
    Progress ω → Prop
  | .waiting => count = 0
  | .placed e op w => count = 1 ∧ v.call.operation? c = some op ∧ w = v.world ∧
      ∃ index, ⟨i, index⟩ ∈ turns ∧ c.pool.endpoints[index]? = some e
  | .ended last => 0 < count ∧ ∃ index e, (v.call.isRefused = false → ⟨i, index⟩ ∈ turns) ∧
      c.pool.endpoints[index]? = some e ∧ last = v.first (c.only e)

/-- What is true of a client and its visits after a schedule. -/
structure Orderly (c : Client) (visits : Nat → Visit ω) (schedule : List Nat) (s : Shared ω) :
    Prop where
  client : s.client = c.turned s.turns.length
  index : ∀ j turn, s.turns[j]? = some turn → turn.index = j % 2 ^ 64 % c.pool.size
  turn : ∀ i, (s.turns.map Turn.visit).count i =
    if i ∈ schedule ∧ (visits i).call.isRefused = false then 1 else 0
  stands : ∀ i, Stands c (visits i) i s.turns (schedule.count i) (s.progress i)

variable {c : Client} {visits : Nat → Visit ω} {schedule : List Nat} {s : Shared ω}

theorem Stands.more {v : Visit ω} {i : Nat} {turns : List Turn} {count : Nat} {p : Progress ω}
    (h : Stands c v i turns count p) (more : List Turn) : Stands c v i (turns ++ more) count p := by
  cases p with
  | waiting => exact h
  | placed e op w =>
    obtain ⟨hcount, hop, hw, index, hmem, he⟩ := h
    exact ⟨hcount, hop, hw, index, List.mem_append_left _ hmem, he⟩
  | ended last =>
    obtain ⟨hcount, index, e, hmem, he, hlast⟩ := h
    exact ⟨hcount, index, e, fun hr => List.mem_append_left _ (hmem hr), he, hlast⟩

namespace Orderly

theorem others (h : Orderly c visits schedule s) {i : Nat} (more : List Turn) {p : Progress ω}
    (hp : Stands c (visits i) i (s.turns ++ more) (schedule.count i + 1) p) (i' : Nat) :
    Stands c (visits i') i' (s.turns ++ more) ((schedule ++ [i]).count i')
      (Function.update s.progress i p i') := by
  by_cases hi : i' = i
  · subst hi
    rw [Function.update_self, List.count_append, List.count_singleton_self]
    exact hp
  · have hcount : (schedule ++ [i]).count i' = schedule.count i' := by
      rw [List.count_append, List.count_singleton, if_neg (by simpa using Ne.symm hi), Nat.add_zero]
    rw [Function.update_of_ne hi, hcount]
    exact (h.stands i').more more

theorem without_turn (h : Orderly c visits schedule s) {i : Nat}
    (hi : i ∈ schedule ∨ (visits i).call.isRefused = true) {p : Progress ω}
    (hp : Stands c (visits i) i s.turns (schedule.count i + 1) p) :
    Orderly c visits (schedule ++ [i]) { s with progress := Function.update s.progress i p } := by
  refine ⟨h.client, h.index, fun i' => ?_, fun i' => ?_⟩
  · have hsame : (i' ∈ schedule ++ [i] ∧ (visits i').call.isRefused = false) ↔
        i' ∈ schedule ∧ (visits i').call.isRefused = false := by
      refine and_congr_left fun hr => ?_
      rw [List.mem_append, List.mem_singleton, or_iff_left_of_imp]
      rintro rfl
      exact hi.resolve_right (by rw [hr]; exact Bool.false_ne_true)
    simp only [h.turn i', hsame]
  · have hothers := h.others (i := i) [] (by rwa [List.append_nil]) i'
    rwa [List.append_nil] at hothers

theorem with_turn (h : Orderly c visits schedule s) {i : Nat} (hi : i ∉ schedule)
    (hr : (visits i).call.isRefused = false) {p : Progress ω} :
    let turn : Turn := ⟨i, s.turns.length % 2 ^ 64 % c.pool.size⟩
    Stands c (visits i) i (s.turns ++ [turn]) (schedule.count i + 1) p →
      Orderly c visits (schedule ++ [i])
        ⟨c.turned (s.turns.length + 1), Function.update s.progress i p, s.turns ++ [turn]⟩ := by
  intro turn hp
  refine ⟨?_, fun j t ht => ?_, fun i' => ?_, h.others [turn] hp⟩
  · rw [List.length_append, List.length_singleton]
  · rcases Nat.lt_trichotomy j s.turns.length with hj | rfl | hj
    · rw [List.getElem?_append_left hj] at ht
      exact h.index j t ht
    · rw [List.getElem?_concat_length, Option.some.injEq] at ht
      rw [← ht]
    · rw [List.getElem?_eq_none (by rw [List.length_append]; exact hj)] at ht
      cases ht
  · rw [List.map_append, List.count_append, h.turn i', List.map_singleton, List.count_singleton]
    by_cases hii : i' = i
    · subst hii
      simp [hi, hr, turn]
    · have hne : ¬i = i' := Ne.symm hii
      simp [hii, hne, turn]

theorem step (hturn : c.pool.strategy = .roundRobin) (hmany : c.pool.size ≠ 1)
    (h : Orderly c visits schedule s) (i : Nat) :
    Orderly c visits (schedule ++ [i]) (Shared.step visits s i) := by
  have hstands := h.stands i
  have htoggles : s.client.toggles = c.toggles := by
    rw [h.client]
    rfl
  cases hp : s.progress i with
  | waiting =>
    rw [hp] at hstands
    have hnew : i ∉ schedule := List.count_eq_zero.1 hstands
    cases hr : (visits i).call.isRefused with
    | true =>
      rw [step_refused hp hr]
      refine h.without_turn (.inr hr) ⟨Nat.succ_pos _, ?_⟩
      obtain ⟨x, hmake⟩ := Client.Call.make_refused (ω := ω) hr
      obtain ⟨e, es, hes⟩ := List.exists_cons_of_ne_nil c.pool.nonempty
      refine ⟨0, e, fun hr' => absurd (hr.symm.trans hr') Bool.noConfusion, by simp [hes], ?_⟩
      simp only [Visit.first, hmake]
    | false =>
      cases hop : (visits i).call.operation? s.client with
      | none =>
        rw [Client.Call.operation?_eq_none.1 hop] at hr
        cases hr
      | some op =>
        obtain ⟨e, he, hchoose⟩ := Client.choose_turned hturn hmany s.turns.length (visits i).env
          (visits i).world
        have hindex := Client.nextIndex_turned hturn hmany s.turns.length (visits i).env.draw
          (visits i).world
        rw [step_taken hp hop]
        simp only [h.client, hchoose, hindex]
        refine h.with_turn hnew hr ⟨by rw [hstands], ?_, rfl, _, ?_, he⟩
        · rw [← hop]
          exact Client.Call.operation?_congr htoggles.symm _
        · exact List.mem_append_right _ List.mem_cons_self
  | placed e op w =>
    rw [hp] at hstands
    obtain ⟨hcount, hop, rfl, index, hmem, he⟩ := hstands
    rw [step_rest hp]
    have hi : i ∈ schedule := List.count_pos_iff.1 (by omega)
    refine h.without_turn (.inl hi) ⟨Nat.succ_pos _, index, e, fun _ => hmem, he, ?_⟩
    have hop' : (visits i).call.operation? (c.only e) = some op := by
      rw [← hop]
      exact Client.Call.operation?_congr rfl _
    rw [Visit.first, Visit.make_eq_rest _ hop', Client.choose_only]
    exact Visit.rest_congr htoggles ..
  | ended last =>
    rw [hp] at hstands
    obtain ⟨hcount, hended⟩ := hstands
    rw [step_ended hp]
    have hi : i ∈ schedule := List.count_pos_iff.1 hcount
    have hsame := h.without_turn (.inl hi) (p := .ended last) ⟨Nat.succ_pos _, hended⟩
    rwa [← hp, Function.update_eq_self] at hsame

end Orderly

/-- Every schedule keeps order. -/
theorem run_orderly (hturn : c.pool.strategy = .roundRobin) (hmany : c.pool.size ≠ 1)
    (hcursor : c.pool.cursor = 0) (visits : Nat → Visit ω) (schedule : List Nat) :
    Orderly c visits schedule (run visits schedule c.shared) := by
  induction schedule using List.reverseRecOn with
  | nil =>
    refine ⟨?_, fun j turn hj => ?_, fun i => ?_, fun i => ?_⟩
    · have hpool : { c.pool with cursor := 0 } = c.pool := by rw [← hcursor]
      exact congrArg (Client.mk · c.toggles) hpool.symm
    · cases hj
    · rfl
    · rfl
  | append_singleton schedule i ih =>
    rw [run_concat]
    exact ih.step hturn hmany i

/-- Among so many numbers in a row from 0, each remainder has its share, rounded down or up. -/
theorem share_of_range {n : Nat} (hn : 0 < n) (k : Nat) {r : Nat} (hr : r < n) :
    ((List.range k).map (· % n)).count r = k / n ∨
      ((List.range k).map (· % n)).count r = (k + n - 1) / n := by
  have hcount : ((List.range k).map (· % n)).count r = k.count (· ≡ r [MOD n]) := by
    rw [List.count, List.countP_map, Nat.count]
    refine List.countP_congr fun j _ => ?_
    simp [Nat.ModEq, Nat.mod_eq_of_lt hr]
  rw [hcount, Nat.count_modEq_card _ hn]
  by_cases hmore : r % n < k % n
  · right
    have hk : k + n - 1 = n * (k / n + 1) + (k % n - 1) := by
      have hdiv := Nat.div_add_mod k n
      have hmul : n * (k / n + 1) = n * (k / n) + n := Nat.mul_succ n (k / n)
      omega
    have hlast : (k % n - 1) / n = 0 := Nat.div_eq_of_lt (by have := Nat.mod_lt k hn; omega)
    rw [if_pos hmore, hk, Nat.mul_add_div hn, hlast]
  · left
    rw [if_neg hmore, Nat.add_zero]

/-- As long as the count of turns did not start again, the turns go round. -/
theorem Orderly.index_of_take (h : Orderly c visits schedule s) {k : Nat} (hk : k ≤ 2 ^ 64)
    (hturns : k ≤ s.turns.length) :
    (s.turns.take k).map Turn.index = (List.range k).map (· % c.pool.size) := by
  refine List.ext_getElem (by simp [hturns]) fun j hj hj' => ?_
  have hlt : j < k := by simpa using hj'
  have hget := h.index j s.turns[j] (List.getElem?_eq_getElem (by omega))
  have hmod : j % 2 ^ 64 = j := Nat.mod_eq_of_lt (by omega)
  simp only [List.getElem_map, List.getElem_take, List.getElem_range, hget, hmod]

/-- **Endpoints take turns.** Let a client of at least two endpoints that take turns be opened, and
let any calls be made at it in any order, each interrupted by others anywhere. A call takes a turn
exactly once, when it begins, unless it asks for a graph whose name is no absolute IRI, whatever
became of those before. The `j`-th turn is that of the host with the index `j` modulo 2⁶⁴ and then
modulo the number of hosts. Up to 2⁶⁴ turns each host has its share of them, rounded down or up. A
call comes to its end when it has gone on twice. Then its result, its notices and what it leaves of
its surroundings are those of the same call if it is made first at a client that the same settings
open with that host only. -/
theorem run_takes_turns {settings : Config} {toggles : Toggles} {hasSigner : Bool}
    {environment : Option String} {client : Client}
    (hopen : (Client.ofConfig settings toggles hasSigner environment).2 = .ok client)
    (hturn : settings.selection = .roundRobin) (hmany : 2 ≤ settings.endpoints.length)
    (visits : Nat → Visit ω) (schedule : List Nat) :
    let s := run visits schedule client.shared
    let n := settings.endpoints.length
    (∀ i, (s.turns.map Turn.visit).count i =
      if i ∈ schedule ∧ (visits i).call.isRefused = false then 1 else 0) ∧
    (∀ j turn, s.turns[j]? = some turn → turn.index = j % 2 ^ 64 % n ∧ turn.index < n) ∧
    (∀ k ≤ 2 ^ 64, k ≤ s.turns.length → ∀ index < n,
      ((s.turns.take k).map Turn.index).count index = k / n ∨
        ((s.turns.take k).map Turn.index).count index = (k + n - 1) / n) ∧
    (∀ i, 2 ≤ schedule.count i → ∃ last, s.progress i = .ended last) ∧
    ∀ i last, s.progress i = .ended last → ∃ index host alone,
      ((visits i).call.isRefused = false → ⟨i, index⟩ ∈ s.turns) ∧
      settings.endpoints[index]? = some host ∧
      (Client.ofConfig { settings with endpoints := [host] } toggles hasSigner environment).2 =
        .ok alone ∧
      last = ((visits i).call.make (visits i).env alone (visits i).world).1 := by
  intro s n
  obtain ⟨-, notices, signing, -, hclient⟩ := Client.ofConfig_ok_iff.1 hopen
  have hsize : client.pool.size = n := hclient.size
  have horderly : Orderly client visits schedule s :=
    run_orderly (hclient.strategy.trans hturn) (by omega) hclient.cursor visits schedule
  refine ⟨horderly.turn, fun j turn hj => ?_, fun k hk hturns index hindex => ?_, fun i hi => ?_,
    fun i last hlast => ?_⟩
  · have hindex := horderly.index j turn hj
    rw [hsize] at hindex
    rw [hindex]
    exact ⟨rfl, Nat.mod_lt _ (by omega)⟩
  · rw [horderly.index_of_take hk hturns, hsize]
    exact share_of_range (by omega) k hindex
  · have hstands := horderly.stands i
    cases hp : s.progress i with
    | waiting =>
      rw [hp] at hstands
      have hcount : schedule.count i = 0 := hstands
      omega
    | placed e op w =>
      rw [hp] at hstands
      have hcount : schedule.count i = 1 := hstands.1
      omega
    | ended last => exact ⟨last, rfl⟩
  · have hstands := horderly.stands i
    rw [hlast] at hstands
    obtain ⟨-, index, e, hmem, he, hfirst⟩ := hstands
    have hlt : index < settings.endpoints.length :=
      hclient.size ▸ (List.getElem?_eq_some_iff.1 he).1
    have hhost := List.getElem?_eq_getElem hlt
    exact ⟨index, _, client.only e, hmem, hhost, Client.ofConfig_single hopen hhost he, hfirst⟩

def twoHosts : Config := { endpoints := ["[::1]", "[::2]"], tls := false, selection := .roundRobin }

def errands (i : Nat) : Visit Rehearsal.World where
  call := if i = 1 then .graph "g" else .all
  env := Rehearsal.stage ⟨.log, true, none⟩ ⟨none⟩
  world := .start []

/-- Three exports that interrupt each other have a turn each, and the visit among them that asks for
nothing has none. -/
theorem run_takes_turns_of_two :
    ∃ client, (Client.ofConfig twoHosts .none false none).2 = .ok client ∧
      let s := run errands [0, 1, 2, 3, 2, 0, 3] client.shared
      (∀ i, (s.turns.map Turn.visit).count i = if i ∈ [0, 2, 3] then 1 else 0) ∧
        ∀ j turn, s.turns[j]? = some turn → turn.index = j % 2 ^ 64 % 2 ∧ turn.index < 2 := by
  have hopen : (Client.ofConfig twoHosts .none false none).2.toOption.isSome = true := by
    decide +kernel
  cases hclient : (Client.ofConfig twoHosts .none false none).2 with
  | error f =>
    rw [hclient] at hopen
    cases hopen
  | ok client =>
    obtain ⟨hturn, hindex, -⟩ := run_takes_turns hclient rfl (by decide) errands
      [0, 1, 2, 3, 2, 0, 3]
    refine ⟨client, rfl, fun i => ?_, hindex⟩
    have hrefused : (errands i).call.isRefused = false ↔ i ≠ 1 := by
      have hname : Rdf.isAbsoluteIri ['g'] = false := by decide
      by_cases hi : i = 1 <;> simp [errands, hi, Client.Call.isRefused, hname]
    have hasked : (i ∈ [0, 1, 2, 3, 2, 0, 3] ∧ (errands i).call.isRefused = false) ↔
        i ∈ [0, 2, 3] := by
      rw [hrefused]
      simp only [List.mem_cons, List.not_mem_nil, or_false]
      omega
    simp only [hturn i, hasked]

end Shared
end RdfExport
