import Mathlib.Data.List.Forall2
import RdfExport.Client

/-!
# RdfExport.Proofs.Opening

Which settings open a client, and what the client is then.

* `Config.validate_ok_iff`: what settings have no fault.
* `Endpoint.ofHost_ok`: the endpoint of a host.
* `Client.ofConfig_ok_iff`: the clients that settings open.
* `Client.ofConfig_single`: the same settings with one of the hosts.
-/

namespace RdfExport

namespace Config

theorem checkHosts_ok_iff (c : Config) (hosts : List String) :
    c.checkHosts hosts = .ok () ↔ ∀ host ∈ hosts, c.checkHost host = .ok () := by
  induction hosts with
  | nil => simp [checkHosts]
  | cons host rest ih =>
    rw [List.forall_mem_cons, ← ih, checkHosts]
    cases hc : c.checkHost host <;> simp

theorem validate_ok_iff (c : Config) :
    c.validate = .ok () ↔
      c.endpoints ≠ [] ∧ (∀ host ∈ c.endpoints, isBlankHost host = false) ∧ c.port ≠ 0 ∧
        (∀ host ∈ c.endpoints, c.checkHost host = .ok ()) ∧ c.checkQueryPath = .ok () := by
  have hblank : c.endpoints.findIdx? isBlankHost = none ↔
      ∀ host ∈ c.endpoints, isBlankHost host = false := by
    simp [List.findIdx?_eq_none_iff]
  rw [← checkHosts_ok_iff, ← hblank, validate]
  by_cases hnone : c.endpoints = []
  · simp [hnone]
  · cases hf : c.endpoints.findIdx? isBlankHost with
    | some index => simp [hnone]
    | none =>
      by_cases hport : c.port = 0
      · simp [hnone, hport]
      · cases hc : c.checkHosts c.endpoints <;> simp [hnone, hport]

theorem checkHost_endpoints (c : Config) (endpoints : List String) (host : String) :
    ({ c with endpoints } : Config).checkHost host = c.checkHost host := by
  simp only [checkHost, endpointUrl, scheme]

end Config

theorem Endpoint.ofHost_ok {c : Config} {signing : Option String} {host : String} {e : Endpoint}
    (h : ofHost c signing host = .ok e) :
    e.baseUrl = c.endpointUrl host ∧ e.queryUrl = c.endpointUrl host ++ c.queryPath ∧
      e.signing = signing ∧ e.trailerDiagnostics = c.trailerDiagnostics := by
  unfold ofHost at h
  by_cases hagent : c.userAgent.toList.all isFieldChar = true
  · rw [if_pos hagent, Except.ok.injEq] at h
    subst h
    exact ⟨rfl, rfl, rfl, rfl⟩
  · rw [if_neg hagent] at h
    cases h

namespace Client

variable {c : Config} {toggles : Toggles} {hasSigner : Bool} {environment : Option String}
  {client : Client}

theorem mapM_ok_iff {α β ε : Type} (f : α → Except ε β) (as : List α) (bs : List β) :
    as.mapM f = .ok bs ↔ List.Forall₂ (fun a b => f a = .ok b) as bs := by
  induction as generalizing bs with
  | nil => cases bs <;> simp [pure, Except.pure]
  | cons a as ih =>
    rw [List.mapM_cons]
    cases ha : f a with
    | error x => cases bs <;> simp [bind, Except.bind, ha]
    | ok b =>
      cases has : as.mapM f with
      | error x => cases bs <;> simp [bind, Except.bind, ← ih, has]
      | ok bs' => cases bs <;> simp [bind, Except.bind, pure, Except.pure, ← ih, has, ha]

/-- What a client has of its settings. -/
structure Holds (c : Config) (toggles : Toggles) (signing : Option String) (client : Client) :
    Prop where
  /-- The endpoints are those of the hosts, in the same order. -/
  endpoints : List.Forall₂ (fun host e => Endpoint.ofHost c signing host = .ok e) c.endpoints
    client.pool.endpoints
  strategy : client.pool.strategy = c.selection
  cursor : client.pool.cursor = 0
  toggles : client.toggles = toggles

theorem ofRegion_ok_iff {signing : Option String} :
    ofRegion c toggles signing = .ok client ↔ client.Holds c toggles signing := by
  have hm := mapM_ok_iff (Endpoint.ofHost c signing) c.endpoints
  unfold ofRegion
  cases hmap : c.endpoints.mapM (Endpoint.ofHost c signing) with
  | error f =>
    constructor
    · intro h
      cases h
    · intro h
      have := (hm _).2 h.endpoints
      rw [hmap] at this
      cases this
  | ok es =>
    cases es with
    | nil =>
      constructor
      · intro h
        cases h
      · intro h
        have hes := (hm _).2 h.endpoints
        rw [hmap] at hes
        cases hes' : client.pool.endpoints with
        | nil => exact absurd hes' client.pool.nonempty
        | cons e es =>
          rw [hes'] at hes
          cases hes
    | cons e es =>
      have hends := (hm _).1 hmap
      constructor
      · intro h
        cases h
        exact ⟨hends, rfl, rfl, rfl⟩
      · rintro ⟨hes, hstrategy, hcursor, htoggles⟩
        have heq := (hm _).2 hes
        rw [hmap] at heq
        obtain ⟨⟨endpoints, nonempty, strategy, cursor⟩, toggles'⟩ := client
        cases heq
        subst hstrategy hcursor htoggles
        rfl

/-- Settings open a client if they have no fault, the region for its signer is known, and every host
is an endpoint. -/
theorem ofConfig_ok_iff :
    (ofConfig c toggles hasSigner environment).2 = .ok client ↔
      c.validate = .ok () ∧ ∃ notices signing,
        signingRegion c hasSigner environment = .ok (notices, signing) ∧
          client.Holds c toggles signing := by
  unfold ofConfig
  cases hv : c.validate with
  | error f => simp
  | ok u =>
    cases hs : signingRegion c hasSigner environment with
    | error f => simp
    | ok r =>
      obtain ⟨notices, signing⟩ := r
      have hsigning : (∃ notices' signing', (Except.ok (notices, signing) : Except ConfigFault _) =
          .ok (notices', signing') ∧ client.Holds c toggles signing') ↔
            ofRegion c toggles signing = .ok client := by
        simp [ofRegion_ok_iff]
      rw [hsigning, and_iff_right rfl]
      cases hr : ofRegion c toggles signing <;> simp [hr]

namespace Holds

variable {signing : Option String}

theorem size (h : client.Holds c toggles signing) : client.pool.size = c.endpoints.length :=
  h.endpoints.length_eq.symm

theorem ofHost_at (h : client.Holds c toggles signing) {index : Nat} {host : String} {e : Endpoint}
    (hhost : c.endpoints[index]? = some host) (he : client.pool.endpoints[index]? = some e) :
    Endpoint.ofHost c signing host = .ok e := by
  obtain ⟨hlt, rfl⟩ := List.getElem?_eq_some_iff.1 hhost
  obtain ⟨hlt', rfl⟩ := List.getElem?_eq_some_iff.1 he
  exact (List.forall₂_iff_get.1 h.endpoints).2 index hlt hlt'

end Holds

def only (client : Client) (e : Endpoint) : Client :=
  ⟨⟨[e], List.cons_ne_nil e [], client.pool.strategy, 0⟩, client.toggles⟩

/-- The same settings with one host only open a client of that host's endpoint. -/
theorem ofConfig_single (h : (ofConfig c toggles hasSigner environment).2 = .ok client)
    {index : Nat} {host : String} {e : Endpoint} (hhost : c.endpoints[index]? = some host)
    (he : client.pool.endpoints[index]? = some e) :
    (ofConfig { c with endpoints := [host] } toggles hasSigner environment).2 =
      .ok (client.only e) := by
  obtain ⟨hvalid, notices, signing, hsigning, hclient⟩ := ofConfig_ok_iff.1 h
  obtain ⟨-, hblank, hport, hhosts, hpath⟩ := c.validate_ok_iff.1 hvalid
  have hmem : host ∈ c.endpoints := List.mem_of_getElem? hhost
  have hsingle : ({ c with endpoints := [host] } : Config).validate = .ok () := by
    refine (Config.validate_ok_iff _).2 ⟨List.cons_ne_nil host [], ?_, hport, ?_, hpath⟩
    · intro host' h
      rw [List.mem_singleton.1 h]
      exact hblank host hmem
    · intro host' h
      rw [List.mem_singleton.1 h, c.checkHost_endpoints]
      exact hhosts host hmem
  refine ofConfig_ok_iff.2 ⟨hsingle, notices, signing, hsigning, ?_, hclient.strategy, rfl,
    hclient.toggles⟩
  exact .cons (hclient.ofHost_at hhost he) .nil

end Client
end RdfExport
