import RdfExport.Proofs.Opening
import RdfExport.Proofs.Text.Trimmed

/-!
# RdfExport.Proofs.Requirements

What settings have to meet so that a client opens. The requirements are looked at in order, and the
first one that is not met is told.

* `Client.Requirement`, `Requirement.Met`: the requirements, in order, and when settings meet them.
* `Requirement.Tells`: the fault that tells of a requirement that is not met.
* `Client.ofConfig_error`: a client that does not open tells of the first requirement not met.
* `Client.opens_exactly`: which clients open, what they hold, and what is told otherwise.
-/

namespace RdfExport

namespace Config

/-- That a host makes up a URL whose path is a slash. -/
def FormsUrl (c : Config) (host : String) : Prop :=
  ∃ url, Net.Url.parse (c.endpointUrl host) = .ok url ∧ url.renderPath = ['/']

/-- The region that requests are signed for: that of the settings, or that of the environment where
the settings have none or a blank one. -/
inductive RegionOf (c : Config) (environment : Option String) : String → Prop
  | own {region : String} (h : c.serviceRegion = some region) (hnamed : Text.trimmed region ≠ "") :
    RegionOf c environment (Text.trimmed region)
  | inherited {region : String} (hnone : ∀ own, c.serviceRegion = some own → Text.trimmed own = "")
      (h : environment = some region) (hnamed : Text.trimmed region ≠ "") :
    RegionOf c environment (Text.trimmed region)

theorem isBlankHost_iff (host : String) : isBlankHost host = true ↔ Text.trimmed host = "" := by
  rw [isBlankHost, Option.isNone_iff_eq_none, Text.nonBlank?_eq_none]

theorem renderPath_eq_slash (url : Net.Url) : url.renderPath = ['/'] ↔ url.path = [[]] := by
  unfold Net.Url.renderPath
  constructor
  · intro h
    cases hpath : url.path with
    | nil => simp [hpath] at h
    | cons segment rest =>
      cases rest with
      | nil => simpa [hpath] using h
      | cons next rest => simp [hpath] at h
  · intro h
    rw [h]
    rfl

theorem checkHost_cases (c : Config) (host : String) :
    (c.checkHost host = .ok () ∧ c.FormsUrl host) ∨
      (∃ x, c.checkHost host = .error (.badHost host x.message) ∧
        Net.Url.parse (c.endpointUrl host) = .error x) ∨
      ∃ url, c.checkHost host = .error (.notBareHost host) ∧
        Net.Url.parse (c.endpointUrl host) = .ok url ∧ url.renderPath ≠ ['/'] := by
  unfold checkHost FormsUrl
  cases hurl : Net.Url.parse (c.endpointUrl host) with
  | error x => exact .inr (.inl ⟨x, rfl, rfl⟩)
  | ok url =>
    by_cases hpath : url.path = [[]]
    · exact .inl ⟨by simp [hpath], url, rfl, (renderPath_eq_slash url).2 hpath⟩
    · exact .inr (.inr ⟨url, by simp [hpath], rfl, mt (renderPath_eq_slash url).1 hpath⟩)

theorem checkHost_ok_iff (c : Config) (host : String) :
    c.checkHost host = .ok () ↔ c.FormsUrl host := by
  rcases c.checkHost_cases host with ⟨hok, hforms⟩ | ⟨x, herror, hurl⟩ | ⟨url, herror, hurl, hpath⟩
  · exact iff_of_true hok hforms
  · rw [herror]
    refine iff_of_false (by simp) ?_
    rintro ⟨url, hok, -⟩
    rw [hurl] at hok
    cases hok
  · rw [herror]
    refine iff_of_false (by simp) ?_
    rintro ⟨url', hok, hslash⟩
    rw [hurl, Except.ok.injEq] at hok
    exact hpath (hok ▸ hslash)

/-- The fault of hosts is that of the first host that has one. -/
theorem checkHosts_error {c : Config} {hosts : List String} {f : ConfigFault}
    (h : c.checkHosts hosts = .error f) :
    ∃ before host after, hosts = before ++ host :: after ∧ (∀ b ∈ before, c.FormsUrl b) ∧
      c.checkHost host = .error f := by
  induction hosts with
  | nil => cases h
  | cons host rest ih =>
    rw [checkHosts] at h
    cases hc : c.checkHost host with
    | error f' =>
      rw [hc] at h
      exact ⟨[], host, rest, rfl, by simp, hc.trans h⟩
    | ok u =>
      rw [hc] at h
      obtain ⟨before, bad, after, rfl, hbefore, hbad⟩ := ih h
      refine ⟨host :: before, bad, after, rfl, ?_, hbad⟩
      exact List.forall_mem_cons.2 ⟨(c.checkHost_ok_iff host).1 hc, hbefore⟩

theorem regionOf_iff {c : Config} {environment : Option String} {region : String} :
    c.RegionOf environment region ↔
      (c.serviceRegion.bind Text.nonBlank?).or (environment.bind Text.nonBlank?) =
        some region := by
  constructor
  · intro h
    cases h with
    | own h hnamed => simp [h, Text.nonBlank?_eq_some.2 ⟨rfl, hnamed⟩]
    | inherited hnone h hnamed =>
      have hown : c.serviceRegion.bind Text.nonBlank? = none := by
        rw [Option.bind_eq_none_iff]
        exact fun own hown => Text.nonBlank?_eq_none.2 (hnone own hown)
      simp [hown, h, Text.nonBlank?_eq_some.2 ⟨rfl, hnamed⟩]
  · intro h
    rcases Option.or_eq_some_iff.1 h with hown | ⟨hnone, hinherited⟩
    · obtain ⟨own, hsome, hregion⟩ := Option.bind_eq_some_iff.1 hown
      obtain ⟨rfl, hnamed⟩ := Text.nonBlank?_eq_some.1 hregion
      exact .own hsome hnamed
    · obtain ⟨inherited, hsome, hregion⟩ := Option.bind_eq_some_iff.1 hinherited
      obtain ⟨rfl, hnamed⟩ := Text.nonBlank?_eq_some.1 hregion
      refine .inherited (fun own hown => Text.nonBlank?_eq_none.1 ?_) hsome hnamed
      exact Option.bind_eq_none_iff.1 hnone own hown

theorem region_cases (c : Config) (environment : Option String) :
    (c.iamAuth = false ∧ c.region environment = .ok none) ∨
      (∃ region, c.iamAuth = true ∧ c.RegionOf environment region ∧
        c.region environment = .ok (some region)) ∨
      (c.iamAuth = true ∧ (¬∃ region, c.RegionOf environment region) ∧
        c.region environment = .error .noRegion) := by
  cases hauth : c.iamAuth with
  | false => exact .inl ⟨rfl, by simp [region, hauth]⟩
  | true =>
    right
    simp only [regionOf_iff, region, hauth]
    cases c.serviceRegion.bind Text.nonBlank? with
    | some own => exact .inl ⟨own, by simp⟩
    | none =>
      cases environment.bind Text.nonBlank? with
      | some inherited => exact .inl ⟨inherited, by simp⟩
      | none => exact .inr (by simp)

end Config

namespace Client

/-- What settings, a signer and the environment have to meet, in the order in which it is looked
at. -/
inductive Requirement where
  | hasEndpoint
  | namesEndpoints
  | port
  | hosts
  | queryPath
  | region
  | signer
  | userAgent

namespace Requirement

def all : List Requirement :=
  [.hasEndpoint, .namesEndpoints, .port, .hosts, .queryPath, .region, .signer, .userAgent]

def Met (c : Config) (hasSigner : Bool) (environment : Option String) : Requirement → Prop
  | hasEndpoint => c.endpoints ≠ []
  | namesEndpoints => ∀ host ∈ c.endpoints, Text.trimmed host ≠ ""
  | port => c.port ≠ 0
  | hosts => ∀ host ∈ c.endpoints, c.FormsUrl host
  | queryPath => ∃ rest, c.queryPath.toList = '/' :: rest
  | region => c.iamAuth = true → ∃ region, c.RegionOf environment region
  | signer => c.iamAuth = true → hasSigner = true
  | userAgent => ∀ x ∈ c.userAgent.toList, Endpoint.isFieldChar x = true

/-- What is told of a requirement that is not met. It is about the first endpoint that does not
meet it. -/
inductive Tells (c : Config) : Requirement → ConfigFault → Prop
  | hasEndpoint : Tells c .hasEndpoint .noEndpoints
  | namesEndpoints {before after : List String} {host : String}
      (hsplit : c.endpoints = before ++ host :: after)
      (hbefore : ∀ b ∈ before, Text.trimmed b ≠ "") (hblank : Text.trimmed host = "") :
    Tells c .namesEndpoints (.blankEndpoint before.length)
  | port : Tells c .port .zeroPort
  | noUrl {before after : List String} {host : String} {x : Net.UrlFault}
      (hsplit : c.endpoints = before ++ host :: after) (hbefore : ∀ b ∈ before, c.FormsUrl b)
      (hurl : Net.Url.parse (c.endpointUrl host) = .error x) :
    Tells c .hosts (.badHost host x.message)
  | notBare {before after : List String} {host : String} {url : Net.Url}
      (hsplit : c.endpoints = before ++ host :: after) (hbefore : ∀ b ∈ before, c.FormsUrl b)
      (hurl : Net.Url.parse (c.endpointUrl host) = .ok url) (hpath : url.renderPath ≠ ['/']) :
    Tells c .hosts (.notBareHost host)
  | queryPath : Tells c .queryPath (.relativeQueryPath c.queryPath)
  | region : Tells c .region .noRegion
  | signer : Tells c .signer .noSigner
  | userAgent {host : String} {rest : List String} (h : c.endpoints = host :: rest) :
    Tells c .userAgent (.badUserAgent host)

/-- That a requirement is the first one that is not met. -/
def FirstUnmet (c : Config) (hasSigner : Bool) (environment : Option String) (r : Requirement) :
    Prop :=
  ∃ before after, all = before ++ r :: after ∧
    (∀ q ∈ before, q.Met c hasSigner environment) ∧ ¬r.Met c hasSigner environment

section

variable {c : Config} {hasSigner : Bool} {environment : Option String}

/-- A list is cut before the first of its members that has not a property in one way only. -/
theorem eq_of_first {α : Type} {P : α → Prop} {before before' after after' : List α} {a a' : α}
    (h : before ++ a :: after = before' ++ a' :: after') (hbefore : ∀ b ∈ before, P b) (ha : ¬P a)
    (hbefore' : ∀ b ∈ before', P b) (ha' : ¬P a') : before = before' ∧ a = a' := by
  classical
  have htake := congrArg (List.takeWhile fun b => decide (P b)) h
  have hdrop := congrArg (List.dropWhile fun b => decide (P b)) h
  rw [takeWhile_before (by simpa using hbefore) (by simpa using ha),
    takeWhile_before (by simpa using hbefore') (by simpa using ha')] at htake
  rw [dropWhile_before (by simpa using hbefore) (by simpa using ha),
    dropWhile_before (by simpa using hbefore') (by simpa using ha')] at hdrop
  exact ⟨htake, (List.cons.inj hdrop).1⟩

theorem FirstUnmet.not_met {r : Requirement} (h : FirstUnmet c hasSigner environment r) :
    ¬r.Met c hasSigner environment := by
  obtain ⟨-, -, -, -, hunmet⟩ := h
  exact hunmet

theorem FirstUnmet.unique {r r' : Requirement} (h : FirstUnmet c hasSigner environment r)
    (h' : FirstUnmet c hasSigner environment r') : r = r' := by
  obtain ⟨before, after, hall, hbefore, hr⟩ := h
  obtain ⟨before', after', hall', hbefore', hr'⟩ := h'
  exact (eq_of_first (hall.symm.trans hall') hbefore hr hbefore' hr').2

/-- One fault only tells of a requirement. -/
theorem Tells.unique {r : Requirement} {f f' : ConfigFault} (h : r.Tells c f)
    (h' : r.Tells c f') : f = f' := by
  have hnoUrl : ∀ {host : String} {x : Net.UrlFault},
      Net.Url.parse (c.endpointUrl host) = .error x → ¬c.FormsUrl host := by
    rintro host x hx ⟨url, hurl, -⟩
    rw [hx] at hurl
    cases hurl
  have hnotBare : ∀ {host : String} {url : Net.Url},
      Net.Url.parse (c.endpointUrl host) = .ok url → url.renderPath ≠ ['/'] → ¬c.FormsUrl host := by
    rintro host url hurl hpath ⟨url', hurl', hslash⟩
    rw [hurl, Except.ok.injEq] at hurl'
    exact hpath (hurl' ▸ hslash)
  cases h with
  | hasEndpoint | port | queryPath | region | signer => cases h'; rfl
  | namesEndpoints hsplit hbefore hblank =>
    cases h' with
    | namesEndpoints hsplit' hbefore' hblank' =>
      rw [(eq_of_first (hsplit.symm.trans hsplit') hbefore (not_not.2 hblank) hbefore'
        (not_not.2 hblank')).1]
  | noUrl hsplit hbefore hurl =>
    cases h' with
    | noUrl hsplit' hbefore' hurl' =>
      obtain ⟨-, rfl⟩ := eq_of_first (hsplit.symm.trans hsplit') hbefore (hnoUrl hurl) hbefore'
        (hnoUrl hurl')
      rw [hurl] at hurl'
      cases hurl'
      rfl
    | notBare hsplit' hbefore' hurl' hpath' =>
      obtain ⟨-, rfl⟩ := eq_of_first (hsplit.symm.trans hsplit') hbefore (hnoUrl hurl) hbefore'
        (hnotBare hurl' hpath')
      rw [hurl] at hurl'
      cases hurl'
  | notBare hsplit hbefore hurl hpath =>
    cases h' with
    | noUrl hsplit' hbefore' hurl' =>
      obtain ⟨-, rfl⟩ := eq_of_first (hsplit.symm.trans hsplit') hbefore (hnotBare hurl hpath)
        hbefore' (hnoUrl hurl')
      rw [hurl] at hurl'
      cases hurl'
    | notBare hsplit' hbefore' hurl' hpath' =>
      obtain ⟨-, rfl⟩ := eq_of_first (hsplit.symm.trans hsplit') hbefore (hnotBare hurl hpath)
        hbefore' (hnotBare hurl' hpath')
      rfl
  | userAgent hsplit =>
    cases h' with
    | userAgent hsplit' =>
      rw [hsplit] at hsplit'
      cases hsplit'
      rfl

end

end Requirement

variable {c : Config} {hasSigner : Bool} {environment : Option String}

open Requirement

theorem checkQueryPath_ok_iff :
    c.checkQueryPath = .ok () ↔ ∃ rest, c.queryPath.toList = '/' :: rest := by
  unfold Config.checkQueryPath
  cases c.queryPath.toList with
  | nil => simp
  | cons x rest => by_cases hx : x = '/' <;> simp [hx]

def checked : List Requirement := [hasEndpoint, namesEndpoints, port, hosts, queryPath]

theorem validate_ok_iff_met :
    c.validate = .ok () ↔ ∀ r ∈ checked, r.Met c hasSigner environment := by
  rw [Config.validate_ok_iff, checkQueryPath_ok_iff]
  simp only [checked, List.forall_mem_cons, Met, Config.checkHost_ok_iff, ← Bool.not_eq_true,
    Config.isBlankHost_iff, ne_eq]
  simp

theorem tells_of_blank {index : Nat} (h : c.endpoints.findIdx? Config.isBlankHost = some index) :
    ¬namesEndpoints.Met c hasSigner environment ∧
      namesEndpoints.Tells c (.blankEndpoint index) := by
  obtain ⟨hlt, hblank, hbefore⟩ := List.findIdx?_eq_some_iff_getElem.1 h
  rw [Config.isBlankHost_iff] at hblank
  refine ⟨fun hmet => hmet _ (List.getElem_mem hlt) hblank, ?_⟩
  have hsplit : c.endpoints =
      c.endpoints.take index ++ c.endpoints[index] :: c.endpoints.drop (index + 1) := by simp
  have hnamed : ∀ b ∈ c.endpoints.take index, Text.trimmed b ≠ "" := by
    intro b hb
    obtain ⟨i, hi, rfl⟩ := List.mem_take_iff_getElem.1 hb
    have hnot := hbefore i (by omega)
    rwa [Config.isBlankHost_iff] at hnot
  have htells := Tells.namesEndpoints hsplit hnamed hblank
  rwa [List.length_take_of_le (Nat.le_of_lt hlt)] at htells

theorem tells_of_host {f : ConfigFault} (h : c.checkHosts c.endpoints = .error f) :
    ¬hosts.Met c hasSigner environment ∧ hosts.Tells c f := by
  obtain ⟨before, host, after, hsplit, hbefore, hbad⟩ := Config.checkHosts_error h
  have hunmet : ¬hosts.Met c hasSigner environment := by
    intro hmet
    have hgood := (c.checkHost_ok_iff host).2 (hmet host (by simp [hsplit]))
    rw [hbad] at hgood
    cases hgood
  refine ⟨hunmet, ?_⟩
  rcases c.checkHost_cases host with ⟨hok, -⟩ | ⟨x, herror, hurl⟩ | ⟨url, herror, hurl, hpath⟩
  · rw [hbad] at hok
    cases hok
  · rw [hbad] at herror
    cases herror
    exact .noUrl hsplit hbefore hurl
  · rw [hbad] at herror
    cases herror
    exact .notBare hsplit hbefore hurl hpath

/-- A fault of the settings tells of the first of these requirements that is not met. -/
theorem validate_error {f : ConfigFault} (h : c.validate = .error f) :
    ∃ r, FirstUnmet c hasSigner environment r ∧ r.Tells c f := by
  unfold Config.validate at h
  by_cases hnone : c.endpoints = []
  · simp only [hnone, List.isEmpty_nil, if_true] at h
    cases h
    exact ⟨hasEndpoint, ⟨[], _, rfl, by simp, by simp [Met, hnone]⟩, .hasEndpoint⟩
  rw [if_neg (by simp [hnone])] at h
  cases hblank : c.endpoints.findIdx? Config.isBlankHost with
  | some index =>
    rw [hblank] at h
    cases h
    obtain ⟨hunmet, htells⟩ := tells_of_blank hblank
    exact ⟨namesEndpoints, ⟨[hasEndpoint], _, rfl, by simp [Met, hnone], hunmet⟩, htells⟩
  | none =>
    rw [hblank] at h
    have hnamed : ∀ host ∈ c.endpoints, Text.trimmed host ≠ "" := by
      intro host hhost hempty
      have hnot := List.findIdx?_eq_none_iff.1 hblank host hhost
      rw [(Config.isBlankHost_iff host).2 hempty] at hnot
      cases hnot
    by_cases hport : c.port = 0
    · simp only [if_pos hport] at h
      cases h
      exact ⟨port, ⟨[hasEndpoint, namesEndpoints], _, rfl, by simpa [Met, hnone] using hnamed,
        by simp [Met, hport]⟩, .port⟩
    simp only [if_neg hport] at h
    cases hhosts : c.checkHosts c.endpoints with
    | error f' =>
      rw [hhosts] at h
      cases h
      obtain ⟨hunmet, htells⟩ := tells_of_host hhosts
      exact ⟨hosts, ⟨[hasEndpoint, namesEndpoints, port], _, rfl,
        by simpa [Met, hnone, hport] using hnamed, hunmet⟩, htells⟩
    | ok u =>
      rw [hhosts] at h
      change c.checkQueryPath = .error f at h
      have hforms : ∀ host ∈ c.endpoints, c.FormsUrl host := fun host hhost =>
        (c.checkHost_ok_iff host).1 ((c.checkHosts_ok_iff _).1 hhosts host hhost)
      have hunmet : ¬queryPath.Met c hasSigner environment := by
        rw [Met, ← checkQueryPath_ok_iff, h]
        simp
      refine ⟨queryPath, ⟨[hasEndpoint, namesEndpoints, port, hosts], _, rfl, ?_, hunmet⟩, ?_⟩
      · simp only [List.forall_mem_cons, Met]
        exact ⟨hnone, hnamed, hport, hforms, by simp⟩
      · unfold Config.checkQueryPath at h
        by_cases hslash : c.queryPath.toList.head? = some '/'
        · rw [if_pos hslash] at h
          cases h
        · rw [if_neg hslash] at h
          cases h
          exact .queryPath

theorem signingRegion_cases (c : Config) (hasSigner : Bool) (environment : Option String) :
    (∃ notices signing, signingRegion c hasSigner environment = .ok (notices, signing) ∧
      region.Met c hasSigner environment ∧ signer.Met c hasSigner environment ∧
      if c.iamAuth then ∃ region, c.RegionOf environment region ∧ signing = some region
        else signing = none) ∨
    (signingRegion c hasSigner environment = .error .noRegion ∧
      ¬region.Met c hasSigner environment) ∨
    (signingRegion c hasSigner environment = .error .noSigner ∧
      region.Met c hasSigner environment ∧ ¬signer.Met c hasSigner environment) := by
  unfold signingRegion
  rcases c.region_cases environment with
    ⟨hauth, hregion⟩ | ⟨own, hauth, hown, hregion⟩ | ⟨hauth, hnone, hregion⟩
  · left
    cases hasSigner <;> simp [hregion, Met, hauth]
  · have hsome : ∃ region, c.RegionOf environment region := ⟨own, hown⟩
    cases hasSigner with
    | true => exact .inl ⟨[], some own, by simp [hregion, Met, hauth, hown, hsome]⟩
    | false => exact .inr (.inr (by simp [hregion, Met, hauth, hsome]))
  · exact .inr (.inl (by simp [hregion, Met, hauth, hnone]))

/-- Whether a client can be made of endpoints depends on the user agent only. -/
theorem ofRegion_cases (c : Config) (hasSigner : Bool) (environment : Option String)
    (toggles : Toggles) (signing : Option String) (hhosts : c.endpoints ≠ []) :
    (∃ client, ofRegion c toggles signing = .ok client ∧
      userAgent.Met c hasSigner environment) ∨
    ∃ f, ofRegion c toggles signing = .error f ∧
      ¬userAgent.Met c hasSigner environment ∧ userAgent.Tells c f := by
  obtain ⟨host, rest, hsplit⟩ := List.exists_cons_of_ne_nil hhosts
  by_cases hagent : userAgent.Met c hasSigner environment
  · left
    obtain ⟨endpoint, hopens⟩ : ∃ endpoint : String → Endpoint,
        Endpoint.ofHost c signing = fun host => pure (endpoint host) :=
      ⟨_, funext fun _ => if_pos (List.all_eq_true.2 hagent)⟩
    refine ⟨⟨⟨endpoint host :: rest.map endpoint, List.cons_ne_nil _ _, c.selection, 0⟩, toggles⟩,
      ?_, hagent⟩
    simp only [ofRegion, hopens, List.mapM_pure, hsplit, List.map_cons]
    rfl
  · right
    have hall : ¬c.userAgent.toList.all Endpoint.isFieldChar = true := mt List.all_eq_true.1 hagent
    have hfails : Endpoint.ofHost c signing host = .error (.badUserAgent host) := if_neg hall
    refine ⟨.badUserAgent host, ?_, hagent, .userAgent hsplit⟩
    simp only [ofRegion, hsplit, List.mapM_cons, hfails]
    rfl

/-- **A client that does not open** tells of the first requirement that is not met. -/
theorem ofConfig_error {toggles : Toggles} {f : ConfigFault}
    (h : (ofConfig c toggles hasSigner environment).2 = .error f) :
    ∃ r, FirstUnmet c hasSigner environment r ∧ r.Tells c f := by
  unfold ofConfig at h
  cases hvalid : c.validate with
  | error f' =>
    rw [hvalid] at h
    cases h
    exact validate_error hvalid
  | ok u =>
    simp only [hvalid] at h
    have hmet : ∀ q ∈ checked, q.Met c hasSigner environment := validate_ok_iff_met.1 hvalid
    rcases signingRegion_cases c hasSigner environment with
      ⟨notices, signing, hok, hregion, hsigner, -⟩ | ⟨herror, hunmet⟩ | ⟨herror, hregion, hunmet⟩
    · have hhosts : c.endpoints ≠ [] := hmet hasEndpoint (by simp [checked])
      simp only [hok] at h
      rcases ofRegion_cases c hasSigner environment toggles signing hhosts with
        ⟨client, hopens, -⟩ | ⟨f', hfails, hunmet, htells⟩
      · rw [hopens] at h
        cases h
      · rw [hfails] at h
        cases h
        exact ⟨userAgent, ⟨checked ++ [region, signer], [], rfl,
          List.forall_mem_append.2 ⟨hmet, by simp [hregion, hsigner]⟩, hunmet⟩, htells⟩
    · rw [herror] at h
      cases h
      exact ⟨region, ⟨checked, [signer, userAgent], rfl, hmet, hunmet⟩, .region⟩
    · rw [herror] at h
      cases h
      exact ⟨signer, ⟨checked ++ [region], [userAgent], rfl,
        List.forall_mem_append.2 ⟨hmet, by simpa using hregion⟩, hunmet⟩, .signer⟩

structure IsEndpointOf (c : Config) (signing : Option String) (host : String) (e : Endpoint) :
    Prop where
  label : e.label = Text.trimmed host ++ ":" ++ toString c.port.toNat
  baseUrl : e.baseUrl = (if c.tls then "https" else "http") ++ "://" ++ e.label
  queryUrl : e.queryUrl = e.baseUrl ++ c.queryPath
  signing : e.signing = signing
  trailerDiagnostics : e.trailerDiagnostics = c.trailerDiagnostics
  lenientIriParsing : e.lenientIriParsing = c.lenientIriParsing
  userAgent : e.userAgent = c.userAgent

theorem isEndpointOf_ofHost {signing : Option String} {host : String} {e : Endpoint}
    (h : Endpoint.ofHost c signing host = .ok e) : IsEndpointOf c signing host e := by
  unfold Endpoint.ofHost at h
  split at h
  · cases h
    refine ⟨rfl, ?_, rfl, rfl, rfl, rfl, rfl⟩
    cases htls : c.tls <;>
      simp [Config.endpointUrl, Config.endpointLabel, Config.scheme, Net.Scheme.name, htls,
        String.append_assoc, toString]
  · cases h

/-- Settings that meet all requirements open a client. -/
theorem ofConfig_of_met {toggles : Toggles} (h : ∀ r, Met c hasSigner environment r) :
    ∃ client, (ofConfig c toggles hasSigner environment).2 = .ok client := by
  have hvalid : c.validate = .ok () := validate_ok_iff_met.2 fun r _ => h r
  rcases signingRegion_cases c hasSigner environment with
    ⟨notices, signing, hok, -⟩ | ⟨-, hunmet⟩ | ⟨-, -, hunmet⟩
  · rcases ofRegion_cases c hasSigner environment toggles signing (h hasEndpoint) with
      ⟨client, hopens, -⟩ | ⟨f, -, hunmet, -⟩
    · exact ⟨client, by simp [ofConfig, hvalid, hok, hopens]⟩
    · exact absurd (h userAgent) hunmet
  · exact absurd (h region) hunmet
  · exact absurd (h signer) hunmet

/-- **A client that opens** meets all requirements. -/
theorem met_of_ofConfig {toggles : Toggles} {client : Client}
    (h : (ofConfig c toggles hasSigner environment).2 = .ok client) (r : Requirement) :
    r.Met c hasSigner environment := by
  obtain ⟨hvalid, notices, signing, hsigning, hholds⟩ := ofConfig_ok_iff.1 h
  have hchecked : ∀ q ∈ checked, q.Met c hasSigner environment := validate_ok_iff_met.1 hvalid
  have hsigned : region.Met c hasSigner environment ∧ signer.Met c hasSigner environment := by
    rcases signingRegion_cases c hasSigner environment with
      ⟨-, -, -, hregion, hsigner, -⟩ | ⟨herror, -⟩ | ⟨herror, -⟩
    · exact ⟨hregion, hsigner⟩
    all_goals
      rw [hsigning] at herror
      cases herror
  have hagent : userAgent.Met c hasSigner environment := by
    rcases ofRegion_cases c hasSigner environment toggles signing
      (hchecked hasEndpoint (by simp [checked])) with ⟨-, -, hagent⟩ | ⟨f, herror, -⟩
    · exact hagent
    · rw [ofRegion_ok_iff.2 hholds] at herror
      cases herror
  cases r with
  | region => exact hsigned.1
  | signer => exact hsigned.2
  | userAgent => exact hagent
  | hasEndpoint | namesEndpoints | port | hosts | queryPath =>
    exact hchecked _ (by simp [checked])

/-- **Which settings open a client, and what it is then.** A client opens if and only if all
requirements are met; else what is told is what tells of the first requirement that is not met. A
client has one endpoint for each of the hosts, in order, and signs if the settings say so. -/
theorem opens_exactly (c : Config) (toggles : Toggles) (hasSigner : Bool)
    (environment : Option String) :
    let opened := (ofConfig c toggles hasSigner environment).2
    ((∃ client, opened = .ok client) ↔ ∀ r, Requirement.Met c hasSigner environment r) ∧
    (∀ f, opened = .error f ↔ ∃ r, FirstUnmet c hasSigner environment r ∧ r.Tells c f) ∧
    ∀ client, opened = .ok client →
      client.pool.strategy = c.selection ∧ client.toggles = toggles ∧
      ∃ signing, List.Forall₂ (IsEndpointOf c signing) c.endpoints client.pool.endpoints ∧
        if c.iamAuth then ∃ region, c.RegionOf environment region ∧ signing = some region
        else signing = none := by
  refine ⟨⟨fun ⟨_, hopens⟩ => met_of_ofConfig hopens, ofConfig_of_met⟩, fun f => ⟨?_, ?_⟩, ?_⟩
  · exact ofConfig_error
  · rintro ⟨r, hfirst, htells⟩
    cases hopened : (ofConfig c toggles hasSigner environment).2 with
    | ok client => exact absurd (met_of_ofConfig hopened r) hfirst.not_met
    | error f' =>
      obtain ⟨r', hfirst', htells'⟩ := ofConfig_error hopened
      obtain rfl := hfirst.unique hfirst'
      rw [htells.unique htells']
  · intro client hopens
    obtain ⟨-, notices, signing, hsigning, hholds⟩ := ofConfig_ok_iff.1 hopens
    refine ⟨hholds.strategy, hholds.toggles, signing,
      hholds.endpoints.imp fun _ _ => isEndpointOf_ofHost, ?_⟩
    rcases signingRegion_cases c hasSigner environment with
      ⟨notices', signing', hok, -, -, hregion⟩ | ⟨herror, -⟩ | ⟨herror, -⟩
    · rw [hsigning] at hok
      cases hok
      exact hregion
    all_goals
      rw [hsigning] at herror
      cases herror

end Client
end RdfExport
