import RdfExport.Proofs.Net.Url
import RdfExport.Proofs.Opening
import RdfExport.Proofs.Text.Trimmed

/-!
# RdfExport.Proofs.Addresses

Which server the URLs of an endpoint name. Settings are checked by reading the URL of each host and
looking at its path. That is enough for a host without `@`, `?` and `#`: its URL has the host and
the port of the settings and nothing else, and the URLs that start with it name the same server.
With one of these characters, the checked URL may name somebody who asks, or have a query or a
fragment that takes the place of the port.

* `Url.IsBare`, `Url.GoesTo`: a URL of a server, and any URL on it.
* `Config.parse_endpointUrl`, `Config.parse_path`: how the URL of a host is read, and those below.
* `Config.addresses_its_hosts`: what it means for an endpoint that settings have no fault.
-/

namespace RdfExport

open Net

namespace Net.Url

/-- A URL of a scheme, a host and a port, and nothing else. -/
structure IsBare (url : Url) (scheme : Scheme) (port : Nat) : Prop where
  scheme : url.scheme = scheme
  nobody : url.authority.user = ⟨[], none⟩
  port : url.effectivePort = port
  path : url.path = [[]]
  query : url.query = none
  fragment : url.fragment = none

/-- A URL names a server, and nobody who asks. -/
structure GoesTo (url : Url) (scheme : Scheme) (host : Host) (port : Nat) : Prop where
  scheme : url.scheme = scheme
  nobody : url.authority.user = ⟨[], none⟩
  host : url.authority.host = host
  port : url.effectivePort = port

theorem IsBare.goesTo {url u : Url} {scheme : Scheme} {port : Nat} (h : url.IsBare scheme port)
    (hscheme : u.scheme = url.scheme) (hauthority : u.authority = url.authority) :
    u.GoesTo scheme url.authority.host port where
  scheme := hscheme.trans h.scheme
  nobody := by rw [hauthority, h.nobody]
  host := by rw [hauthority]
  port := by rw [← h.port, effectivePort, effectivePort, hscheme, hauthority]

end Net.Url

namespace Config

variable {c : Config} {host : String}

/-- The text of a host inside a URL: without white space around it, without tabs and line ends, and
without slashes at its start. -/
def urlText (host : String) : List Char :=
  ((Text.trimmed host).toList.filter Url.isKept).dropWhile Url.isSlash

theorem mem_urlText {mark : Char} (hmark : mark = '@' ∨ mark = '?' ∨ mark = '#') :
    mark ∈ urlText host ↔ mark ∈ host.toList := by
  have hplain : Url.isSlash mark = false ∧ Url.isKept mark = true ∧ Text.isBlank mark = false := by
    rcases hmark with rfl | rfl | rfl <;> decide
  rw [urlText, mem_dropWhile_of_not hplain.1, List.mem_filter, Text.mem_trimmed hplain.2.2]
  exact and_iff_left hplain.2.1

/-- Nobody is named before the last `@` of a host, if there is one. -/
def IsAnonymous (host : String) : Prop :=
  ∀ who ∈ (Url.splitUser (urlText host)).1, who = [] ∨ who = [':']

theorem isAnonymous_of_not_mem (hat : '@' ∉ host.toList) : IsAnonymous host := by
  intro who hwho
  rw [Url.splitUser_of_not_mem (fun hmem => hat ((mem_urlText (.inl rfl)).1 hmem))] at hwho
  cases hwho

def authorityText (c : Config) (host : String) : List Char :=
  urlText host ++ ':' :: Nat.toDigits 10 c.port.toNat

theorem mem_authorityText {mark : Char} (hmark : mark = '@' ∨ mark = '?' ∨ mark = '#') :
    mark ∈ c.authorityText host ↔ mark ∈ host.toList := by
  have hport : mark ∉ ':' :: Nat.toDigits 10 c.port.toNat := by
    rcases hmark with rfl | rfl | rfl <;> exact Url.not_mem_port (by decide) (by decide) _
  rw [authorityText, List.mem_append, mem_urlText hmark]
  exact or_iff_left hport

theorem endpointUrl_toList (c : Config) (host : String) :
    (c.endpointUrl host).toList =
      c.scheme.name.toList ++ "://".toList ++ (Text.trimmed host).toList ++
        ':' :: Nat.toDigits 10 c.port.toNat := by
  have hsame (s : String) : toString s = s := rfl
  simp [endpointUrl, hsame]

theorem visible_port (c : Config) : ∀ d ∈ Nat.toDigits 10 c.port.toNat, 0x20 < d.toNat := by
  intro d hd
  exact Url.visible_of_isDigit (Json.isDigit_of_mem_toDigits _ d hd)

theorem filter_port (c : Config) :
    (Nat.toDigits 10 c.port.toNat).filter Url.isKept = Nat.toDigits 10 c.port.toNat := by
  rw [List.filter_eq_self]
  intro d hd
  exact Url.isKept_of_visible (visible_port c d hd)

theorem dropWhile_authorityText (c : Config) (host : String) (rest : List Char) :
    ((Text.trimmed host).toList.filter Url.isKept ++
      ':' :: Nat.toDigits 10 c.port.toNat ++ rest).dropWhile Url.isSlash =
      c.authorityText host ++ rest := by
  rw [authorityText, urlText, List.append_assoc, List.append_assoc, List.dropWhile_append,
    List.cons_append, List.dropWhile_cons_of_neg (by decide)]
  split
  · rename_i hempty
    rw [List.isEmpty_iff.1 hempty, List.nil_append]
  · rfl

/-- The URL of a host is read from the text of the host and the port. -/
theorem parse_endpointUrl (c : Config) (host : String) :
    Url.parse (c.endpointUrl host) = Url.readAbsolute c.scheme (c.authorityText host) := by
  obtain ⟨rest, hvisible, hclean⟩ := Url.clean_scheme c.scheme (Text.trimmed host).toList
    ':' (by decide) (Nat.toDigits 10 c.port.toNat)
  rw [hvisible (visible_port c), filter_port, ← endpointUrl_toList] at hclean
  have hslashes := dropWhile_authorityText c host []
  rw [List.append_nil, List.append_nil] at hslashes
  rw [Url.parse_of_clean hclean, hslashes]

/-- A URL below that of a host is read from the same text and what follows the next slash. Nothing
is cut off a path of visible characters. -/
theorem parse_path (c : Config) (host : String) {tail : List Char} {path : String}
    (hpath : path.toList = '/' :: tail) :
    ∃ rest, ((∀ x ∈ tail, 0x20 < x.toNat) → rest = tail) ∧
      Url.parse (c.endpointUrl host ++ path) =
        Url.readAbsolute c.scheme (c.authorityText host ++ '/' :: rest) := by
  obtain ⟨rest, hvisible, hclean⟩ := Url.clean_scheme c.scheme
    ((Text.trimmed host).toList ++ ':' :: Nat.toDigits 10 c.port.toNat) '/' (by decide) tail
  refine ⟨rest.filter Url.isKept, ?_, ?_⟩
  · intro htail
    rw [hvisible htail, List.filter_eq_self]
    exact fun x hx => Url.isKept_of_visible (htail x hx)
  · rw [List.filter_append, List.filter_cons_of_pos (by decide), filter_port, ← List.append_assoc,
      ← endpointUrl_toList, ← hpath, ← String.toList_append] at hclean
    rw [Url.parse_of_clean hclean, dropWhile_authorityText]

theorem parse_below (c : Config) (host : String) {path : String}
    (hpath : path.toList.head? = some '/') :
    ∃ rest, Url.parse (c.endpointUrl host ++ path) =
      Url.readAbsolute c.scheme (c.authorityText host ++ '/' :: rest) := by
  obtain ⟨tail, htail⟩ := List.head?_eq_some_iff.1 hpath
  obtain ⟨rest, -, hrest⟩ := parse_path c host htail
  exact ⟨rest, hrest⟩

theorem checkHost_ok (h : c.checkHost host = .ok ()) :
    ∃ url, Url.parse (c.endpointUrl host) = .ok url ∧ url.path = [[]] := by
  unfold checkHost at h
  split at h
  · cases h
  · rename_i url hurl
    split at h
    · rename_i hpath
      exact ⟨url, hurl, hpath⟩
    · cases h

/-- Where the URL of a host has no path, no query and no fragment, all of the text is its
authority. -/
theorem readAuthority_of_path {url : Url}
    (hurl : Url.readAbsolute c.scheme (c.authorityText host) = .ok url) (hpath : url.path = [[]])
    (hquery : '?' ∉ host.toList) (hfragment : '#' ∉ host.toList) :
    (∀ x ∈ c.authorityText host, Url.endsAuthority x = false) ∧
      Url.readAuthority c.scheme (c.authorityText host) = .ok url.authority := by
  rw [← mem_urlText (by simp)] at hquery hfragment
  have hplain := Url.endsAuthority_of_path hurl hpath hquery hfragment
  obtain ⟨a, ha, htail⟩ := Url.readAbsolute_ok hurl
  have hwhole : (c.authorityText host).takeWhile (!Url.endsAuthority ·) = c.authorityText host :=
    List.takeWhile_eq_self_iff.2 fun x hx => by rw [hplain x hx]; rfl
  rw [hwhole] at ha
  rw [htail, Url.withTail_authority]
  exact ⟨hplain, ha⟩

/-- The URL of a checked host is bare unless the host has a query, a fragment or somebody who
asks. -/
theorem isBare_iff {url : Url}
    (hurl : Url.readAbsolute c.scheme (c.authorityText host) = .ok url) (hpath : url.path = [[]]) :
    url.IsBare c.scheme c.port.toNat ↔
      '?' ∉ host.toList ∧ '#' ∉ host.toList ∧ IsAnonymous host := by
  obtain ⟨a, -, htail⟩ := Url.readAbsolute_ok hurl
  have hscheme : url.scheme = c.scheme := by rw [htail, Url.withTail_scheme]
  have hparts := Url.withTail_parts c.scheme a
    ((c.authorityText host).dropWhile (!Url.endsAuthority ·))
  rw [← htail, mem_dropWhile_of_not (by decide), mem_dropWhile_of_not (by decide),
    mem_authorityText (by simp), mem_authorityText (by simp)] at hparts
  have huser (hquery : '?' ∉ host.toList) (hfragment : '#' ∉ host.toList) :
      url.authority.user = ⟨[], none⟩ ↔ IsAnonymous host := by
    obtain ⟨-, hread⟩ := readAuthority_of_path hurl hpath hquery hfragment
    rw [(Url.readAuthority_port hread).1, IsAnonymous]
    cases (Url.splitUser (urlText host)).1 with
    | none => simp
    | some who => simp [Url.readUser_nobody]
  constructor
  · intro hbare
    obtain ⟨hquery, hfragment⟩ := hparts.1 ⟨hbare.query, hbare.fragment⟩
    exact ⟨hquery, hfragment, (huser hquery hfragment).1 hbare.nobody⟩
  · rintro ⟨hquery, hfragment, hnobody⟩
    obtain ⟨-, hread⟩ := readAuthority_of_path hurl hpath hquery hfragment
    obtain ⟨hnone, hnone'⟩ := hparts.2 ⟨hquery, hfragment⟩
    refine ⟨hscheme, (huser hquery hfragment).2 hnobody, ?_, hpath, hnone, hnone'⟩
    rw [Url.effectivePort, hscheme]
    exact (Url.readAuthority_port hread).2.2

theorem ofHost_urls {signing : Option String} {e : Endpoint} {text : String}
    (hpath : c.checkQueryPath = .ok ()) (he : Endpoint.ofHost c signing host = .ok e)
    (htext : text = e.queryUrl ∨ ∃ selector, text = e.graphStoreUrl selector) :
    ∃ path, text = c.endpointUrl host ++ path ∧ path.toList.head? = some '/' := by
  obtain ⟨hbase, hquery, -⟩ := Endpoint.ofHost_ok he
  rcases htext with rfl | ⟨selector, rfl⟩
  · refine ⟨c.queryPath, hquery, ?_⟩
    unfold checkQueryPath at hpath
    split at hpath
    · assumption
    · cases hpath
  · refine ⟨Endpoint.graphStorePath ++ ("?" ++ selector.queryString), ?_, ?_⟩
    · simp only [Endpoint.graphStoreUrl, hbase, String.append_assoc]
    · simp [Endpoint.graphStorePath]

/-- **Requests go to the hosts of the settings.** The URL of a host of settings without fault is
bare exactly if the host has no `?`, no `#` and nobody who asks before an `@`. Then its host is the
one of the settings, and the URLs for queries and for graphs go there. -/
theorem addresses_its_hosts (hc : c.validate = .ok ()) (hhost : host ∈ c.endpoints) :
    ∃ url, Url.parse (c.endpointUrl host) = .ok url ∧ url.path = [[]] ∧
      (url.IsBare c.scheme c.port.toNat ↔
        '?' ∉ host.toList ∧ '#' ∉ host.toList ∧ IsAnonymous host) ∧
      (url.IsBare c.scheme c.port.toNat →
        Host.parse (Url.splitUser (urlText host)).2 = .ok url.authority.host ∧
        ∀ signing e, Endpoint.ofHost c signing host = .ok e →
          ∀ text, (text = e.queryUrl ∨ ∃ selector, text = e.graphStoreUrl selector) →
            ∃ u, Url.parse text = .ok u ∧
              u.GoesTo c.scheme url.authority.host c.port.toNat) := by
  obtain ⟨-, -, -, hchecked, hquerypath⟩ := (validate_ok_iff c).1 hc
  obtain ⟨url, hurl, hpath⟩ := checkHost_ok (hchecked host hhost)
  have hread := hurl
  rw [parse_endpointUrl] at hread
  refine ⟨url, hurl, hpath, isBare_iff hread hpath, ?_⟩
  intro hbare
  obtain ⟨hquery, hfragment, -⟩ := (isBare_iff hread hpath).1 hbare
  obtain ⟨hplain, hauthority⟩ := readAuthority_of_path hread hpath hquery hfragment
  refine ⟨(Url.readAuthority_port hauthority).2.1, ?_⟩
  intro signing e he text htext
  obtain ⟨path, rfl, hslash⟩ := ofHost_urls hquerypath he htext
  obtain ⟨rest, hbelow⟩ := parse_below c host hslash
  obtain ⟨u, hu, hscheme, hsame⟩ := Url.readAbsolute_below hread hplain rest
  exact ⟨u, hbelow.trans hu, hbare.goesTo hscheme hsame⟩

/-- Settings with one host, an address in brackets. -/
def bracketedHost : Config where
  endpoints := ["[::1]"]

/-- The requests go to that address at the port of the settings. -/
theorem addresses_its_hosts_in_brackets :
    bracketedHost.validate = .ok () ∧
      ∃ url, Url.parse "https://[::1]:8182" = .ok url ∧ url.IsBare .https 8182 ∧
        ∃ u, Url.parse "https://[::1]:8182/sparql/gsp/?default" = .ok u ∧
          u.GoesTo .https url.authority.host 8182 := by
  have hvalid : bracketedHost.validate = .ok () := by decide +kernel
  have hhost : "[::1]" ∈ bracketedHost.endpoints := List.mem_cons_self
  have hbase : bracketedHost.endpointUrl "[::1]" = "https://[::1]:8182" := by decide +kernel
  have hgraph : (Endpoint.ofHost bracketedHost none "[::1]").toOption.map
      (·.graphStoreUrl .default) = some "https://[::1]:8182/sparql/gsp/?default" := by
    decide +kernel
  obtain ⟨url, hurl, -, hbare, hgoes⟩ := addresses_its_hosts hvalid hhost
  rw [hbase] at hurl
  have hanonymous : IsAnonymous "[::1]" := isAnonymous_of_not_mem (by decide +kernel)
  have hplain : url.IsBare .https 8182 :=
    hbare.2 ⟨by decide +kernel, by decide +kernel, hanonymous⟩
  cases he : Endpoint.ofHost bracketedHost none "[::1]" with
  | error f =>
    rw [he] at hgraph
    cases hgraph
  | ok e =>
    rw [he] at hgraph
    have htext : e.graphStoreUrl .default = "https://[::1]:8182/sparql/gsp/?default" :=
      Option.some.inj hgraph
    obtain ⟨u, hu, hthere⟩ := (hgoes hplain).2 none e he _ (.inr ⟨.default, rfl⟩)
    rw [htext] at hu
    exact ⟨hvalid, url, hurl, hplain, u, hu, hthere⟩

/-- Settings with a host that has somebody who asks, one that has a query, and one that has a
fragment. -/
def looseHosts : Config where
  endpoints := ["user@[::1]", "[::1]?x", "[::1]#x"]

/-- They have no fault, but none of the URLs is bare. -/
theorem does_not_always_address_its_hosts :
    looseHosts.validate = .ok () ∧
      ∀ host ∈ looseHosts.endpoints, ∃ url, Url.parse (looseHosts.endpointUrl host) = .ok url ∧
        ¬url.IsBare looseHosts.scheme looseHosts.port.toNat := by
  have hread : ∀ host ∈ looseHosts.endpoints,
      ((Url.parse (looseHosts.endpointUrl host)).toOption.any fun url =>
        url.authority.user ≠ ⟨[], none⟩ || url.effectivePort ≠ 8182) = true := by
    decide +kernel
  refine ⟨by decide +kernel, ?_⟩
  intro host hhost
  have hloose := hread host hhost
  cases hurl : Url.parse (looseHosts.endpointUrl host) with
  | error f =>
    rw [hurl] at hloose
    cases hloose
  | ok url =>
    rw [hurl] at hloose
    refine ⟨url, rfl, ?_⟩
    intro hbare
    have hport : url.effectivePort = 8182 := hbare.port
    simp [Except.toOption, hbare.nobody, hport] at hloose

end Config
end RdfExport
