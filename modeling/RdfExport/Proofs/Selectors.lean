import RdfExport.Proofs.Addresses
import RdfExport.Proofs.Text.Percent

/-!
# RdfExport.Proofs.Selectors

How a graph is named in a URL. The name is arbitrary text, and of what it is encoded with nothing
ends a query, separates its parameters or starts an escape that was not there.

* `GraphSelector.Spelled`: what a query says, which is one selector.
* `Endpoint.graphStoreUrl_toList`, `Endpoint.request_graphStore`: the query inside the URL, as
  text and as a request has it.
* `GraphSelector.survives_in_urls`: the whole.
-/

namespace RdfExport

open Net

namespace GraphSelector

/-- A query that says a selector: the default graph, or a name by its octets, some of them
escaped. -/
inductive Spelled : GraphSelector → List Char → Prop where
  | default : Spelled .default "default".toList
  | named {name : String} {value : List Char}
      (plain : ∀ c ∈ value, Percent.isValueChar c = true)
      (stands : Percent.decode (Utf8.encode value) = Utf8.ofString name) :
      Spelled (.named name) ("graph=".toList ++ value)

theorem Spelled.unique {s s' : GraphSelector} {query : List Char} (h : Spelled s query)
    (h' : Spelled s' query) : s = s' := by
  generalize hsame : query = query' at h'
  cases h with
  | default =>
    cases h' with
    | default => rfl
    | named => cases hsame
  | @named name value _ stands =>
    cases h' with
    | default => cases hsame
    | @named name' value' _ stands' =>
      rw [List.append_cancel_left hsame, stands'] at stands
      rw [Utf8.ofString_injective stands]

/-- The characters of a query that says a selector: the name's, and the mark after its key. -/
def isQueryChar (c : Char) : Bool := Percent.isValueChar c || c = '='

theorem isQueryChar_range {c : Char} (h : isQueryChar c = true) :
    0x20 < c.toNat ∧ c.toNat < 0x7F := by
  simp only [isQueryChar, Bool.or_eq_true, decide_eq_true_eq] at h
  rcases h with hvalue | rfl
  · exact Percent.isValueChar_range hvalue
  · decide

theorem Spelled.isQueryChar {s : GraphSelector} {query : List Char} (h : Spelled s query) :
    ∀ c ∈ query, isQueryChar c = true := by
  rw [← List.all_eq_true]
  cases h with
  | default => rfl
  | named plain =>
    have hkey : "graph=".toList.all GraphSelector.isQueryChar = true := rfl
    rw [List.all_append, hkey, Bool.true_and, List.all_eq_true]
    intro c hc
    rw [GraphSelector.isQueryChar, plain c hc, Bool.true_or]

theorem spelled_queryString (s : GraphSelector) : Spelled s s.queryString.toList := by
  cases s with
  | default => exact .default
  | named name =>
    rw [queryString, String.toList_append]
    exact .named (fun c hc => Percent.isValueChar_of_mem_encode hc) (Percent.decode_encode name)

theorem queryString_injective : Function.Injective queryString := by
  intro s s' h
  have hspelled := spelled_queryString s
  rw [h] at hspelled
  exact hspelled.unique (spelled_queryString s')

theorem queryString_isQueryChar (s : GraphSelector) :
    ∀ c ∈ s.queryString.toList, isQueryChar c = true :=
  (spelled_queryString s).isQueryChar

theorem not_mem_queryString (s : GraphSelector) {mark : Char} (hmark : isQueryChar mark = false) :
    mark ∉ s.queryString.toList := by
  intro hmem
  rw [s.queryString_isQueryChar mark hmem] at hmark
  cases hmark

end GraphSelector

namespace Endpoint

theorem graphStoreUrl_injective (e : Endpoint) : Function.Injective e.graphStoreUrl := by
  intro s s' h
  have htext := congrArg String.toList h
  simp only [graphStoreUrl, String.toList_append, List.append_right_inj] at htext
  exact GraphSelector.queryString_injective (String.toList_inj.1 htext)

variable {c : Config} {signing : Option String} {host : String} {e : Endpoint}

theorem graphStoreUrl_toList (he : ofHost c signing host = .ok e) (s : GraphSelector) :
    (e.graphStoreUrl s).toList =
      ((c.endpointUrl host).toList ++ graphStorePath.toList) ++ '?' :: s.queryString.toList := by
  obtain ⟨hbase, -⟩ := ofHost_ok he
  rw [graphStoreUrl, hbase, String.toList_append, String.toList_append, String.toList_append,
    List.append_assoc]
  rfl

theorem not_mem_before_query {mark : Char} (hmark : mark = '?' ∨ mark = '#')
    (hhost : mark ∉ host.toList) :
    mark ∉ (c.endpointUrl host).toList ++ graphStorePath.toList := by
  have hplain : Text.isBlank mark = false ∧ mark ∉ graphStorePath.toList ∧
      mark ∉ c.scheme.name.toList ++ "://".toList := by
    rcases hmark with rfl | rfl <;> cases c.scheme <;> decide +kernel
  have hport : mark ∉ ':' :: Nat.toDigits 10 c.port.toNat := by
    rcases hmark with rfl | rfl <;> exact Url.not_mem_port (by decide) (by decide) _
  rw [Config.endpointUrl_toList, List.mem_append, List.mem_append, List.mem_append,
    Text.mem_trimmed hplain.1]
  rintro (((hmem | hmem) | hmem) | hmem)
  · exact hplain.2.2 hmem
  · exact hhost hmem
  · exact hport hmem
  · exact hplain.2.1 hmem

/-- Nothing in the query of a selector is encoded again when it is read as part of a URL. -/
theorem encodeQuery_queryString (s : GraphSelector) :
    Url.encodeQuery s.queryString.toList = s.queryString.toList := by
  refine Url.encodeFor_eq_self fun x hx => ?_
  have hplain := s.queryString_isQueryChar x hx
  refine ⟨GraphSelector.isQueryChar_range hplain, ?_⟩
  intro hmem
  have hother : ("\"#<>'".toList.all fun x => !GraphSelector.isQueryChar x) = true := rfl
  have := List.all_eq_true.1 hother x hmem
  rw [hplain] at this
  cases this

/-- How the URL of a graph is read: the host and the port of the settings, the path of the protocol,
and the query as it is. -/
theorem parse_graphStoreUrl {url : Url} (he : ofHost c signing host = .ok e)
    (hurl : Url.parse (c.endpointUrl host) = .ok url) (hpath : url.path = [[]])
    (hquery : '?' ∉ host.toList) (hfragment : '#' ∉ host.toList) (s : GraphSelector) :
    Url.parse (e.graphStoreUrl s) = .ok ⟨c.scheme, url.authority,
      ["sparql".toList, "gsp".toList, []], some s.queryString.toList, none⟩ := by
  obtain ⟨hbase, -⟩ := ofHost_ok he
  have htext : e.graphStoreUrl s =
      c.endpointUrl host ++ (graphStorePath ++ "?" ++ s.queryString) := by
    rw [graphStoreUrl, hbase, String.append_assoc, String.append_assoc, String.append_assoc]
  have htail : (graphStorePath ++ "?" ++ s.queryString).toList =
      '/' :: ("sparql/gsp/".toList ++ '?' :: s.queryString.toList) := by
    rw [String.toList_append, String.toList_append, List.append_assoc]
    rfl
  have hgsp : ("sparql/gsp/".toList.all fun x => 0x20 < x.toNat && x != '?' && x != '#') = true :=
    rfl
  simp only [List.all_eq_true, Bool.and_eq_true, decide_eq_true_eq, bne_iff_ne] at hgsp
  obtain ⟨rest, hvisible, hparse⟩ := Config.parse_path c host htail
  have hrest : rest = "sparql/gsp/".toList ++ '?' :: s.queryString.toList := by
    refine hvisible fun x hx => ?_
    rcases List.mem_append.1 hx with hx | hx
    · exact (hgsp x hx).1.1
    · rcases List.mem_cons.1 hx with rfl | hx
      · decide
      · exact (GraphSelector.isQueryChar_range (s.queryString_isQueryChar x hx)).1
  have hmarks : ∀ x ∈ "sparql/gsp/".toList, x ≠ '?' ∧ x ≠ '#' := fun x hx =>
    ⟨(hgsp x hx).1.2, (hgsp x hx).2⟩
  have hread := hurl
  rw [Config.parse_endpointUrl] at hread
  obtain ⟨hplain, -⟩ := Config.readAuthority_of_path hread hpath hquery hfragment
  have hresolved : Url.resolve [] (Url.segments "sparql/gsp/".toList) =
      ["sparql".toList, "gsp".toList, []] := by decide +kernel
  rw [htext, hparse, hrest, Url.readAbsolute_slash hread hplain, ← List.cons_append,
    Url.withTail_query _ _ hmarks (s.not_mem_queryString rfl), hresolved, encodeQuery_queryString]

theorem request_graphStore {url : Url} (he : ofHost c signing host = .ok e)
    (hurl : Url.parse (c.endpointUrl host) = .ok url) (hpath : url.path = [[]])
    (hquery : '?' ∉ host.toList) (hfragment : '#' ∉ host.toList) (s : GraphSelector) :
    ∃ request, e.request (.graphStore s) = .ok request ∧ request.method = .get ∧
      request.body = "" ∧
      request.url =
        ⟨c.scheme, ⟨url.authority.user.kept, url.authority.host, url.authority.port⟩,
          ["sparql".toList, "gsp".toList, []], some s.queryString.toList, none⟩ := by
  have hparse := parse_graphStoreUrl he hurl hpath hquery hfragment s
  simp only [request, parts, hparse]
  exact ⟨_, rfl, rfl, rfl, rfl⟩

end Endpoint

/-- **Selectors survive in URLs.** A query string has letters, digits, `-`, `_`, `.`, `~` and `%`
only, but for the equals sign after the key of a name, and what follows that one stands for the
octets of the name. So no two selectors have the same query string, nor the same URL on an endpoint.
On a host without question marks and number signs, the query string is all that follows the one
question mark of the URL, without a fragment and without the mark between parameters. If the host
passes the check of the settings, it is also what the request has as its query. Nobody is named in
the URL of the request, unless in a way that is no name and no password. -/
theorem GraphSelector.survives_in_urls :
    (∀ s : GraphSelector, s.Spelled s.queryString.toList) ∧
      (∀ name, (named name).queryString ≠ default.queryString) ∧
      Function.Injective queryString ∧
      (∀ e : Endpoint, Function.Injective e.graphStoreUrl) ∧
      ∀ c signing host e, Endpoint.ofHost c signing host = .ok e →
        '?' ∉ host.toList → '#' ∉ host.toList → ∀ s : GraphSelector,
          (∃ before, (e.graphStoreUrl s).toList = before ++ '?' :: s.queryString.toList ∧
            '?' ∉ before ∧ '#' ∉ before) ∧
          '?' ∉ s.queryString.toList ∧ '#' ∉ s.queryString.toList ∧ '&' ∉ s.queryString.toList ∧
          ∀ url, Url.parse (c.endpointUrl host) = .ok url → url.path = [[]] →
            (Config.IsAnonymous host ∨ url.authority.user.credentials?.isSome →
              url.authority.user.kept = ⟨[], none⟩) ∧
            ∃ request, e.request (.graphStore s) = .ok request ∧
              request.url =
                ⟨c.scheme, ⟨url.authority.user.kept, url.authority.host, url.authority.port⟩,
                  ["sparql".toList, "gsp".toList, []], some s.queryString.toList, none⟩ := by
  have hnamed (name : String) : (named name).queryString ≠ default.queryString :=
    queryString_injective.ne GraphSelector.noConfusion
  refine ⟨spelled_queryString, hnamed, queryString_injective,
    Endpoint.graphStoreUrl_injective, ?_⟩
  intro c signing host e he hquery hfragment s
  refine ⟨⟨_, Endpoint.graphStoreUrl_toList he s, ?_, ?_⟩, ?_, ?_, ?_, ?_⟩
  · exact Endpoint.not_mem_before_query (.inl rfl) hquery
  · exact Endpoint.not_mem_before_query (.inr rfl) hfragment
  · exact s.not_mem_queryString rfl
  · exact s.not_mem_queryString rfl
  · exact s.not_mem_queryString rfl
  · intro url hurl hpath
    obtain ⟨request, hrequest, -, -, hthere⟩ :=
      Endpoint.request_graphStore he hurl hpath hquery hfragment s
    refine ⟨?_, request, hrequest, hthere⟩
    rintro (hnobody | hcredentials)
    · rw [Config.parse_endpointUrl] at hurl
      rw [((Config.isBare_iff hurl hpath).2 ⟨hquery, hfragment, hnobody⟩).nobody,
        UserInfo.kept_nobody]
    · exact UserInfo.kept_of_isSome hcredentials

/-- A name with all the marks of a URL, on a host in brackets. -/
theorem GraphSelector.survives_in_url_of_brackets :
    ∃ e, Endpoint.ofHost Config.bracketedHost none "[::1]" = .ok e ∧
      ∃ request, e.request (.graphStore (.named "a&b=c#d?e%2F+é")) = .ok request ∧
        request.url.query = some "graph=a%26b%3Dc%23d%3Fe%252F%2B%C3%A9".toList ∧
        request.url.fragment = none := by
  have hbase : (Url.parse (Config.bracketedHost.endpointUrl "[::1]")).toOption.map (·.path) =
      some [[]] := by decide +kernel
  have hopen : (Endpoint.ofHost Config.bracketedHost none "[::1]").toOption.isSome = true := by
    decide +kernel
  cases he : Endpoint.ofHost Config.bracketedHost none "[::1]" with
  | error f =>
    rw [he] at hopen
    cases hopen
  | ok e =>
    cases hurl : Url.parse (Config.bracketedHost.endpointUrl "[::1]") with
    | error f =>
      rw [hurl] at hbase
      cases hbase
    | ok url =>
      rw [hurl] at hbase
      obtain ⟨-, -, -, -, hrequests⟩ := survives_in_urls
      obtain ⟨-, -, -, -, hsent⟩ := hrequests Config.bracketedHost none "[::1]" e he
        (by decide +kernel) (by decide +kernel) (.named "a&b=c#d?e%2F+é")
      obtain ⟨-, request, hrequest, hthere⟩ := hsent url hurl (Option.some.inj hbase)
      have hquery : (named "a&b=c#d?e%2F+é").queryString.toList =
          "graph=a%26b%3Dc%23d%3Fe%252F%2B%C3%A9".toList := by decide +kernel
      refine ⟨e, rfl, request, hrequest, ?_, ?_⟩
      · rw [hthere, hquery]
      · rw [hthere]

end RdfExport
