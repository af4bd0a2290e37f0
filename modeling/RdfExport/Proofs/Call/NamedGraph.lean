import RdfExport.Proofs.Call.Signing
import RdfExport.Proofs.Rdf.Fields
import RdfExport.Proofs.Selectors

/-!
# RdfExport.Proofs.Call.NamedGraph

A call for a graph asks for the graph of that name and for no other. The name becomes part of a
query as it is, without escapes, so all depends on its characters: an absolute IRI has none that
ends a reference, and the only angle brackets of the query are those around the name.

* `isReferenceChar`: what may stand between angle brackets in a query.
* `namedGraphQuery_filter`: the reference in the query, however its text is cut.
* `Http.Request.AsksQuery`: a form that has a query and nothing else.
* `Endpoint.Dispatched.sent_draft`: the request behind one that is sent.
* `Client.Call.graph_asks_for_its_name`: the call.
-/

namespace RdfExport

variable {ω : Type}

/-! ## The query -/

/-- The characters that a reference in a query may have between its angle brackets (`IRIREF`). -/
def isReferenceChar (c : Char) : Bool := 0x20 < c.toNat && !"<>\"\x7b\x7d|^`\\".toList.contains c

theorem isReferenceChar_of_isIriChar {c : Char} (h : Rdf.isIriChar c = true) :
    isReferenceChar c = true := by
  have hspace : c ≠ ' ' := Rdf.isIriChar_ne h (by decide)
  have hlow : 0x20 ≤ c.toNat := Rdf.isIriChar_printable h
  have hvisible : 0x20 < c.toNat :=
    Nat.lt_of_le_of_ne hlow fun heq => hspace (Char.toNat_inj.1 heq.symm)
  have hother : ("<>\"\x7b\x7d|^`\\".toList.all fun d => !Rdf.isIriChar d) = true := by
    decide +kernel
  have hnone : c ∉ "<>\"\x7b\x7d|^`\\".toList := by
    intro hmem
    have := List.all_eq_true.1 hother c hmem
    rw [h] at this
    cases this
  simp only [isReferenceChar, hvisible, decide_true, Bool.true_and, Bool.not_eq_true',
    Bool.eq_false_iff, ne_eq, List.contains_iff_mem]
  exact hnone

theorem isReferenceChar_of_isAbsoluteIri {cs : List Char} (h : Rdf.isAbsoluteIri cs = true) :
    ∀ c ∈ cs, isReferenceChar c = true := fun c hc =>
  isReferenceChar_of_isIriChar (Rdf.isAbsoluteIri_chars h c hc)

def queryHead : List Char := "SELECT * WHERE \x7b GRAPH ?g \x7b ?s ?p ?o \x7d FILTER(?g = ".toList

def queryTail : List Char := ") .\x7d".toList

theorem namedGraphQuery_toList (name : String) :
    (namedGraphQuery name).toList = queryHead ++ '<' :: (name.toList ++ '>' :: queryTail) := by
  have hhead : "SELECT * WHERE \x7b GRAPH ?g \x7b ?s ?p ?o \x7d FILTER(?g = <".toList =
      queryHead ++ ['<'] := by decide +kernel
  have htail : ">) .\x7d".toList = '>' :: queryTail := by decide +kernel
  unfold namedGraphQuery
  rw [String.toList_append, String.toList_append, hhead, htail, List.append_assoc,
    List.append_assoc, List.singleton_append]

theorem namedGraphQuery_injective : Function.Injective namedGraphQuery := by
  intro name name' h
  have htext := congrArg String.toList h
  rw [namedGraphQuery_toList, namedGraphQuery_toList] at htext
  obtain ⟨-, hnames⟩ := List.cons.inj (List.append_cancel_left htext)
  exact String.toList_inj.1 (List.append_cancel_right hnames)

/-- The query has the reference to its graph in the filter, and can be cut in no other way after
the start of the filter and at an angle bracket. -/
theorem namedGraphQuery_filter {name : String}
    (hname : ∀ c ∈ name.toList, isReferenceChar c = true) {before content after : List Char} :
    (namedGraphQuery name).toList =
        before ++ "FILTER(?g = <".toList ++ content ++ '>' :: after ↔
      before = "SELECT * WHERE \x7b GRAPH ?g \x7b ?s ?p ?o \x7d ".toList ∧
        content = name.toList ∧ after = queryTail := by
  have hbracket {bracket : Char} (h : isReferenceChar bracket = false) : bracket ∉ name.toList := by
    intro hmem
    rw [hname bracket hmem] at h
    cases h
  have hmark : "FILTER(?g = <".toList = "FILTER(?g = ".toList ++ ['<'] := by decide +kernel
  have hhead : queryHead = "SELECT * WHERE \x7b GRAPH ?g \x7b ?s ?p ?o \x7d ".toList ++
      "FILTER(?g = ".toList := by decide +kernel
  have hopen : '<' ∉ queryHead := by decide +kernel
  have hopen' : '<' ∉ name.toList ++ '>' :: queryTail := by
    rw [List.mem_append, List.mem_cons]
    rintro (hmem | hmem)
    · exact hbracket (by decide +kernel) hmem
    · revert hmem
      decide +kernel
  have hclose : '>' ∉ queryTail := by decide +kernel
  have hcut : before ++ "FILTER(?g = <".toList ++ content ++ '>' :: after =
      before ++ "FILTER(?g = ".toList ++ '<' :: (content ++ '>' :: after) := by
    rw [hmark]
    simp only [List.append_assoc, List.cons_append, List.nil_append]
  rw [namedGraphQuery_toList, hcut, List.append_cons_inj_of_notMem hopen hopen',
    List.append_cons_inj_of_notMem (hbracket (by decide +kernel)) hclose, hhead]
  constructor
  · rintro ⟨hbefore, -, hcontent, -, hafter⟩
    exact ⟨(List.append_cancel_right hbefore).symm, hcontent.symm, hafter.symm⟩
  · rintro ⟨rfl, rfl, rfl⟩
    exact ⟨rfl, rfl, rfl, rfl, rfl⟩

/-! ## The request -/

/-- A form that has a query and nothing else. -/
structure Http.Request.AsksQuery (request : Http.Request) (text : String) : Prop where
  method : request.method = .post
  field : Endpoint.formField ∈ request.headers
  body : ∃ value : String, request.body = "query=" ++ value ∧ '&' ∉ value.toList ∧
    Percent.formDecode (Utf8.ofString value) = Utf8.ofString text

namespace Endpoint

variable {e : Endpoint} {op : Operation} {log : Log}

theorem request_parts {request : Http.Request} (h : e.request op = .ok request) :
    request.method = (e.parts op).1 ∧ request.body = (e.parts op).2.2.1 ∧
      (∀ field ∈ (e.parts op).2.2.2, field ∈ request.headers) ∧
      ∃ url, Net.Url.parse (e.parts op).2.1 = .ok url ∧ request.url = url.withoutUser := by
  unfold Endpoint.request at h
  cases hurl : Net.Url.parse (e.parts op).2.1 with
  | error fault => simp [hurl] at h
  | ok url =>
    simp only [hurl, Except.ok.injEq] at h
    subst h
    refine ⟨rfl, rfl, fun field hfield => ?_, url, rfl, rfl⟩
    exact List.mem_append_left _ (List.mem_append_right _ (List.mem_cons_of_mem _ hfield))

theorem request_asksQuery {text : String} {request : Http.Request}
    (h : e.request (.tupleQuery text) = .ok request) : request.AsksQuery text := by
  obtain ⟨hmethod, hbody, hfields, -⟩ := request_parts h
  exact ⟨hmethod, hfields _ List.mem_cons_self, Percent.formEncode text, hbody,
    Percent.not_mem_formEncode text, Percent.formDecode_formEncode text⟩

/-- What is sent is the request for the operation, as it is or as the signer has left it. -/
theorem Dispatched.sent_draft {outcome : Except ExportError Http.Response}
    (h : e.Dispatched op log outcome) {agent : String} {request : Http.Request}
    {answer : Except IoError Http.Response} (hsent : .sent agent request answer ∈ log) :
    ∃ draft, e.request op = .ok draft ∧
      (request = draft ∨ ∃ region, .signed region draft (.ok request) ∈ log) := by
  have hlast : ∀ {before : Log} {request' : Http.Request}
      {answer' : Except IoError Http.Response}, e.Prepared op before request' →
      .sent agent request answer ∈ before ++ [.sent e.userAgent request' answer'] →
        ∃ draft, e.request op = .ok draft ∧ (request = draft ∨ ∃ region,
          .signed region draft (.ok request) ∈ before ++ [.sent e.userAgent request' answer']) := by
    intro before request' answer' hp hmem
    cases hp with
    | plain hrequest hs =>
      cases List.mem_singleton.1 hmem
      exact ⟨request, hrequest, .inl rfl⟩
    | @signed draft _ region hrequest hs =>
      cases List.mem_of_ne_of_mem (by simp) hmem with
      | head => exact ⟨draft, hrequest, .inr ⟨region, List.mem_cons_self⟩⟩
      | tail _ hnil => cases hnil
  cases h with
  | unbuilt hrequest => cases hsent
  | unsigned hrequest hs => simp at hsent
  | unanswered hp | refused hp hr | answered hp hr => exact hlast hp hsent

end Endpoint

namespace Client.Call

/-- The same for a whole call. -/
theorem make_sent_draft (env : Environment ω) (c : Client) (call : Call) (w : ω) {agent : String}
    {request : Http.Request} {answer : Except IoError Http.Response}
    (hsent : .sent agent request answer ∈ (call.make env.logged c (w, [])).1.world.2) :
    ∃ op draft, call.operation? c = some op ∧ (c.choose env w).1.request op = .ok draft ∧
      (request = draft ∨ ∃ region,
        .signed region draft (.ok request) ∈ (call.make env.logged c (w, [])).1.world.2) := by
  have hexchange : .sent agent request answer ∈
      (call.make env.logged c (w, [])).1.world.2.filter Action.isExchange :=
    List.mem_filter.2 ⟨hsent, rfl⟩
  rcases make_exchanges env c call w with hnone | ⟨op, dispatched, outcome, hop, hexchanges⟩
  · rw [hnone] at hexchange
    cases hexchange
  · rw [hexchanges.exchanged] at hexchange
    obtain ⟨draft, hdraft, hsame⟩ := hexchanges.dispatch.sent_draft hexchange
    refine ⟨op, draft, hop, hdraft, hsame.imp_right fun ⟨region, hsigned⟩ => ⟨region, ?_⟩⟩
    rw [← hexchanges.exchanged] at hsigned
    exact (List.mem_filter.1 hsigned).1

/-- **A call for a graph asks for the graph of its name.** A name that is no absolute IRI fails the
call with that name, before anything is done and before an endpoint is chosen. Any other name makes
a run of one operation. If exports use queries, what is sent is a form with the query for that
graph: all that stands in it after the start of the filter and before a closing angle bracket is the
name, a reference as it stands, and what follows is the end of the filter. If they do not, it is a
request for the URL of the graph, and the query string there says the name. Two names never share
the query, nor the URL on one endpoint. -/
theorem graph_asks_for_its_name (env : Environment ω) (c : Client) (name : String) (w : ω) :
    let s := (graph name).make env.logged c (w, [])
    let e := (c.choose env w).1
    s.1.project Prod.fst = ((graph name).make env c w).1 ∧
    (if Rdf.isAbsoluteIri name.toList then
      let op : Operation := if c.usesQueries then .tupleQuery (namedGraphQuery name)
        else .graphStore (.named name)
      (∃ notices, (graph name).make env c w =
        ((c.run env op w).1.after notices, (c.run env op w).2)) ∧
      (∀ c ∈ name.toList, isReferenceChar c = true) ∧
      (∀ before content after, (namedGraphQuery name).toList =
          before ++ "FILTER(?g = <".toList ++ content ++ '>' :: after ↔
        before = "SELECT * WHERE \x7b GRAPH ?g \x7b ?s ?p ?o \x7d ".toList ∧
          content = name.toList ∧ after = ") .\x7d".toList) ∧
      ∀ agent request answer, .sent agent request answer ∈ s.1.world.2 → ∃ draft url,
        (request = draft ∨ ∃ region, .signed region draft (.ok request) ∈ s.1.world.2) ∧
        draft.url = url.withoutUser ∧
        if c.usesQueries then
          Net.Url.parse e.queryUrl = .ok url ∧ draft.AsksQuery (namedGraphQuery name)
        else
          Net.Url.parse (e.graphStoreUrl (.named name)) = .ok url ∧ draft.method = .get ∧
            (GraphSelector.named name).Spelled (GraphSelector.named name).queryString.toList
    else ∃ reason, s = (⟨.error (.invalidGraphName name reason), [], (w, [])⟩, c)) ∧
    (∀ name', name ≠ name' → namedGraphQuery name ≠ namedGraphQuery name' ∧
      ∀ e : Endpoint, e.graphStoreUrl (.named name) ≠ e.graphStoreUrl (.named name')) := by
  intro s e
  refine ⟨make_project env c (graph name) w [], ?_, ?_⟩
  · by_cases hname : Rdf.isAbsoluteIri name.toList = true
    · rw [if_pos hname]
      intro op
      have hop : (graph name).operation? c = some op := by rw [operation?, if_pos hname]
      have hplain := isReferenceChar_of_isAbsoluteIri hname
      refine ⟨⟨_, make_eq env c w hop⟩, hplain, fun _ _ _ => namedGraphQuery_filter hplain, ?_⟩
      intro agent request answer hsent
      obtain ⟨op', draft, hop', hdraft, hsame⟩ := make_sent_draft env c (graph name) w hsent
      rw [hop, Option.some.injEq] at hop'
      subst hop'
      obtain ⟨hmethod, -, -, url, hurl, hthere⟩ := Endpoint.request_parts hdraft
      refine ⟨draft, url, hsame, hthere, ?_⟩
      by_cases hq : c.usesQueries = true
      · simp only [op, if_pos hq] at hdraft hurl ⊢
        exact ⟨hurl, Endpoint.request_asksQuery hdraft⟩
      · simp only [op, if_neg hq] at hmethod hurl ⊢
        exact ⟨hurl, hmethod, GraphSelector.spelled_queryString _⟩
    · rw [if_neg hname]
      exact ⟨"not an absolute IRI", by simp only [s, make, exportGraph, if_neg hname]⟩
  · intro name' hne
    refine ⟨namedGraphQuery_injective.ne hne, fun e => e.graphStoreUrl_injective.ne ?_⟩
    rintro ⟨⟩
    exact hne rfl

/-- Asks a server that hangs up for a graph. -/
def askGraph (name : String) (c : Client) : Step Summary (Rehearsal.World × Log) :=
  ((graph name).make (Rehearsal.stage ⟨.log, true, none⟩ ⟨none⟩).logged c (.start [], [])).1

/-- A graph is asked for by its query, and the graph without a scheme is not asked for. -/
theorem graph_asks_for_its_name_by_query :
    ∃ client, (ofConfig Config.bracketedHost ⟨[.noGsp]⟩ false none).2 = .ok client ∧
      (∃ agent request answer, .sent agent request answer ∈ (askGraph "urn:g" client).world.2 ∧
        request.AsksQuery (namedGraphQuery "urn:g")) ∧
      ∃ reason, (askGraph "g" client).result = .error (.invalidGraphName "g" reason) ∧
        (askGraph "g" client).world.2 = [] := by
  have hchecked : ((ofConfig Config.bracketedHost ⟨[.noGsp]⟩ false none).2.toOption.any
      fun client => client.usesQueries && (askGraph "urn:g" client).world.2.any Action.isSent &&
        (askGraph "urn:g" client).world.2.all fun action =>
          !action.isExchange || action.isSent) = true := by
    decide +kernel
  cases hclient : (ofConfig Config.bracketedHost ⟨[.noGsp]⟩ false none).2 with
  | error f =>
    rw [hclient] at hchecked
    cases hchecked
  | ok client =>
    rw [hclient] at hchecked
    obtain ⟨hsent, hplain⟩ := Bool.and_eq_true_iff.1 hchecked
    obtain ⟨hq, hsent⟩ := Bool.and_eq_true_iff.1 hsent
    have hasks (name : String) := graph_asks_for_its_name
      (Rehearsal.stage ⟨.log, true, none⟩ ⟨none⟩) client name (.start [])
    refine ⟨client, rfl, ?_, ?_⟩
    · obtain ⟨action, hmem, haction⟩ := List.any_eq_true.1 hsent
      cases action with
      | sent agent request answer =>
        obtain ⟨-, hfound, -⟩ := hasks "urn:g"
        rw [if_pos (by decide +kernel)] at hfound
        obtain ⟨-, -, -, hrequests⟩ := hfound
        obtain ⟨draft, url, hsame, -, hquery⟩ := hrequests agent request answer hmem
        rw [if_pos hq] at hquery
        refine ⟨agent, request, answer, hmem, ?_⟩
        rcases hsame with rfl | ⟨region, hsigned⟩
        · exact hquery.2
        · cases List.all_eq_true.1 hplain _ hsigned
      | _ => cases haction
    · obtain ⟨-, hrefused, -⟩ := hasks "g"
      rw [if_neg (by decide +kernel)] at hrefused
      obtain ⟨reason, hrefused⟩ := hrefused
      simp only [askGraph, hrefused]
      exact ⟨reason, rfl, trivial⟩

end Client.Call
end RdfExport
