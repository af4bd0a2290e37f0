import RdfExport.Proofs.Call.Trailers
import RdfExport.Proofs.Json.Members
import RdfExport.Proofs.Json.Written

/-!
# RdfExport.Proofs.Call.Refusal

What a call makes of a refusal. Its message is that of the first octets of the body, however these
arrive, and a server that explains itself in a document is quoted.

* `Http.collect_take`, `Http.collect_drained`: what is held of the body, and what is read for it.
* `Diagnostic.ofRefusal_object`, `Diagnostic.ofRefusal_other`: the message of a document and of any
  other text.
* `Client.Call.refusal_told`: what a call reports of a refusal.
* `Client.Call.refusal_untold_for_half_name`: a document that is not quoted.
-/

namespace RdfExport

variable {ω : Type}

namespace Http

/-- Once the limit is held, nothing more is read. -/
theorem collect_full {limit : Nat} {held : Bytes} (h : limit ≤ held.length) (frames : List Frame) :
    collect limit held frames = (held, frames) := by
  cases frames with
  | nil => rfl
  | cons frame rest => cases frame <;> simp only [collect, if_pos h]

/-- What is held of a body within the limit does not depend on how its data is split. -/
theorem collect_take (limit : Nat) (held : Bytes) (frames : List Frame) :
    (collect limit held frames).1.take limit = (held ++ dataOf frames).take limit := by
  induction frames generalizing held with
  | nil => rw [collect, dataOf_nil, List.append_nil]
  | cons frame rest ih =>
    rcases Nat.lt_or_ge held.length limit with hroom | hfull
    · have hroom : ¬limit ≤ held.length := Nat.not_le.2 hroom
      cases frame with
      | data bytes => simp only [collect, if_neg hroom, ih, dataOf_data, List.append_assoc]
      | trailers fields => simp only [collect, if_neg hroom, ih, dataOf_trailers]
      | broken e => simp only [collect, if_neg hroom, dataOf_broken, List.append_nil]
    · rw [collect_full hfull, List.take_append_of_le_length hfull]

/-- A frame of a refusal is read exactly if nothing before it broke and less than the limit was held
before it. -/
theorem collect_drained (limit : Nat) (held : Bytes) (frames : List Frame) :
    ∃ read, frames = read ++ (collect (limit + 1) held frames).2 ∧
      DrainedOf limit held.length frames read := by
  induction frames generalizing held with
  | nil => exact ⟨[], rfl, .nil⟩
  | cons frame rest ih =>
    rcases Nat.lt_or_ge limit held.length with hfull | hroom
    · refine ⟨[], ?_, .beyond hfull _⟩
      rw [collect_full hfull, List.nil_append]
    · have hmore : ¬limit + 1 ≤ held.length := by omega
      cases frame with
      | data bytes =>
        obtain ⟨read, hframes, hread⟩ := ih (held ++ bytes)
        rw [List.length_append] at hread
        refine ⟨.data bytes :: read, ?_, .cons hroom rfl hread⟩
        simp only [collect, if_neg hmore, List.cons_append]
        rw [← hframes]
      | trailers fields =>
        obtain ⟨read, hframes, hread⟩ := ih held
        refine ⟨.trailers fields :: read, ?_, .cons hroom rfl hread⟩
        simp only [collect, if_neg hmore, List.cons_append]
        rw [← hframes]
      | broken e =>
        refine ⟨[.broken e], ?_, .broken hroom e⟩
        simp only [collect, if_neg hmore, List.singleton_append]

theorem refusalText_eq (frames : List Frame) :
    refusalText frames =
      String.ofList (Utf8.decodeLossy ((dataOf frames).take refusalLimit)) := by
  rw [refusalText, collect_take, List.nil_append]

end Http

namespace Diagnostic

variable {text : String}

/-- The message of an object whose names are all text is what its two members tell, if they tell
anything. -/
theorem ofRefusal_object {members : List (Option String × Json)} {code detail : Option String}
    (htext : Json.IsDocument text (.object members)) (hnames : ∀ m ∈ members, m.1.isSome = true)
    (hcode : Json.Tells members "code" code)
    (hdetail : Json.Tells members "detailedMessage" detail) :
    ofRefusal text =
      match code, detail with
      | some code, some detail => code ++ ": " ++ detail
      | none, some detail => detail
      | some code, none => code
      | none, none => Text.trimmed text := by
  have hrecord : (Json.object members).isRecord = true := List.all_eq_true.2 hnames
  have hdocument : ofDocument? (.object members) = some (code, detail) := by
    simp [ofDocument?, hrecord, Json.array?, entry?, Json.entry?, hcode.lone?, hdetail.lone?]
  rw [ofRefusal, Json.ofString?_iff.2 htext, Option.bind_some, hdocument]
  cases code <;> cases detail <;> rfl

theorem ofRefusal_other (h : ∀ j, ¬Json.IsDocument text j) :
    ofRefusal text = Text.trimmed text := by
  have hnone : Json.ofString? text = none := by
    rw [Option.eq_none_iff_forall_ne_some]
    exact fun j hj => h j (Json.ofString?_iff.1 hj)
  rw [ofRefusal, hnone]
  rfl

end Diagnostic

namespace Endpoint

variable {e : Endpoint} {op : Operation} {log : Log}

theorem Dispatched.eq_error_of_refused {outcome : Except ExportError Http.Response}
    (h : e.Dispatched op log outcome) {agent : String} {request : Http.Request}
    {response : Http.Response} (hsent : .sent agent request (.ok response) ∈ log)
    (hrefused : response.isSuccess = false) :
    outcome = .error (.http e.label response.status
      (Diagnostic.ofRefusal (Http.refusalText response.frames))) := by
  rw [h.outcome_of_sent hsent, if_neg (by simp [hrefused])]

theorem Filled.eq_error_of_refused {read : List Http.Frame → Emission Unit}
    {result : Except ExportError Nat} (h : e.Filled op read log result) {agent : String}
    {request : Http.Request} {response : Http.Response}
    (hsent : .sent agent request (.ok response) ∈ log) (hrefused : response.isSuccess = false) :
    result = .error (.http e.label response.status
      (Diagnostic.ofRefusal (Http.refusalText response.frames))) := by
  cases h with
  | undispatched hd =>
    cases hd.eq_error_of_refused (by simpa using hsent) hrefused
    rfl
  | moved hd hm hr => cases hd.eq_error_of_refused (by simpa [hm.not_sent] using hsent) hrefused

theorem Course.eq_error_of_refused {toggles : Toggles} {read : List Http.Frame → Emission Unit}
    {result : Except ExportError Summary} (h : e.Course toggles op read log result) {agent : String}
    {request : Http.Request} {response : Http.Response}
    (hsent : .sent agent request (.ok response) ∈ log) (hrefused : response.isSuccess = false) :
    result = .error (.http e.label response.status
      (Diagnostic.ofRefusal (Http.refusalText response.frames))) := by
  cases h with
  | outputRefused x => simp at hsent
  | sinkRefused x closing => simp at hsent
  | failed hf closing =>
    cases hf.eq_error_of_refused (by simpa using hsent) hrefused
    rfl
  | unclosed hf reason => cases hf.eq_error_of_refused (by simpa using hsent) hrefused
  | complete hf => cases hf.eq_error_of_refused (by simpa using hsent) hrefused

end Endpoint

def Action.response? : Action → Option Http.Response
  | .sent _ _ (.ok response) => some response
  | _ => none

theorem Action.eq_sent_of_response? {action : Action} {response : Http.Response}
    (h : action.response? = some response) :
    ∃ agent request, action = .sent agent request (.ok response) := by
  cases action with
  | sent agent request answer =>
    cases answer with
    | error reason => cases h
    | ok response' =>
      cases h
      exact ⟨agent, request, rfl⟩
  | _ => cases h

namespace Client.Call

/-- **What a call makes of a refusal.** Let the request of a call be answered without success. The
call fails with the status of the answer and a message. That depends on the first octets of the body
only, as far as it arrives, and no more frames are read than it takes to have them. A document that
is an object with text for `code` and `detailedMessage` gives these, whatever else it holds under
names that are text, and a text that is no document is the message itself, without the white space
around it. -/
theorem refusal_told (env : Environment ω) (c : Client) {call : Call} {op : Operation}
    (hop : call.operation? c = some op) (w : ω) {agent : String} {request : Http.Request}
    {response : Http.Response}
    (hsent : .sent agent request (.ok response) ∈ (call.make env.logged c (w, [])).1.world.2)
    (hrefused : response.isSuccess = false) :
    let data := Http.dataOf response.frames
    let text := String.ofList (Utf8.decodeLossy (data.take Http.refusalLimit))
    let message := Diagnostic.ofRefusal text
    (call.make env.logged c (w, [])).1.result =
      .error (.http (c.choose env w).1.label response.status message) ∧
    (∃ read, response.frames = read ++ (Http.collect Http.refusalLimit [] response.frames).2 ∧
      ∀ pre frame post, response.frames = pre ++ frame :: post →
        (pre.length < read.length ↔
          pre.all (!·.isBreak) ∧ Http.dataSize pre < Http.refusalLimit)) ∧
    (∀ s, data = Utf8.ofString s → data.length ≤ Http.refusalLimit → text = s) ∧
    (∀ members, Json.IsDocument text (.object members) → (∀ m ∈ members, m.1.isSome = true) →
      (∀ code detail, Json.Tells members "code" (some code) →
        Json.Tells members "detailedMessage" (some detail) → message = code ++ ": " ++ detail) ∧
      (∀ code, Json.Tells members "code" (some code) → Json.Tells members "detailedMessage" none →
        message = code) ∧
      (∀ detail, Json.Tells members "code" none →
        Json.Tells members "detailedMessage" (some detail) → message = detail)) ∧
    ((∀ j, ¬Json.IsDocument text j) → message = Text.trimmed text) := by
  intro data text message
  refine ⟨?_, ?_, ?_, ?_, Diagnostic.ofRefusal_other⟩
  · obtain ⟨notices, hmake⟩ := make_eq_run env.logged c (w, []) hop
    rw [hmake] at hsent ⊢
    have hresult := (c.run_course env op w).eq_error_of_refused hsent hrefused
    rw [Http.refusalText_eq] at hresult
    exact hresult
  · obtain ⟨read, hframes, hread⟩ := Http.collect_drained (64 * 1024 - 1) [] response.frames
    refine ⟨read, hframes, fun pre frame post h => (hread pre frame post h).trans ?_⟩
    rw [List.length_nil, Nat.zero_add]
    exact and_congr_right fun _ => Nat.lt_succ_iff.symm
  · intro s hs hsize
    have hdata : data.take Http.refusalLimit = Utf8.encode s.toList := by
      rw [List.take_of_length_le hsize, hs]
      rfl
    simp only [text, hdata, Utf8.decodeLossy_encode, String.ofList_toList]
  · intro members hdocument hnames
    exact ⟨fun _ _ hcode hdetail => Diagnostic.ofRefusal_object hdocument hnames hcode hdetail,
      fun _ hcode hdetail => Diagnostic.ofRefusal_object hdocument hnames hcode hdetail,
      fun _ hcode hdetail => Diagnostic.ofRefusal_object hdocument hnames hcode hdetail⟩

def refusedCall (frames : List Http.Frame) : Step Summary (Rehearsal.World × Log) :=
  (subjects.make (Rehearsal.stage ⟨.log, true, none⟩ ⟨none⟩).logged loopbackClient
    (.start [.answer ⟨500, [], frames⟩], [])).1

def explanation : Json :=
  .object [(some "code", .str "Limit"), (some "detailedMessage", .str "too much")]

/-- An explanation that arrives in two pieces, before the connection breaks. -/
def pieces : List Http.Frame :=
  [.data (Utf8.ofString "\x7b\"code\":\"Limit\",\"detailed"),
    .data (Utf8.ofString "Message\":\"too much\"\x7d"), .broken .brokenPipe]

/-- An explanation in two pieces is quoted. -/
theorem refusal_told_in_two_pieces :
    (refusedCall pieces).result = .error (.http "[::1]:8182" 500 "Limit: too much") := by
  have hanswer : ((refusedCall pieces).world.2.findSome? Action.response?).map
      (fun r => (r.status, r.frames)) = some (500, pieces) := by decide +kernel
  obtain ⟨response, hfound, hpair⟩ := Option.map_eq_some_iff.1 hanswer
  obtain ⟨hstatus, hframes⟩ := Prod.mk.inj hpair
  obtain ⟨action, hmem, hsome⟩ := List.exists_of_findSome?_eq_some hfound
  obtain ⟨agent, request, rfl⟩ := Action.eq_sent_of_response? hsome
  have hrefused : response.isSuccess = false := by
    rw [Http.Response.isSuccess, hstatus]
    rfl
  obtain ⟨hresult, -, hwhole, hquoted, -⟩ :=
    refusal_told (Rehearsal.stage ⟨.log, true, none⟩ ⟨none⟩) loopbackClient
      (show subjects.operation? loopbackClient = some _ from rfl)
      (.start [.answer ⟨500, [], pieces⟩]) hmem hrefused
  have hbody : Http.dataOf response.frames = Utf8.ofString explanation.render := by
    rw [hframes]
    decide +kernel
  have hsize : (Http.dataOf response.frames).length ≤ Http.refusalLimit := by
    rw [hframes]
    decide +kernel
  have hdocument : Json.IsDocument explanation.render explanation :=
    Json.ofString?_iff.1 (Json.ofString?_render (.object (by simp) (by simp [Json.IsPlain.str])))
  have hcode : Json.Tells [(some "code", .str "Limit"), (some "detailedMessage", .str "too much")]
      "code" (some "Limit") :=
    @Json.Tells.text _ _ [] [(some "detailedMessage", .str "too much")] _ rfl (by simp)
  have hdetail : Json.Tells [(some "code", .str "Limit"), (some "detailedMessage", .str "too much")]
      "detailedMessage" (some "too much") :=
    @Json.Tells.text _ _ [(some "code", .str "Limit")] [] _ rfl (by simp)
  have hmessage := (hquoted _ (by rw [hwhole _ hbody hsize]; exact hdocument) (by simp)).1
    "Limit" "too much" hcode hdetail
  rw [hmessage, hstatus] at hresult
  exact hresult

/-- An object with a name that has half a character only. -/
def halfNamed : String := "\x7b\"\\ud800\":0,\"code\":\"a\",\"detailedMessage\":\"b\"\x7d"

theorem isDocument_halfNamed :
    Json.IsDocument halfNamed (.object
      [(none, .number ['0']), (some "code", .str "a"), (some "detailedMessage", .str "b")]) := by
  have hkey : Json.SpellsText ['\\', 'u', 'd', '8', '0', '0'] none :=
    Json.spellsText_iff.2 ⟨[0xD800],
      @Json.Spells.unit _ ['d', '8', '0', '0'] _ _ rfl (by decide) .nil, by decide⟩
  have hzero : Json.IsNumber ['0'] := .unsigned (.parts .zero .none .none)
  have hhalf := Json.Denotes.member Json.IsBlank.nil hkey Json.IsBlank.nil
    (Json.Denotes.number hzero).bare
  have hcode := Json.denotes_writeMember "code" (Json.IsPlain.str "a").denotes
  have hdetail := Json.denotes_writeMember "detailedMessage" (Json.IsPlain.str "b").denotes
  exact (Json.Denotes.object (.nextMember hhalf (.nextMember hcode (.lastMember hdetail)))).bare

/-- An object that has text for both names is not quoted if another of its names is no text. -/
theorem refusal_untold_for_half_name :
    ∃ members, Json.IsDocument halfNamed (.object members) ∧
      Json.Tells members "code" (some "a") ∧ Json.Tells members "detailedMessage" (some "b") ∧
      (Utf8.ofString halfNamed).length ≤ Http.refusalLimit ∧
      (refusedCall [.data (Utf8.ofString halfNamed)]).result =
        .error (.http "[::1]:8182" 500 halfNamed) ∧
      halfNamed ≠ "a: b" := by
  refine ⟨_, isDocument_halfNamed, ?_, ?_, by decide, by decide +kernel, by decide⟩
  · exact @Json.Tells.text _ _ [(none, .number ['0'])] [(some "detailedMessage", .str "b")] _ rfl
      (by simp)
  · exact @Json.Tells.text _ _ [(none, .number ['0']), (some "code", .str "a")] [] _ rfl (by simp)

end Client.Call
end RdfExport
