import Mathlib.Data.List.Nodup
import RdfExport.Config.Document
import RdfExport.Proofs.Json.Members
import RdfExport.Proofs.Json.Written

/-!
# RdfExport.Proofs.Settings

Settings as text. They come back from the text that is written for them, and what is read from an
object depends on what its members say and on nothing else.

* `Setting`, `settings`: the settings one by one, each with its default and its reader.
* `ofJson?_object_congr`: objects that say the same of each setting hold the same settings.
* `Rearranged`: the changes to the members of an object that do not matter.
* `texts_hold_settings`: the round trip and the changes, for every text.
* `texts_do_not_always_hold_settings`: changes that do matter.
-/

namespace RdfExport

namespace Json

theorem nat?_nat {bound n : Nat} (h : n < bound) : nat? bound (nat n) = some n := by
  have hdigits : (Nat.toDigits 10 n).all Char.isDigit = true :=
    List.all_eq_true.2 (isDigit_of_mem_toDigits n)
  simp only [nat?, nat, hdigits, digits_toDigits, Bool.true_and, decide_eq_true_eq, if_pos h]

theorem mapM_text?_str (texts : List String) : (texts.map str).mapM text? = some texts := by
  induction texts with
  | nil => rfl
  | cons t ts ih =>
    rw [List.map_cons, List.mapM_cons, ih]
    rfl

end Json

namespace Config

/-- A setting: its name in documents, its default if it may be left out, and what a reader makes of
a value for it. -/
structure Setting where
  Value : Type
  key : String
  missing : Option Value
  read : Json → Option Value

def settings : List Setting :=
  let base : Config := { endpoints := [] }
  [⟨_, "endpoints", none, hosts?⟩, ⟨_, "port", some base.port, port?⟩,
    ⟨_, "tls", some base.tls, Json.bool?⟩, ⟨_, "iam_auth", some base.iamAuth, Json.bool?⟩,
    ⟨_, "service_region", some base.serviceRegion, Json.optionalText?⟩,
    ⟨_, "query_path", some base.queryPath, Json.text?⟩,
    ⟨_, "trailer_diagnostics", some base.trailerDiagnostics, Json.bool?⟩,
    ⟨_, "selection", some base.selection, Strategy.ofJson?⟩,
    ⟨_, "connect_timeout", some base.connectTimeout, seconds?⟩,
    ⟨_, "lenient_iri_parsing", some base.lenientIriParsing, Json.bool?⟩,
    ⟨_, "user_agent", some base.userAgent, Json.text?⟩]

theorem settings_keys : settings.map (·.key) = keys := rfl

/-- What the members of an object say of a setting. -/
def Setting.of? (s : Setting) (members : List (Option String × Json)) : Option s.Value :=
  Json.lone? members s.key s.missing s.read

/-- **Objects that say the same of each setting hold the same settings.** -/
theorem ofJson?_object_congr {members members' : List (Option String × Json)}
    (hnames : members.all (·.1.isSome) = members'.all (·.1.isSome))
    (h : ∀ s ∈ settings, s.of? members = s.of? members') :
    ofJson? (.object members) = ofJson? (.object members') := by
  simp only [settings, List.forall_mem_cons, Setting.of?] at h
  obtain ⟨h1, h2, h3, h4, h5, h6, h7, h8, h9, h10, h11, -⟩ := h
  have hdocument : isDocument (.object members) = isDocument (.object members') := by
    simp only [isDocument, Json.isRecord, hnames]
    rfl
  simp only [ofJson?, setting?, Json.entry?, hdocument, h1, h2, h3, h4, h5, h6, h7, h8, h9, h10,
    h11]

/-! ## Changes that do not matter -/

/-- Changes to the members of an object that do not matter for settings: another order, a member
whose name is not that of a setting, and a setting that has its default, if it is not set twice. -/
inductive Rearranged (members : List (Option String × Json)) :
    List (Option String × Json) → Prop
  | permuted {members' : List (Option String × Json)} (h : members.Perm members') :
    Rearranged members members'
  | added {before after : List (Option String × Json)} {name : String} {v : Json}
    (hsplit : members = before ++ after) (hname : name ∉ keys) :
    Rearranged members (before ++ (some name, v) :: after)
  | removed {before after : List (Option String × Json)} {s : Setting} {v : Json}
    (hsplit : members = before ++ (some s.key, v) :: after) (hs : s ∈ settings)
    (hdefault : s.missing.isSome = true) (hvalue : s.read v = s.missing)
    (honly : ∀ m ∈ before ++ after, m.1 ≠ some s.key) : Rearranged members (before ++ after)

theorem all_isSome_insert {before after : List (Option String × Json)} {name : String} {v : Json} :
    (before ++ (some name, v) :: after).all (·.1.isSome) =
      (before ++ after).all (·.1.isSome) := by
  simp only [List.all_append, List.all_cons, Option.isSome_some, Bool.true_and]

theorem Setting.key_mem {s : Setting} (hs : s ∈ settings) : s.key ∈ keys := by
  rw [← settings_keys]
  exact List.mem_map_of_mem hs

theorem Setting.eq_of_key {s t : Setting} (hs : s ∈ settings) (ht : t ∈ settings)
    (h : s.key = t.key) : s = t := by
  have hnodup : (settings.map (·.key)).Nodup := by
    rw [settings_keys]
    decide
  exact List.inj_on_of_nodup_map hnodup hs ht h

theorem Rearranged.ofJson?_eq {members members' : List (Option String × Json)}
    (h : Rearranged members members') : ofJson? (.object members) = ofJson? (.object members') := by
  cases h with
  | permuted h =>
    refine ofJson?_object_congr ?_ fun s _ => Json.lone?_perm h
    exact h.all_eq
  | added hsplit hname =>
    subst hsplit
    refine ofJson?_object_congr all_isSome_insert.symm fun s hs => ?_
    refine (Json.lone?_insert_other fun heq => hname ?_).symm
    rw [Option.some.inj heq]
    exact Setting.key_mem hs
  | @removed before after s v hsplit hs _ hvalue honly =>
    subst hsplit
    refine ofJson?_object_congr all_isSome_insert fun t ht => ?_
    by_cases hkey : s.key = t.key
    · obtain rfl := Setting.eq_of_key hs ht hkey
      rw [Setting.of?, Json.lone?_of_only_member honly, hvalue, Setting.of?,
        Json.lone?_of_no_member honly]
    · exact Json.lone?_insert_other fun heq => hkey (Option.some.inj heq)

/-! ## The round trip -/

theorem toJson_isPlain (c : Config) : c.toJson.IsPlain := by
  refine .object ?_ ?_
  · simp [keys, values]
  · simp only [keys, values, List.map_cons, List.map_nil, List.zip_cons_cons, List.zip_nil_left,
      List.forall_mem_cons]
    refine ⟨.array ?_, .nat _, .bool _, .bool _, ?_, .str _, .bool _, .str _, .nat _, .bool _,
      .str _, fun _ h => by cases h⟩
    · intro v hv
      obtain ⟨host, -, rfl⟩ := List.mem_map.1 hv
      exact .str host
    · cases c.serviceRegion with
      | none => exact .null
      | some r => exact .str r

theorem port?_nat (n : UInt16) : port? (.nat n.toNat) = some n := by
  rw [port?, Json.nat?_nat n.toNat_lt, Option.map_some, UInt16.ofNat_toNat]

theorem seconds?_nat (n : UInt64) : seconds? (.nat n.toNat) = some n := by
  rw [seconds?, Json.nat?_nat n.toNat_lt, Option.map_some, UInt64.ofNat_toNat]

theorem hosts?_map_str (hosts : List String) : hosts? (.array (hosts.map .str)) = some hosts :=
  Json.mapM_text?_str hosts

theorem optionalText?_region (region : Option String) :
    Json.optionalText? ((region.map .str).getD .null) = some region := by
  cases region <;> rfl

theorem Strategy.ofJson?_toJson (s : Strategy) : Strategy.ofJson? s.toJson = some s := by
  cases s <;> decide

theorem ofJson?_toJson (c : Config) : ofJson? c.toJson = some c := by
  have hdocument : isDocument c.toJson = true := rfl
  rw [ofJson?, if_pos hdocument]
  simp only [setting?, toJson, keys, values, List.map_cons, List.map_nil, List.zip_cons_cons,
    List.zip_nil_left, Json.entry?, Json.lone?]
  simp [hosts?_map_str, port?_nat, seconds?_nat, optionalText?_region, Strategy.ofJson?_toJson,
    Json.str, Json.text?, Json.bool?]

theorem ofString?_render (c : Config) : ofString? c.render = some c := by
  rw [ofString?, render, Json.ofString?_render (toJson_isPlain c), Option.bind_some,
    ofJson?_toJson]

/-- **Settings come back from their text, whatever text they were read from. What a text holds does
not depend on the order of its members, on members whose names are not those of settings, or on
settings that have their default, if they are not set twice.** -/
theorem texts_hold_settings :
    (∀ c : Config, ofString? c.render = some c) ∧
      (∀ (text : String) (c : Config), ofString? text = some c → ofString? c.render = some c) ∧
      ∀ (text text' : String) (members members' : List (Option String × Json)),
        Json.ofString? text = some (.object members) →
        Json.ofString? text' = some (.object members') →
        Rearranged members members' → ofString? text = ofString? text' := by
  refine ⟨ofString?_render, fun _ c _ => ofString?_render c, ?_⟩
  intro text text' members members' htext htext' hchange
  rw [ofString?, ofString?, htext, htext', Option.bind_some, Option.bind_some,
    hchange.ofJson?_eq]

/-- The port in a text with one host, which has its default there. -/
theorem texts_hold_settings_of_one_host :
    ofString? "\x7b\"endpoints\":[\"a\"],\"port\":8182\x7d" = some { endpoints := ["a"] } ∧
      ofString? (render { endpoints := ["a"] }) = some { endpoints := ["a"] } ∧
      ofString? "\x7b\"endpoints\":[\"a\"],\"port\":8182\x7d" =
        ofString? "\x7b\"endpoints\":[\"a\"]\x7d" := by
  have htext : ofString? "\x7b\"endpoints\":[\"a\"],\"port\":8182\x7d" =
      some { endpoints := ["a"] } := by
    decide +kernel
  refine ⟨htext, texts_hold_settings.2.1 _ _ htext, ?_⟩
  have hhosts : (Json.array [.str "a"]).IsPlain := .array (by simp [Json.IsPlain.str])
  have hboth : Json.ofString? "\x7b\"endpoints\":[\"a\"],\"port\":8182\x7d" =
      some (.object [(some "endpoints", .array [.str "a"]), (some "port", .nat 8182)]) := by
    rw [← Json.ofString?_render (.object (by simp) (by simp [hhosts, Json.IsPlain.nat]))]
    congr 1
  have hone : Json.ofString? "\x7b\"endpoints\":[\"a\"]\x7d" =
      some (.object [(some "endpoints", .array [.str "a"])]) := by
    rw [← Json.ofString?_render (.object (by simp) (by simp [hhosts]))]
    congr 1
  refine texts_hold_settings.2.2 _ _ _ _ hboth hone ?_
  have hport : (⟨UInt16, "port", some 8182, port?⟩ : Setting) ∈ settings := by simp [settings]
  exact @Rearranged.removed _ [(some "endpoints", .array [.str "a"])] [] _ (.nat 8182) rfl hport rfl
    (port?_nat 8182) (by simp)

/-- A default that is set twice is refused, and so is a name that has half a character. -/
theorem texts_do_not_always_hold_settings :
    port? (.nat 8182) = some ({ endpoints := [] } : Config).port ∧
      ofString? "\x7b\"endpoints\":[\"a\"],\"port\":8182,\"port\":8182\x7d" = none ∧
      ofString? "\x7b\"endpoints\":[\"a\"],\"port\":8182\x7d" = some { endpoints := ["a"] } ∧
      ofString? "\x7b\"endpoints\":[\"a\"],\"\\ud800\":0\x7d" = none ∧
      ofString? "\x7b\"endpoints\":[\"a\"]\x7d" = some { endpoints := ["a"] } := by
  decide +kernel

end Config
end RdfExport
