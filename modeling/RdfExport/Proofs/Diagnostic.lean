import Mathlib.Logic.Relation
import RdfExport.Diagnostic
import RdfExport.Proofs.Text.Trimmed
import RdfExport.Proofs.Text.Utf8

/-!
# RdfExport.Proofs.Diagnostic

What trailers tell of a failure. Only the first value of the status and of the detail count, and of
these neither white space around them nor the case of their names.

* `Says`: the text of the first value of a name. `said`: the same as a function.
* `Restated`: trailers with more fields, with names in another case, or with more white space.
* `ofTrailers?_eq`: the diagnostic of a status and a detail.
* `told_by_first_values`: what is told, and what it does not depend on.
-/

namespace RdfExport

namespace Http

theorem field?_append (before after : Fields) (name : String) :
    field? (before ++ after) name = (field? before name).or (field? after name) := by
  rw [field?, List.find?_append, Option.map_or, field?, field?]

theorem field?_cons_of_eq {key name : String} (h : lowercase key = lowercase name) (value : Bytes)
    (rest : Fields) : field? ((key, value) :: rest) name = some value := by
  rw [field?, List.find?_cons_of_pos (by simpa using h), Option.map_some]

theorem field?_cons_of_ne {p : String × Bytes} {name : String}
    (h : lowercase p.1 ≠ lowercase name) (rest : Fields) :
    field? (p :: rest) name = field? rest name := by
  rw [field?, List.find?_cons_of_neg (by simpa using h), field?]

theorem field?_eq_none {fields : Fields} {name : String} :
    field? fields name = none ↔ ∀ p ∈ fields, lowercase p.1 ≠ lowercase name := by
  simp [field?]

theorem field?_eq_some {fields : Fields} {name : String} {value : Bytes} :
    field? fields name = some value ↔ ∃ before key after,
      fields = before ++ (key, value) :: after ∧ lowercase key = lowercase name ∧
        ∀ p ∈ before, lowercase p.1 ≠ lowercase name := by
  constructor
  · intro h
    obtain ⟨⟨key, value'⟩, hfind, hvalue⟩ := Option.map_eq_some_iff.1 h
    obtain ⟨hkey, before, after, hfields, hbefore⟩ := List.find?_eq_some_iff_append.1 hfind
    cases hvalue
    refine ⟨before, key, after, hfields, by simpa using hkey, fun p hp => ?_⟩
    simpa using hbefore p hp
  · rintro ⟨before, key, after, rfl, hkey, hbefore⟩
    rw [field?_append, field?_eq_none.2 hbefore, Option.none_or, field?_cons_of_eq hkey]

end Http

namespace Diagnostic

open Http

/-- The text of a value: read leniently, without the white space around it. -/
def cleaned (value : Bytes) : String := Text.trimmed (String.ofList (Utf8.decodeLossy value))

/-- The text of the first value of a name, in any case of letters. Without such a field it is
empty. -/
inductive Says (fields : Fields) (name : String) : String → Prop where
  | first {before after : Fields} {key : String} {value : Bytes}
      (hfields : fields = before ++ (key, value) :: after)
      (hkey : lowercase key = lowercase name)
      (hbefore : ∀ p ∈ before, lowercase p.1 ≠ lowercase name) : Says fields name (cleaned value)
  | nothing (habsent : ∀ p ∈ fields, lowercase p.1 ≠ lowercase name) : Says fields name ""

def ReportsSuccess (status : String) : Prop :=
  status = "200" ∨ status ∈ ["ok", "Ok", "oK", "OK"]

/-- One change of trailers that does not touch what they say: a field of another name anywhere, a
later field of a name that is there, a name in other letters, or white space around a value. -/
inductive Restated : Fields → Fields → Prop where
  | other (before after : Fields) (p : String × Bytes)
      (hstatus : lowercase p.1 ≠ lowercase statusTrailer)
      (hdetail : lowercase p.1 ≠ lowercase detailTrailer) :
      Restated (before ++ after) (before ++ p :: after)
  | repeated (before between after : Fields) {key again : String} (value value' : Bytes)
      (hkey : lowercase again = lowercase key) :
      Restated (before ++ (key, value) :: (between ++ after))
        (before ++ (key, value) :: (between ++ (again, value') :: after))
  | recased (before after : Fields) {key key' : String} (value : Bytes)
      (hkey : lowercase key' = lowercase key) :
      Restated (before ++ (key, value) :: after) (before ++ (key', value) :: after)
  | spaced (before after : Fields) (key : String) (value : Bytes) {left right : List Char}
      (hleft : ∀ c ∈ left, Text.isBlank c = true) (hright : ∀ c ∈ right, Text.isBlank c = true) :
      Restated (before ++ (key, value) :: after)
        (before ++ (key, Utf8.encode left ++ value ++ Utf8.encode right) :: after)

/-! ## What a field says -/

/-- White space around a value does not show, whether or not the value is UTF-8. -/
theorem cleaned_spaced {left right : List Char} (hleft : ∀ c ∈ left, Text.isBlank c = true)
    (hright : ∀ c ∈ right, Text.isBlank c = true) (value : Bytes) :
    cleaned (Utf8.encode left ++ value ++ Utf8.encode right) = cleaned value := by
  rw [cleaned, Utf8.decodeLossy_append_encode, Utf8.decodeLossy_encode_append, Text.trimmed,
    String.toList_ofList, Text.trim_surrounded hleft _ hright, cleaned, Text.trimmed,
    String.toList_ofList]

example : cleaned [0x20, 0xE2, 0x82, 0x20] = "\uFFFD" := by cbv

def said (fields : Fields) (name : String) : String :=
  ((field? fields name).map cleaned).getD ""

theorem says_iff {fields : Fields} {name text : String} :
    Says fields name text ↔ text = said fields name := by
  constructor
  · rintro (⟨hfields, hkey, hbefore⟩ | habsent)
    · rw [said, field?_eq_some.2 ⟨_, _, _, hfields, hkey, hbefore⟩]
      rfl
    · rw [said, field?_eq_none.2 habsent]
      rfl
  · rintro rfl
    cases hfield : field? fields name with
    | none =>
      rw [said, hfield]
      exact .nothing (field?_eq_none.1 hfield)
    | some value =>
      obtain ⟨before, key, after, hfields, hkey, hbefore⟩ := field?_eq_some.1 hfield
      rw [said, hfield]
      exact .first hfields hkey hbefore

theorem said_isTight (fields : Fields) (name : String) : Text.IsTight (said fields name) := by
  rw [said]
  cases field? fields name with
  | none => exact ⟨by simp, by simp⟩
  | some value => exact Text.isTight_trimmed _

theorem read?_eq (fields : Fields) (name : String) :
    read? fields name = if said fields name = "" then none else some (said fields name) := by
  rw [read?, said]
  cases field? fields name with
  | none => rfl
  | some value =>
    rw [Option.bind_some, Option.map_some, Option.getD_some]
    split
    · rename_i hblank
      exact Text.nonBlank?_eq_none.2 hblank
    · rename_i hsaid
      exact Text.nonBlank?_eq_some.2 ⟨rfl, hsaid⟩

theorem said_append_cons (before : Fields) (p : String × Bytes) (after : Fields) (name : String) :
    said (before ++ p :: after) name =
      ((field? before name).map cleaned).getD
        (if lowercase p.1 = lowercase name then cleaned p.2 else said after name) := by
  rw [said, field?_append, Option.map_or, Option.getD_or]
  congr 1
  split
  · rename_i hname
    rw [field?_cons_of_eq hname]
    rfl
  · rename_i hname
    rw [field?_cons_of_ne hname, said]

theorem said_append (before after : Fields) (name : String) :
    said (before ++ after) name = ((field? before name).map cleaned).getD (said after name) := by
  rw [said, field?_append, Option.map_or, Option.getD_or, said]

theorem Restated.said_eq {fields others : Fields} (h : Restated fields others) {name : String}
    (hname : name = statusTrailer ∨ name = detailTrailer) :
    said others name = said fields name := by
  cases h with
  | other before after p hstatus hdetail =>
    -- Only here does it matter which name is asked for.
    have hne : lowercase p.1 ≠ lowercase name := by
      rcases hname with rfl | rfl
      · exact hstatus
      · exact hdetail
    rw [said_append_cons, if_neg hne, said_append]
  | repeated before between after value value' hkey =>
    rw [said_append_cons, said_append_cons, said_append_cons, hkey]
    split
    · rfl
    · rw [said_append]
  | recased before after value hkey => rw [said_append_cons, said_append_cons, hkey]
  | spaced before after key value hleft hright =>
    rw [said_append_cons, said_append_cons, cleaned_spaced hleft hright]

/-! ## What trailers tell -/

theorem toLower_eq_iff {c : Char} (low up : Char) (hlow : 0x61 ≤ low.toNat ∧ low.toNat ≤ 0x7A)
    (hup : up.toNat + 0x20 = low.toNat) : c.toLower = low ↔ c = low ∨ c = up := by
  rw [← Char.toNat_inj, ← Char.toNat_inj, ← Char.toNat_inj]
  by_cases h : c.val ≥ 'A'.val ∧ c.val ≤ 'Z'.val
  · have hA : 0x41 ≤ c.toNat := UInt32.le_iff_toNat_le.1 h.1
    have hZ : c.toNat ≤ 0x5A := UInt32.le_iff_toNat_le.1 h.2
    have hstep : ('a'.val - 'A'.val).toNat = 0x20 := by decide
    have hlower : c.toLower.toNat = (c.toNat + 0x20) % 2 ^ 32 := by
      rw [← hstep]
      exact (congrArg Char.toNat (dif_pos h)).trans (UInt32.toNat_add _ _)
    omega
  · have hlower : c.toLower = c := dif_neg h
    have hnot : ¬(0x41 ≤ c.toNat ∧ c.toNat ≤ 0x5A) := fun hupper =>
      h ⟨UInt32.le_iff_toNat_le.2 hupper.1, UInt32.le_iff_toNat_le.2 hupper.2⟩
    rw [hlower]
    omega

theorem isSuccess_iff {status : String} : isSuccess status = true ↔ ReportsSuccess status := by
  have hletters : lowercase status = lowercase "ok" ↔ status ∈ ["ok", "Ok", "oK", "OK"] := by
    have hok : lowercase "ok" = ['o', 'k'] := by decide
    rw [hok, lowercase]
    constructor
    · intro h
      match hstatus : status.toList with
      | [a, b] =>
        rw [hstatus, List.map_cons, List.map_cons, List.map_nil, List.cons.injEq, List.cons.injEq,
          toLower_eq_iff 'o' 'O' (by decide) rfl, toLower_eq_iff 'k' 'K' (by decide) rfl] at h
        rw [← String.ofList_toList (s := status), hstatus]
        rcases h with ⟨rfl | rfl, rfl | rfl, -⟩ <;> decide
      | [] => simp [hstatus] at h
      | [_] => simp [hstatus] at h
      | _ :: _ :: _ :: _ => simp [hstatus] at h
    · intro h
      simp only [List.mem_cons, List.not_mem_nil, or_false] at h
      rcases h with rfl | rfl | rfl | rfl <;> decide
  rw [isSuccess, Bool.or_eq_true, beq_iff_eq, beq_iff_eq, hletters, ReportsSuccess]

/-- What trailers tell, from what the first values say. -/
theorem ofTrailers?_eq (fields : Fields) :
    ofTrailers? fields =
      if said fields detailTrailer = "" then
        if said fields statusTrailer = "" ∨ isSuccess (said fields statusTrailer) = true then none
        else some (said fields statusTrailer)
      else some (said fields statusTrailer ++
        (if said fields statusTrailer = "" then "" else ": ") ++ said fields detailTrailer) := by
  rw [ofTrailers?, read?_eq, read?_eq]
  by_cases hstatus : said fields statusTrailer = "" <;>
    by_cases hdetail : said fields detailTrailer = "" <;> simp [hstatus, hdetail]

theorem ofTrailers?_congr {fields others : Fields}
    (hstatus : said others statusTrailer = said fields statusTrailer)
    (hdetail : said others detailTrailer = said fields detailTrailer) :
    ofTrailers? others = ofTrailers? fields := by
  rw [ofTrailers?_eq, hstatus, hdetail, ofTrailers?_eq]

theorem ofTrailers?_eq_none {fields : Fields} :
    ofTrailers? fields = none ↔
      said fields statusTrailer = "" ∧ said fields detailTrailer = "" ∨
        said fields detailTrailer = "" ∧ ReportsSuccess (said fields statusTrailer) := by
  rw [ofTrailers?_eq, ← isSuccess_iff]
  split
  · rename_i hdetail
    simp [hdetail, or_iff_not_imp_left]
  · rename_i hdetail
    simp [hdetail]

theorem ofTrailers?_eq_some {fields : Fields} {text : String}
    (h : ofTrailers? fields = some text) :
    text ≠ "" ∧ Text.IsTight text ∧
      text = said fields statusTrailer ++
        (if said fields statusTrailer = "" ∨ said fields detailTrailer = "" then "" else ": ") ++
        said fields detailTrailer := by
  have hstatus := said_isTight fields statusTrailer
  have hdetail := said_isTight fields detailTrailer
  rw [ofTrailers?_eq] at h
  generalize said fields statusTrailer = status at *
  generalize said fields detailTrailer = detail at *
  by_cases hnodetail : detail = ""
  · rw [if_pos hnodetail] at h
    split at h
    · cases h
    · rename_i hfailed
      cases h
      exact ⟨fun hblank => hfailed (.inl hblank), hstatus, by simp [hnodetail]⟩
  rw [if_neg hnodetail] at h
  cases h
  by_cases hnostatus : status = ""
  · simpa [hnostatus, hnodetail] using hdetail
  · rw [if_neg hnostatus, if_neg (not_or.2 ⟨hnostatus, hnodetail⟩)]
    exact ⟨by simp [hnodetail], hstatus.join hdetail hnostatus hnodetail _, rfl⟩

theorem said_eq_of_restated {fields others : Fields}
    (h : Relation.ReflTransGen Restated fields others) {name : String}
    (hname : name = statusTrailer ∨ name = detailTrailer) :
    said others name = said fields name := by
  induction h with
  | refl => rfl
  | tail _ hstep ih => rw [hstep.said_eq hname, ih]

/-- **What trailers tell hangs on two values.** These are the first of the status and of the detail,
read leniently and trimmed; other fields, later fields of the same name, the case of names and white
space around values do not count. Nothing is told exactly if both values are blank, or the detail is
and the status is one of success. What is told has no white space at its ends, and holds the status
and after it the detail. -/
theorem told_by_first_values (fields : Fields) :
    ∃ status detail,
      (∀ text, Says fields statusTrailer text ↔ text = status) ∧
      (∀ text, Says fields detailTrailer text ↔ text = detail) ∧
      (∀ others, Says others statusTrailer status → Says others detailTrailer detail →
        ofTrailers? others = ofTrailers? fields) ∧
      (∀ others, Relation.ReflTransGen Restated fields others →
        ofTrailers? others = ofTrailers? fields) ∧
      (ofTrailers? fields = none ↔
        status = "" ∧ detail = "" ∨ detail = "" ∧ ReportsSuccess status) ∧
      ∀ text, ofTrailers? fields = some text →
        text ≠ "" ∧ Text.IsTight text ∧
          text = status ++ (if status = "" ∨ detail = "" then "" else ": ") ++ detail := by
  refine ⟨said fields statusTrailer, said fields detailTrailer, fun _ => says_iff,
    fun _ => says_iff, fun others hstatus hdetail => ?_, fun others hrestated => ?_,
    ofTrailers?_eq_none, fun _ => ofTrailers?_eq_some⟩
  · exact ofTrailers?_congr (says_iff.1 hstatus).symm (says_iff.1 hdetail).symm
  · exact ofTrailers?_congr (said_eq_of_restated hrestated (.inl rfl))
      (said_eq_of_restated hrestated (.inr rfl))

end Diagnostic
end RdfExport
