import RdfExport.Json.Value

/-!
# RdfExport.Proofs.Json.Members

What an object says of a name, which does not depend on the order of its members or on members of
other names.

* `lone?_perm`, `lone?_insert_other`: changes to the members that do not matter.
* `Tells`: an object has text for a name, or nothing.
-/

namespace RdfExport
namespace Json

section

variable {α : Type} {missing : Option α} {read : Json → Option α} {name : String}
  {before after members members' : List (Option String × Json)}

theorem lone?_perm (h : members.Perm members') :
    lone? members name missing read = lone? members' name missing read := by
  have hfilter := h.filter (·.1 == some name)
  unfold lone?
  split
  · rename_i heq
    rw [heq] at hfilter
    rw [List.perm_nil.1 hfilter.symm]
  · rename_i m heq
    rw [heq] at hfilter
    rw [List.perm_singleton.1 hfilter.symm]
  · rename_i hnil hone
    split
    · rename_i heq
      rw [heq] at hfilter
      exact absurd (List.perm_nil.1 hfilter) hnil
    · rename_i m heq
      rw [heq] at hfilter
      exact absurd (List.perm_singleton.1 hfilter) (hone m)
    · rfl

theorem lone?_insert_other {m : Option String × Json} (h : m.1 ≠ some name) :
    lone? (before ++ m :: after) name missing read =
      lone? (before ++ after) name missing read := by
  have hm : (m.1 == some name) = false := beq_eq_false_iff_ne.2 h
  simp only [lone?, List.filter_append, List.filter_cons, hm, Bool.false_eq_true, if_false]

theorem filter_name_eq_nil (h : ∀ m ∈ members, m.1 ≠ some name) :
    members.filter (·.1 == some name) = [] := by
  rw [List.filter_eq_nil_iff]
  intro m hm
  simp [h m hm]

theorem lone?_of_no_member (h : ∀ m ∈ members, m.1 ≠ some name) :
    lone? members name missing read = missing := by
  rw [lone?, filter_name_eq_nil h]

theorem lone?_of_only_member {v : Json} (h : ∀ m ∈ before ++ after, m.1 ≠ some name) :
    lone? (before ++ (some name, v) :: after) name missing read = read v := by
  have hbefore := filter_name_eq_nil fun m hm => h m (List.mem_append_left _ hm)
  have hafter := filter_name_eq_nil fun m hm => h m (List.mem_append_right _ hm)
  simp [lone?, hbefore, hafter]

end

/-- What an object tells of a name: the text of its only member of that name, or nothing, if that
member is `null` or there is none. -/
inductive Tells (members : List (Option String × Json)) (name : String) : Option String → Prop
  | text {before after : List (Option String × Json)} {t : String}
      (h : members = before ++ (some name, .str t) :: after)
      (honly : ∀ m ∈ before ++ after, m.1 ≠ some name) : Tells members name (some t)
  | null {before after : List (Option String × Json)}
      (h : members = before ++ (some name, .null) :: after)
      (honly : ∀ m ∈ before ++ after, m.1 ≠ some name) : Tells members name none
  | absent (h : ∀ m ∈ members, m.1 ≠ some name) : Tells members name none

theorem Tells.lone? {members : List (Option String × Json)} {name : String} {t : Option String}
    (h : Tells members name t) : lone? members name (some none) optionalText? = some t := by
  cases h with
  | text h honly =>
    rw [h, lone?_of_only_member honly]
    rfl
  | null h honly =>
    rw [h, lone?_of_only_member honly]
    rfl
  | absent h => exact lone?_of_no_member h

end Json
end RdfExport
