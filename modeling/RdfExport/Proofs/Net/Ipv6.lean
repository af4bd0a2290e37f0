import RdfExport.Net.Ipv6
import RdfExport.Proofs.Text.Hex
import RdfExport.Proofs.Text.Pieces

/-!
# RdfExport.Proofs.Net.Ipv6

The characters of IPv6 addresses: a text that spells one holds hexadecimal digits, colons and dots,
and nothing else.

* `isAddressChar`: the characters of addresses.
* `parse?_chars`: no others stand in one.
-/

namespace RdfExport

theorem exists_of_mapM {α β : Type} {f : α → Option β} {xs : List α} {ys : List β}
    (h : xs.mapM f = some ys) : ∀ x ∈ xs, ∃ y ∈ ys, f x = some y := by
  induction xs generalizing ys with
  | nil => simp
  | cons x xs ih =>
    simp only [List.mapM_cons, Option.bind_eq_bind, Option.bind_eq_some_iff] at h
    obtain ⟨y, hy, ys', hys, h⟩ := h
    cases h
    intro z hz
    rcases List.mem_cons.1 hz with rfl | hz
    · exact ⟨y, List.mem_cons_self, hy⟩
    · obtain ⟨y', hy', hz⟩ := ih hys z hz
      exact ⟨y', List.mem_cons_of_mem _ hy', hz⟩

namespace Net

def isAddressChar (c : Char) : Bool := Hex.isDigit c || c.isDigit || c = ':' || c = '.'

theorem decimalOctet?_digits {cs : List Char} (h : (decimalOctet? cs).isSome = true) :
    ∀ c ∈ cs, c.isDigit = true := by
  simp only [decimalOctet?] at h
  split at h
  · cases h
  · rename_i hform
    simp only [Bool.or_eq_true, not_or, Bool.not_eq_true, Bool.not_eq_false',
      List.all_eq_true] at hform
    exact hform.1.2

namespace Ipv6

theorem group?_chars {cs : List Char} {g : Nat} (h : group? cs = some g) :
    ∀ c ∈ cs, isAddressChar c = true := by
  simp only [group?] at h
  split at h
  · cases h
  · obtain ⟨r, hr, -⟩ := Option.map_eq_some_iff.1 h
    have hdigits := Hex.read_digits hr
    rw [List.take_length] at hdigits
    intro c hc
    simp [isAddressChar, hdigits c hc]

theorem dotted?_chars {cs : List Char} {gs : List Nat} (h : dotted? cs = some gs) :
    ∀ c ∈ cs, isAddressChar c = true := by
  simp only [dotted?] at h
  cases hm : (cs.splitOn '.').mapM decimalOctet? with
  | none => simp [hm] at h
  | some octets =>
    intro c hc
    rcases mem_splitOn '.' hc with rfl | ⟨piece, hpiece, hc⟩
    · decide
    · obtain ⟨octet, -, hpiece⟩ := exists_of_mapM hm piece hpiece
      simp [isAddressChar, decimalOctet?_digits (Option.isSome_of_eq_some hpiece) c hc]

theorem groups?_chars {dotted : Bool} {fields : List (List Char)} {gs : List Nat}
    (h : groups? dotted fields = some gs) :
    ∀ field ∈ fields, ∀ c ∈ field, isAddressChar c = true := by
  fun_induction groups? dotted fields generalizing gs with
  | case1 => simp
  | case2 last g hg =>
    intro field hfield
    rw [List.mem_singleton.1 hfield]
    exact group?_chars hg
  | case3 last hg hdotted =>
    intro field hfield
    rw [List.mem_singleton.1 hfield]
    exact dotted?_chars h
  | case4 => cases h
  | case5 f fs hfs g gs' hgs hg ih =>
    intro field hfield
    rcases List.mem_cons.1 hfield with rfl | hfield
    · exact group?_chars hg
    · exact ih hgs field hfield
  | case6 => cases h

theorem groups?_splitOn_chars {dotted : Bool} {cs : List Char} {gs : List Nat}
    (h : groups? dotted (cs.splitOn ':') = some gs) : ∀ c ∈ cs, isAddressChar c = true := by
  intro c hc
  rcases mem_splitOn ':' hc with rfl | ⟨piece, hpiece, hc⟩
  · decide
  · exact groups?_chars h piece hpiece c hc

theorem side?_chars {dotted : Bool} {cs : List Char} {gs : List Nat}
    (h : side? dotted cs = some gs) : ∀ c ∈ cs, isAddressChar c = true := by
  simp only [side?] at h
  split at h
  · rename_i hempty
    rw [List.isEmpty_iff.1 hempty]
    simp
  · exact groups?_splitOn_chars h

theorem splitGap_eq {cs l r : List Char} (h : splitGap cs = some (l, r)) :
    cs = l ++ ':' :: ':' :: r := by
  fun_induction splitGap cs generalizing l r with
  | case1 rest =>
    cases h
    rfl
  | case2 c rest hne ih =>
    obtain ⟨⟨l', r'⟩, hp, heq⟩ := Option.map_eq_some_iff.1 h
    cases heq
    rw [ih hp]
    rfl
  | case3 => cases h

theorem parse?_chars {cs : List Char} (h : (parse? cs).isSome = true) :
    ∀ c ∈ cs, isAddressChar c = true := by
  simp only [parse?] at h
  cases hgap : splitGap cs with
  | none =>
    simp only [hgap] at h
    cases hgroups : groups? true (cs.splitOn ':') with
    | none => simp [hgroups] at h
    | some gs => exact groups?_splitOn_chars hgroups
  | some sides =>
    obtain ⟨l, r⟩ := sides
    simp only [hgap] at h
    cases hl : side? false l with
    | none => simp [hl] at h
    | some gs =>
      cases hr : side? true r with
      | none => simp [hl, hr] at h
      | some hs =>
        intro c hc
        rw [splitGap_eq hgap] at hc
        simp only [List.mem_append, List.mem_cons] at hc
        rcases hc with hc | rfl | rfl | hc
        · exact side?_chars hl c hc
        · decide
        · decide
        · exact side?_chars hr c hc

end Ipv6
end Net
end RdfExport
