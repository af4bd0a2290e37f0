import RdfExport.Proofs.Net.Ipv6
import RdfExport.Rdf.Iri

/-!
# RdfExport.Proofs.Rdf.Iri

The characters of absolute IRIs. None of them is white space, a control character, a quote, a
backslash, or a bracket other than the square ones, so that an absolute IRI can be written between
angle brackets as it is.

* `isIriChar`: the characters that may stand somewhere in an absolute IRI.
* `isAbsoluteIri_chars`: no others do.
-/

namespace RdfExport

namespace Rdf

/-- Characters that may stand somewhere in an absolute IRI. -/
def isIriChar (c : Char) : Bool := isQueryChar c || c = '%' || c = '#' || c = '[' || c = ']'

theorem isIriChar_of_isQueryChar {c : Char} (h : isQueryChar c = true) : isIriChar c = true := by
  simp [isIriChar, h]

theorem isIriChar_of_isPathChar {c : Char} (h : isPathChar c = true) : isIriChar c = true :=
  isIriChar_of_isQueryChar (by simp [isQueryChar, h])

theorem isIriChar_of_isHostChar {c : Char} (h : isHostChar c = true) : isIriChar c = true :=
  isIriChar_of_isPathChar (by simp [isPathChar, h])

theorem isIriChar_of_isAlphanum {c : Char} (h : c.isAlphanum = true) : isIriChar c = true :=
  isIriChar_of_isHostChar (by simp [isHostChar, isIriUnreserved, isAsciiUnreserved, h])

theorem isIriChar_of_isDigit {c : Char} (h : c.isDigit = true) : isIriChar c = true :=
  isIriChar_of_isAlphanum (by simp [Char.isAlphanum, h])

theorem isAlphanum_of_isHexDigit {c : Char} (h : Hex.isDigit c = true) :
    c.isAlphanum = true := by
  simp only [Hex.isDigit, Hex.value?] at h
  refine Bool.or_eq_true_iff.2 ?_
  split at h
  · rename_i hdigit
    exact .inr (Bool.and_eq_true_iff.2 (hdigit.imp decide_eq_true decide_eq_true))
  · refine .inl (Bool.or_eq_true_iff.2 ?_)
    split at h
    · rename_i hlower
      have hz : c ≤ 'z' := UInt32.le_trans hlower.2 (by decide)
      exact .inr (Bool.and_eq_true_iff.2 ⟨decide_eq_true hlower.1, decide_eq_true hz⟩)
    · split at h
      · rename_i hupper
        have hZ : c ≤ 'Z' := UInt32.le_trans hupper.2 (by decide)
        exact .inl (decide_eq_true ⟨hupper.1, hZ⟩)
      · cases h

theorem isIriChar_of_isHexDigit {c : Char} (h : Hex.isDigit c = true) : isIriChar c = true :=
  isIriChar_of_isAlphanum (isAlphanum_of_isHexDigit h)

theorem isEncodedText_chars {allowed : Char → Bool} (hallowed : ∀ c, allowed c → isIriChar c)
    {cs : List Char} (h : isEncodedText allowed cs = true) : ∀ c ∈ cs, isIriChar c = true := by
  fun_induction isEncodedText allowed cs with
  | case1 => simp
  | case2 a b rest ih =>
    simp only [Bool.and_eq_true] at h
    intro c hc
    simp only [List.mem_cons] at hc
    rcases hc with rfl | rfl | rfl | hc
    · rfl
    · exact isIriChar_of_isHexDigit h.1.1
    · exact isIriChar_of_isHexDigit h.1.2
    · exact ih h.2 c hc
  | case3 d rest hd ih =>
    simp only [Bool.and_eq_true] at h
    intro c hc
    rcases List.mem_cons.1 hc with rfl | hc
    · exact hallowed _ h.1.2
    · exact ih h.2 c hc

theorem cutAt_some {stop : Char → Bool} {cs a b : List Char} (h : cutAt stop cs = (a, some b)) :
    ∃ s, stop s = true ∧ cs = a ++ s :: b := by
  have hhead := List.head?_dropWhile_not (!stop ·) cs
  unfold cutAt at h
  cases hd : cs.dropWhile (!stop ·) with
  | nil => simp [hd] at h
  | cons s rest =>
    simp only [hd, Prod.mk.injEq, Option.some.injEq] at h
    obtain ⟨rfl, rfl⟩ := h
    refine ⟨s, by simpa [hd] using hhead, ?_⟩
    rw [← hd, List.takeWhile_append_dropWhile]

theorem cutAt_none {stop : Char → Bool} {cs a : List Char} (h : cutAt stop cs = (a, none)) :
    cs = a := by
  unfold cutAt at h
  cases hd : cs.dropWhile (!stop ·) with
  | nil => simpa [hd] using h
  | cons s rest => simp [hd] at h

theorem cutAt_chars (stop : Char → Bool) {cs : List Char}
    (hstop : ∀ c, stop c = true → isIriChar c = true)
    (hbefore : ∀ c ∈ (cutAt stop cs).1, isIriChar c = true)
    (hafter : ∀ rest, (cutAt stop cs).2 = some rest → ∀ c ∈ rest, isIriChar c = true) :
    ∀ c ∈ cs, isIriChar c = true := by
  intro c hc
  cases h : cutAt stop cs with
  | mk before after =>
    rw [h] at hbefore hafter
    cases after with
    | none =>
      rw [cutAt_none h] at hc
      exact hbefore c hc
    | some rest =>
      obtain ⟨s, hs, rfl⟩ := cutAt_some h
      rcases List.mem_append.1 hc with hc | hc
      · exact hbefore c hc
      · rcases List.mem_cons.1 hc with rfl | hc
        · exact hstop _ hs
        · exact hafter rest rfl c hc

theorem isPathQueryFragment_chars {cs : List Char} (h : isPathQueryFragment cs = true) :
    ∀ c ∈ cs, isIriChar c = true := by
  simp only [isPathQueryFragment, Bool.and_eq_true] at h
  obtain ⟨⟨hpath, hquery⟩, hfragment⟩ := h
  refine cutAt_chars (· = '#') (fun c hc => ?_) ?_ ?_
  · rw [of_decide_eq_true hc]
    decide
  · refine cutAt_chars (· = '?') (fun c hc => ?_) ?_ ?_
    · rw [of_decide_eq_true hc]
      decide
    · exact isEncodedText_chars (fun _ => isIriChar_of_isPathChar) hpath
    · intro rest hrest
      rw [hrest] at hquery
      exact isEncodedText_chars (fun _ => isIriChar_of_isQueryChar) hquery
  · intro rest hrest
    rw [hrest] at hfragment
    refine isEncodedText_chars (fun c hc => ?_) hfragment
    simp only [isFragmentChar, Bool.or_eq_true, decide_eq_true_eq] at hc
    rcases hc with hc | rfl
    · exact isIriChar_of_isPathChar hc
    · decide

/-! ## Hosts -/

theorem isPortPart_chars {cs : List Char} (h : isPortPart cs = true) :
    ∀ c ∈ cs, isIriChar c = true := by
  cases cs with
  | nil => simp
  | cons d rest =>
    simp only [isPortPart, Bool.and_eq_true, decide_eq_true_eq, List.all_eq_true] at h
    intro c hc
    rcases List.mem_cons.1 hc with rfl | hc
    · rw [h.1]
      decide
    · exact isIriChar_of_isDigit (h.2 c hc)

theorem isFutureAddress_chars {cs : List Char} (h : isFutureAddress cs = true) :
    ∀ c ∈ cs, isIriChar c = true := by
  cases cs with
  | nil => simp
  | cons v rest =>
    simp only [isFutureAddress] at h
    cases hcut : cutAt (· = '.') rest with
    | mk version after =>
      cases after with
      | none => simp [hcut] at h
      | some address =>
        simp only [hcut, Bool.and_eq_true, Bool.or_eq_true, decide_eq_true_eq,
          List.all_eq_true] at h
        obtain ⟨⟨⟨⟨hv, -⟩, hversion⟩, -⟩, haddress⟩ := h
        intro c hc
        rcases List.mem_cons.1 hc with rfl | hc
        · rcases hv with rfl | rfl <;> decide
        · refine cutAt_chars (· = '.') (fun c hc => ?_) ?_ ?_ c hc
          · rw [of_decide_eq_true hc]
            decide
          · rw [hcut]
            exact fun c hc => isIriChar_of_isHexDigit (hversion c hc)
          · rw [hcut]
            rintro rest ⟨⟩ c hc
            have hchar := haddress c hc
            rcases hchar with (hchar | hchar) | rfl
            · exact isIriChar_of_isHostChar (by simp [isHostChar, isIriUnreserved, hchar])
            · exact isIriChar_of_isHostChar (by simp [isHostChar, hchar])
            · decide

theorem isIriChar_of_isAddressChar {c : Char} (h : Net.isAddressChar c = true) :
    isIriChar c = true := by
  simp only [Net.isAddressChar, Bool.or_eq_true, decide_eq_true_eq] at h
  rcases h with ((h | h) | rfl) | rfl
  · exact isIriChar_of_isHexDigit h
  · exact isIriChar_of_isDigit h
  · decide
  · decide

theorem isHostPort_chars {cs : List Char} (h : isHostPort cs = true) :
    ∀ c ∈ cs, isIriChar c = true := by
  fun_cases isHostPort cs with
  | case1 rest address port hcut =>
    simp only [isHostPort, hcut, Bool.and_eq_true, Bool.or_eq_true] at h
    intro c hc
    rcases List.mem_cons.1 hc with rfl | hc
    · decide
    · refine cutAt_chars (· = ']') (fun c hc => ?_) ?_ ?_ c hc
      · rw [of_decide_eq_true hc]
        decide
      · rw [hcut]
        rcases h.1 with hfuture | hparse
        · exact isFutureAddress_chars hfuture
        · exact fun c hc => isIriChar_of_isAddressChar (Net.Ipv6.parse?_chars hparse c hc)
      · rw [hcut]
        rintro rest ⟨⟩
        exact isPortPart_chars h.2
  | case2 rest before hcut => simp [isHostPort, hcut] at h
  | case3 =>
    rename_i hne
    rw [isHostPort.eq_2 cs hne, Bool.and_eq_true] at h
    intro c hc
    rw [← @List.takeWhile_append_dropWhile _ (· != ':') cs, List.mem_append] at hc
    rcases hc with hc | hc
    · exact isEncodedText_chars (fun _ => isIriChar_of_isHostChar) h.1 c hc
    · exact isPortPart_chars h.2 c hc

theorem isAuthority_chars {cs : List Char} (h : isAuthority cs = true) :
    ∀ c ∈ cs, isIriChar c = true := by
  simp only [isAuthority] at h
  split at h
  · rename_i host hdrop
    rw [Bool.and_eq_true] at h
    intro c hc
    rw [← @List.takeWhile_append_dropWhile _ (fun c => c != '@' && c != '[') cs, hdrop,
      List.mem_append, List.mem_cons] at hc
    rcases hc with hc | rfl | hc
    · refine isEncodedText_chars (fun c hc => ?_) h.1 c hc
      simp only [Bool.or_eq_true, decide_eq_true_eq] at hc
      rcases hc with hc | rfl
      · exact isIriChar_of_isHostChar hc
      · decide
    · decide
    · exact isHostPort_chars h.2 c hc
  · exact isHostPort_chars h

theorem isHierPart_chars {cs : List Char} (h : isHierPart cs = true) :
    ∀ c ∈ cs, isIriChar c = true := by
  fun_cases isHierPart cs with
  | case1 rest =>
    simp only [isHierPart, Bool.and_eq_true] at h
    intro c hc
    simp only [List.mem_cons] at hc
    rcases hc with rfl | rfl | hc
    · decide
    · decide
    · rw [← @List.takeWhile_append_dropWhile _ (!(fun c => c = '/' || c = '?' || c = '#') ·) rest,
        List.mem_append] at hc
      rcases hc with hc | hc
      · exact isAuthority_chars h.1 c hc
      · exact isPathQueryFragment_chars h.2 c hc
  | case2 =>
    rename_i hne
    rw [isHierPart.eq_2 cs hne] at h
    exact isPathQueryFragment_chars h

/-- **An absolute IRI holds only the characters of IRIs.** -/
theorem isAbsoluteIri_chars {cs : List Char} (h : isAbsoluteIri cs = true) :
    ∀ c ∈ cs, isIriChar c = true := by
  cases cs with
  | nil => cases h
  | cons d rest =>
    simp only [isAbsoluteIri, Bool.and_eq_true] at h
    obtain ⟨hletter, h⟩ := h
    split at h
    · rename_i after hdrop
      intro c hc
      rcases List.mem_cons.1 hc with rfl | hc
      · exact isIriChar_of_isAlphanum (by simp [Char.isAlphanum, hletter])
      · rw [← @List.takeWhile_append_dropWhile _ isSchemeChar rest, hdrop, List.mem_append,
          List.mem_cons] at hc
        rcases hc with hc | rfl | hc
        · have hscheme : isSchemeChar c = true := List.all_eq_true.1 List.all_takeWhile c hc
          simp only [isSchemeChar, Bool.or_eq_true, decide_eq_true_eq] at hscheme
          rcases hscheme with ((hscheme | rfl) | rfl) | rfl
          · exact isIriChar_of_isAlphanum hscheme
          · decide
          · decide
          · decide
        · decide
        · exact isHierPart_chars h c hc
    · cases h

theorem isAbsoluteIri_head {cs : List Char} (h : isAbsoluteIri cs = true) :
    ∃ c rest, cs = c :: rest ∧ c.isAlpha = true := by
  cases cs with
  | nil => cases h
  | cons c rest =>
    simp only [isAbsoluteIri, Bool.and_eq_true] at h
    exact ⟨c, rest, rfl, h.1⟩

end Rdf
end RdfExport
