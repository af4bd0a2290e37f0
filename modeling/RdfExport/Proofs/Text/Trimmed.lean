import Mathlib.Data.List.Basic
import Mathlib.Data.List.TakeWhile
import RdfExport.Proofs.Text.Pieces
import RdfExport.Text.Blank

/-!
# RdfExport.Proofs.Text.Trimmed

Texts without the white space around them.

* `IsTight`: a text that neither starts nor ends with white space.
* `trim_eq_self`, `isTight_trimmed`: trimming keeps such a text and gives one.
* `trim_surrounded`: white space around a text is trimmed with that of the text.
* `nonBlank?_eq_some`, `nonBlank?_eq_none`: whether something is left.
-/

namespace RdfExport
namespace Text

theorem trim_eq_self {cs : List Char} (hfirst : ∀ c ∈ cs.head?, isBlank c = false)
    (hlast : ∀ c ∈ cs.getLast?, isBlank c = false) : trim cs = cs := by
  have hkept (xs : List Char) (h : ∀ c ∈ xs.head?, isBlank c = false) : xs.dropWhile isBlank = xs :=
    List.dropWhile_eq_self_iff.2 fun hl => by
      simp [h xs[0] (by rw [List.head?_eq_getElem?, List.getElem?_eq_getElem hl]; rfl)]
  rw [trim, trimStart, hkept cs hfirst, trimEnd,
    hkept cs.reverse (by rw [List.head?_reverse]; exact hlast), List.reverse_reverse]

theorem isBlank_ascii {c : Char} (hlow : 0x20 < c.toNat) (hhigh : c.toNat < 0x80) :
    isBlank c = false := by
  simp only [isBlank, Bool.or_eq_false_iff, Bool.and_eq_false_iff, decide_eq_false_iff_not,
    beq_eq_false_iff_ne]
  omega

/-! ## White space around a text -/

theorem trimEnd_append (cs : List Char) {right : List Char} (h : ∀ c ∈ right, isBlank c = true) :
    trimEnd (cs ++ right) = trimEnd cs := by
  have hreverse : ∀ c ∈ right.reverse, isBlank c = true := fun c hc => h c (List.mem_reverse.1 hc)
  rw [trimEnd, List.reverse_append, List.dropWhile_append_of_pos hreverse, trimEnd]

theorem trim_surrounded {left right : List Char} (hleft : ∀ c ∈ left, isBlank c = true)
    (cs : List Char) (hright : ∀ c ∈ right, isBlank c = true) :
    trim (left ++ cs ++ right) = trim cs := by
  rw [List.append_assoc, trim, trimStart, List.dropWhile_append_of_pos hleft,
    List.dropWhile_append, trim, trimStart]
  split
  · rename_i hblank
    rw [List.dropWhile_eq_nil_iff.2 hright, List.isEmpty_iff.1 hblank]
  · exact trimEnd_append _ hright

/-! ## What is left -/

/-- A text that neither starts nor ends with white space. -/
structure IsTight (s : String) : Prop where
  first : ∀ c ∈ s.toList.head?, isBlank c = false
  last : ∀ c ∈ s.toList.getLast?, isBlank c = false

theorem head?_dropWhile_blank (cs : List Char) :
    ∀ c ∈ (cs.dropWhile isBlank).head?, isBlank c = false := by
  intro c hc
  have h := List.head?_dropWhile_not isBlank cs
  rw [Option.mem_def.1 hc] at h
  simpa using h

/-- What trimming the end leaves is how the text starts. -/
theorem trimEnd_prefix (cs : List Char) : ∃ right, cs = trimEnd cs ++ right := by
  refine ⟨(cs.reverse.takeWhile isBlank).reverse, ?_⟩
  rw [trimEnd, ← List.reverse_append, List.takeWhile_append_dropWhile, List.reverse_reverse]

theorem isTight_trimmed (s : String) : IsTight (trimmed s) where
  first := by
    intro c hc
    rw [trimmed, String.toList_ofList, trim] at hc
    obtain ⟨right, hright⟩ := trimEnd_prefix (trimStart s.toList)
    refine head?_dropWhile_blank s.toList c ?_
    rw [← trimStart, hright, List.head?_append, Option.mem_def.1 hc]
    rfl
  last := by
    intro c hc
    rw [trimmed, String.toList_ofList, trim, trimEnd, List.getLast?_reverse] at hc
    exact head?_dropWhile_blank _ c hc

theorem mem_trimmed {c : Char} (hc : isBlank c = false) {s : String} :
    c ∈ (trimmed s).toList ↔ c ∈ s.toList := by
  rw [trimmed, String.toList_ofList, trim, trimEnd, trimStart, List.mem_reverse,
    mem_dropWhile_of_not hc, List.mem_reverse, mem_dropWhile_of_not hc]

/-- Two texts with white space at none of their ends still have none when they are joined. -/
theorem IsTight.join {a b : String} (ha : IsTight a) (hb : IsTight b) (hane : a ≠ "")
    (hbne : b ≠ "") (between : String) : IsTight (a ++ between ++ b) where
  first := by
    rw [String.toList_append, String.toList_append, List.append_assoc,
      List.head?_append_of_ne_nil _ (mt String.toList_eq_nil_iff.1 hane)]
    exact ha.first
  last := by
    rw [String.toList_append, List.getLast?_append_of_ne_nil _ (mt String.toList_eq_nil_iff.1 hbne)]
    exact hb.last

theorem nonBlank?_eq_some {s t : String} : nonBlank? s = some t ↔ trimmed s = t ∧ t ≠ "" := by
  simp only [nonBlank?, String.isEmpty_iff]
  by_cases h : trimmed s = "" <;> simp [h]
  all_goals grind

theorem nonBlank?_eq_none {s : String} : nonBlank? s = none ↔ trimmed s = "" := by
  simp only [nonBlank?, String.isEmpty_iff]
  by_cases h : trimmed s = "" <;> simp [h]

end Text
end RdfExport
