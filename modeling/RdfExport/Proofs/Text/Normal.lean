import RdfExport.Text.Normal

/-!
# RdfExport.Proofs.Text.Normal

Characters that the normal form of a text keeps where they are: those of no entry in the table of
composed characters, below all syllables.

* `CodeRange.all_ofLines_cons`: a table is checked line by line.
* `IsInert`, `isInert_colon`: such characters, and one of them.
* `IsInert.mem_normalize`: they stay.
-/

namespace RdfExport
namespace Text

/-- The lines of a table have their characters, so the entries can be checked line by line. -/
theorem CodeRange.all_ofLines_cons {p : CodeRange → Bool} {line : String} {lines : List String}
    (hline : ∃ cs, line = String.ofList cs ∧ ((cs.splitOn ' ').map read).all p = true)
    (hlines : (ofLines lines).all p = true) : (ofLines (line :: lines)).all p = true := by
  obtain ⟨cs, rfl, hcs⟩ := hline
  rw [ofLines, List.flatMap_cons, List.all_append, Bool.and_eq_true, String.toList_ofList]
  exact ⟨hcs, hlines⟩

def CodeRange.isWithout (c : Char) (r : CodeRange) : Bool :=
  !r.contains c.toNat && !r.values.contains c.toNat

/-- A character that stands below all syllables, and in no entry of the composed characters. -/
structure IsInert (c : Char) : Prop where
  low : c.toNat < 0x1100
  entries : composites.all (CodeRange.isWithout c) = true

theorem isInert_colon : IsInert ':' where
  low := by decide
  entries := by
    unfold composites
    repeat refine CodeRange.all_ofLines_cons ⟨_, rfl, by decide +kernel⟩ ?_
    rfl

namespace IsInert

variable {c : Char}

theorem parts? (hc : IsInert c) : parts? c = none := by
  have hsyllable : syllableParts? c.toNat = none := by
    have := hc.low
    rw [syllableParts?, if_neg (by omega)]
  have hnone : composites.find? (·.contains c.toNat) = none := by
    rw [List.find?_eq_none]
    intro r hr hcontains
    have hwithout := List.all_eq_true.1 hc.entries r hr
    simp [CodeRange.isWithout, hcontains] at hwithout
  rw [Text.parts?, hsyllable, hnone]

/-- It makes up nothing, neither as the first part nor as the second. -/
theorem composite? (hc : IsInert c) {a b : Char} (h : a = c ∨ b = c) : composite? a b = none := by
  have hsyllable : syllable? a.toNat b.toNat = none := by
    have := hc.low
    rw [syllable?, if_neg (by rcases h with rfl | rfl <;> omega),
      if_neg (by rcases h with rfl | rfl <;> omega)]
  have hnone : composites.find? (·.values == [a.toNat, b.toNat]) = none := by
    rw [List.find?_eq_none]
    intro r hr hvalues
    have hwithout := List.all_eq_true.1 hc.entries r hr
    rw [beq_iff_eq] at hvalues
    rcases h with rfl | rfl <;> simp [CodeRange.isWithout, hvalues] at hwithout
  rw [Text.composite?, hsyllable, hnone, Option.map_none]

end IsInert

theorem mem_insertMark {c d : Char} {text : List Char} :
    d ∈ insertMark c text ↔ d = c ∨ d ∈ text := by
  induction text with
  | nil => simp [insertMark]
  | cons x rest ih =>
    rw [insertMark]
    split
    · simp only [List.mem_cons, ih]
      exact or_left_comm
    · simp

theorem mem_orderMarks {d : Char} {cs : List Char} : d ∈ orderMarks cs ↔ d ∈ cs := by
  have hfold (text : List Char) :
      d ∈ cs.foldl (fun text c => insertMark c text) text ↔ d ∈ text ∨ d ∈ cs := by
    induction cs generalizing text with
    | nil => simp
    | cons c cs ih =>
      rw [List.foldl_cons, ih, mem_insertMark, List.mem_cons]
      grind
  rw [orderMarks, List.mem_reverse, hfold]
  simp

namespace IsInert

variable {c : Char}

theorem mem_composeFrom (hc : IsInert c) {base : Char} {marks cs : List Char}
    (h : c = base ∨ c ∈ marks ∨ c ∈ cs) : c ∈ composeFrom base marks cs := by
  fun_induction composeFrom base marks cs with
  | case1 base marks => simpa using h
  | case2 base marks d rest whole hwhole ih =>
    have hboth : Text.composite? base d = some whole := by
      split at hwhole
      · cases hwhole
      · exact hwhole
    have hapart : ¬(base = c ∨ d = c) := by
      intro hpart
      rw [hc.composite? hpart] at hboth
      cases hboth
    grind
  | case3 base marks d rest _ _ ih => grind
  | case4 base marks d rest _ _ ih => grind

theorem mem_compose (hc : IsInert c) {cs : List Char} (h : c ∈ cs) : c ∈ compose cs := by
  cases cs with
  | nil => cases h
  | cons d rest => exact hc.mem_composeFrom (by simpa using h)

/-- It stays when a text is normalized. -/
theorem mem_normalize (hc : IsInert c) {cs : List Char} (h : c ∈ cs) : c ∈ normalize cs := by
  have happart : takeApart compositionDepth c = [c] := by
    rw [compositionDepth, takeApart, hc.parts?]
  refine hc.mem_compose (mem_orderMarks.2 (List.mem_flatMap.2 ⟨c, h, ?_⟩))
  rw [happart]
  exact List.mem_singleton_self _

end IsInert

end Text

end RdfExport
