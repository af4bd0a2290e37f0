/-!
# RdfExport.Proofs.Text.Pieces

Texts made of pieces: between separators, or up to the first character of a kind.

* `mem_intercalate`, `mem_splitOn`: a character is a separator or stands in a piece.
* `takeWhile_before`, `dropWhile_before`: what stands before the first character of a kind.
* `mem_dropWhile_of_not`: what is never dropped.
-/

namespace RdfExport

variable {α : Type}

theorem mem_intercalate {x c : α} {pieces : List (List α)} (h : c ∈ [x].intercalate pieces) :
    c = x ∨ ∃ piece ∈ pieces, c ∈ piece := by
  induction pieces with
  | nil => simp at h
  | cons piece rest ih =>
    cases rest with
    | nil =>
      rw [List.intercalate_singleton] at h
      exact .inr ⟨piece, by simp, h⟩
    | cons next rest =>
      rw [List.intercalate_cons_cons, List.mem_append, List.mem_append, List.mem_singleton] at h
      rcases h with (h | h) | h
      · exact .inr ⟨piece, by simp, h⟩
      · exact .inl h
      · rcases ih h with h | ⟨other, hother, h⟩
        · exact .inl h
        · exact .inr ⟨other, List.mem_cons_of_mem _ hother, h⟩

theorem intercalate_cons (x : α) (piece : List α) (rest : List (List α)) :
    [x].intercalate (piece :: rest) = piece ++ rest.flatMap (x :: ·) := by
  induction rest generalizing piece with
  | nil => rw [List.intercalate_singleton, List.flatMap_nil, List.append_nil]
  | cons next rest ih =>
    rw [List.intercalate_cons_cons, ih, List.flatMap_cons]
    simp

theorem mem_intercalate_of_mem {x c : α} {piece : List α} {pieces : List (List α)}
    (hc : c ∈ piece) (hpiece : piece ∈ pieces) : c ∈ [x].intercalate pieces := by
  cases pieces with
  | nil => cases hpiece
  | cons first rest =>
    rw [intercalate_cons, List.mem_append, List.mem_flatMap]
    rcases List.mem_cons.1 hpiece with rfl | hrest
    · exact .inl hc
    · exact .inr ⟨piece, hrest, List.mem_cons_of_mem _ hc⟩

theorem mem_splitOn [BEq α] [LawfulBEq α] (x : α) {xs : List α} {c : α} (h : c ∈ xs) :
    c = x ∨ ∃ piece ∈ xs.splitOn x, c ∈ piece := by
  rw [← @List.intercalate_splitOn α xs _ _ x] at h
  exact mem_intercalate h

theorem mem_dropWhile_of_not {p : α → Bool} {a : α} (h : p a = false) {xs : List α} :
    a ∈ xs.dropWhile p ↔ a ∈ xs := by
  induction xs with
  | nil => rfl
  | cons b xs ih =>
    rw [List.dropWhile_cons]
    split
    · rename_i hb
      have hne : a ≠ b := by
        rintro rfl
        rw [h] at hb
        cases hb
      rw [ih, List.mem_cons, or_iff_right hne]
    · rfl

section

variable {p : α → Bool} {before rest : List α} {b : α}

theorem takeWhile_before (h : ∀ a ∈ before, p a = true) (hb : p b = false) :
    (before ++ b :: rest).takeWhile p = before := by
  rw [List.takeWhile_append_of_pos h, List.takeWhile_cons_of_neg (by simp [hb]), List.append_nil]

theorem dropWhile_before (h : ∀ a ∈ before, p a = true) (hb : p b = false) :
    (before ++ b :: rest).dropWhile p = b :: rest := by
  rw [List.dropWhile_append_of_pos h, List.dropWhile_cons_of_neg (by simp [hb])]

end

end RdfExport
