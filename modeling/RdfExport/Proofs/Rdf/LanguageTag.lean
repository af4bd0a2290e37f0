import RdfExport.Proofs.Text.Pieces
import RdfExport.Rdf.LanguageTag

/-!
# RdfExport.Proofs.Rdf.LanguageTag

The shape of language tags, which is all that a reader needs to find where one ends: a block of
letters, then blocks of letters and digits after hyphens.

* `areTagBlocks`: the shape.
* `isLanguageTag_blocks`: well-formed tags have it.
-/

namespace RdfExport
namespace Rdf

def isTagBlock (block : List Char) : Bool := !block.isEmpty && block.all Char.isAlphanum

/-- A block of letters, then blocks of letters and digits. -/
def areTagBlocks : List (List Char) → Bool
  | [] => false
  | first :: rest => !first.isEmpty && first.all Char.isAlpha && rest.all isTagBlock

theorem isAlphanum_range {c : Char} (h : c.isAlphanum = true) :
    0x20 < c.toNat ∧ c.toNat < 0x80 := by
  rcases Bool.or_eq_true_iff.1 h with hletter | hdigit
  · rcases Bool.or_eq_true_iff.1 hletter with hupper | hlower
    · have hrange : 65 ≤ c.toNat ∧ c.toNat ≤ 90 := of_decide_eq_true hupper
      omega
    · have hrange : 97 ≤ c.toNat ∧ c.toNat ≤ 122 :=
        (Bool.and_eq_true_iff.1 hlower).imp of_decide_eq_true of_decide_eq_true
      omega
  · have hrange : 48 ≤ c.toNat ∧ c.toNat ≤ 57 :=
      (Bool.and_eq_true_iff.1 hdigit).imp of_decide_eq_true of_decide_eq_true
    omega

theorem toLower_toLower (c : Char) : c.toLower.toLower = c.toLower := by
  by_cases hupper : c.val ≥ 'A'.val ∧ c.val ≤ 'Z'.val
  · have hascii : c.toNat < 128 := by
      have hle := UInt32.le_iff_toNat_le.1 hupper.2
      have hZ : 'Z'.val.toNat = 90 := rfl
      have hc : c.toNat = c.val.toNat := rfl
      omega
    have hall : ∀ n < 128, (Char.ofNat n).toLower.toLower = (Char.ofNat n).toLower := by decide
    have h := hall c.toNat hascii
    rwa [Char.ofNat_toNat] at h
  · have h : c.toLower = c := dif_neg hupper
    rw [h, h]

theorem all_isAlphanum_of_isAlpha {cs : List Char} (h : cs.all Char.isAlpha = true) :
    cs.all Char.isAlphanum = true := by
  rw [List.all_eq_true] at h ⊢
  intro c hc
  simp [Char.isAlphanum, h c hc]

theorem all_isAlphanum_of_isDigit {cs : List Char} (h : cs.all Char.isDigit = true) :
    cs.all Char.isAlphanum = true := by
  rw [List.all_eq_true] at h ⊢
  intro c hc
  simp [Char.isAlphanum, h c hc]

theorem Stage.next_isTagBlock {s s' : Stage} {t : List Char} (h : s.next t = some s') :
    isTagBlock t = true := by
  unfold Stage.next at h
  split at h
  · cases h
  rename_i hlength
  have hfull : t.isEmpty = false := by
    cases ht : t.isEmpty with
    | true => simp [ht] at hlength
    | false => rfl
  suffices hall : t.all Char.isAlphanum = true by
    simp [isTagBlock, hfull, hall]
  split at h
  · split at h
    · assumption
    · cases h
  split at h
  · rename_i hx
    simp only [Bool.or_eq_true, decide_eq_true_eq] at hx
    rcases hx with rfl | rfl <;> rfl
  split at h
  · rename_i hsingle
    rw [Bool.and_eq_true] at hsingle
    exact hsingle.2
  split at h
  · split at h
    · assumption
    · cases h
  split at h
  · rename_i hextended
    simp only [Bool.and_eq_true] at hextended
    exact all_isAlphanum_of_isAlpha hextended.2
  split at h
  · rename_i hscript
    simp only [Bool.and_eq_true] at hscript
    exact all_isAlphanum_of_isAlpha hscript.2
  split at h
  · rename_i hregion
    simp only [Bool.and_eq_true, Bool.or_eq_true] at hregion
    rcases hregion.2 with hletters | hdigits
    · exact all_isAlphanum_of_isAlpha hletters.2
    · exact all_isAlphanum_of_isDigit hdigits.2
  split at h
  · rename_i hvariant
    simp only [isVariant, Bool.and_eq_true] at hvariant
    exact hvariant.2.1
  · cases h

theorem Stage.run_areTagBlocks {s s' : Stage} {ts : List (List Char)} (h : s.run ts = some s') :
    ts.all isTagBlock = true := by
  induction ts generalizing s with
  | nil => rfl
  | cons t ts ih =>
    simp only [Stage.run] at h
    cases hnext : s.next t with
    | none => simp [hnext] at h
    | some s₁ =>
      rw [hnext] at h
      rw [List.all_cons, Stage.next_isTagBlock hnext, ih h]
      rfl

theorem Stage.ofLanguage?_isSome {t : List Char} (h : (Stage.ofLanguage? t).isSome = true) :
    (!t.isEmpty && t.all Char.isAlpha) = true := by
  unfold Stage.ofLanguage? at h
  split at h
  · rename_i hletters
    simp only [Bool.and_eq_true, decide_eq_true_eq] at hletters
    cases t with
    | nil => simp at hletters
    | cons c t => simpa using hletters.2
  · cases h

theorem grandfatheredTags_areTagBlocks :
    ∀ tag ∈ grandfatheredTags, areTagBlocks (tag.toList.splitOn '-') = true := by
  decide +kernel

/-- **A well-formed tag in lowercase is made of blocks.** -/
theorem isLanguageTag_blocks {cs : List Char} (h : isLanguageTag cs = true)
    (hlower : cs.map Char.toLower = cs) : areTagBlocks (cs.splitOn '-') = true := by
  simp only [isLanguageTag, Bool.or_eq_true, hlower] at h
  rcases h with hlisted | hsubtags
  · have hmem : String.ofList cs ∈ grandfatheredTags := List.contains_iff_mem.1 hlisted
    simpa using grandfatheredTags_areTagBlocks _ hmem
  split at hsubtags
  · cases hsubtags
  · rename_i single hsplit
    have hjoin := @List.intercalate_splitOn Char cs _ _ '-'
    rw [hsplit, List.intercalate_singleton] at hjoin
    subst hjoin
    rw [hsplit, areTagBlocks, Stage.ofLanguage?_isSome hsubtags]
    rfl
  · rename_i first rest _ hsplit
    rw [hsplit, areTagBlocks]
    split at hsubtags
    · rename_i hprivate
      obtain ⟨s, hrun, -⟩ := (Option.any_eq_true _ _).1 hsubtags
      simp only [decide_eq_true_eq] at hprivate
      rw [Stage.run_areTagBlocks hrun]
      rcases hprivate with rfl | rfl <;> rfl
    · split at hsubtags
      · rename_i s hlanguage
        obtain ⟨s', hrun, -⟩ := (Option.any_eq_true _ _).1 hsubtags
        rw [Stage.run_areTagBlocks hrun, Stage.ofLanguage?_isSome (by simp [hlanguage])]
        rfl
      · cases hsubtags

theorem areTagBlocks_chars {cs : List Char} (h : areTagBlocks (cs.splitOn '-') = true) :
    ∀ c ∈ cs, c.isAlphanum = true ∨ c = '-' := by
  intro c hc
  rcases mem_splitOn '-' hc with rfl | ⟨block, hblock, hc⟩
  · exact .inr rfl
  cases hsplit : cs.splitOn '-' with
  | nil => simp [hsplit] at hblock
  | cons first rest =>
    simp only [hsplit, areTagBlocks, Bool.and_eq_true] at h
    rw [hsplit] at hblock
    rcases List.mem_cons.1 hblock with rfl | hblock
    · exact .inl (List.all_eq_true.1 (all_isAlphanum_of_isAlpha h.1.2) c hc)
    · have hall := List.all_eq_true.1 h.2 block hblock
      rw [isTagBlock, Bool.and_eq_true] at hall
      exact .inl (List.all_eq_true.1 hall.2 c hc)

end Rdf
end RdfExport
