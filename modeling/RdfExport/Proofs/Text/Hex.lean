import Mathlib.Algebra.Group.Nat.Defs
import Mathlib.Tactic.SplitIfs
import RdfExport.Text.Hex

/-!
# RdfExport.Proofs.Text.Hex

Hexadecimal digits that are written are read again, and what is read of them does not depend on what
follows them.

* `read_render4`, `read_lower`: a number from its digits.
* `read_digits`, `read_append`: what reading a fixed count of digits looks at.
-/

namespace RdfExport
namespace Hex

theorem value?_upper {n : Nat} (h : n < 16) : value? (upper n) = some n := by
  have hall : ∀ n < 16, value? (upper n) = some n := by decide
  exact hall n h

theorem upper_ascii {n : Nat} (h : n < 16) : 0x30 ≤ (upper n).toNat ∧ (upper n).toNat < 0x80 := by
  have hall : ∀ n < 16, 0x30 ≤ (upper n).toNat ∧ (upper n).toNat < 0x80 := by decide
  exact hall n h

theorem read_render4 {n : Nat} (h : n < 65536) (rest : List Char) :
    read 4 0 (render4 n ++ rest) = some (n, rest) := by
  simp only [render4, List.cons_append, List.nil_append, read]
  rw [value?_upper (by omega), value?_upper (by omega), value?_upper (by omega),
    value?_upper (by omega)]
  simp only [Option.some.injEq, Prod.mk.injEq, and_true]
  omega

theorem render4_ascii (n : Nat) : ∀ c ∈ render4 n, 0x30 ≤ c.toNat ∧ c.toNat < 0x80 := by
  simp only [render4, List.mem_cons, List.not_mem_nil, or_false]
  rintro c (rfl | rfl | rfl | rfl) <;> exact upper_ascii (by omega)

theorem scalar?_toNat (c : Char) : scalar? c.toNat = some c := by
  have hvalid : c.toNat.isValidChar := c.valid
  rw [scalar?, if_pos hvalid, Char.ofNat_toNat]

theorem value?_lower {n : Nat} (h : n < 16) : value? (lower n) = some n := by
  have hall : ∀ n < 16, value? (lower n) = some n := by decide
  exact hall n h

theorem read_lower {n : Nat} (h : n < 256) (rest : List Char) :
    read 4 0 ('0' :: '0' :: lower (n / 16) :: lower (n % 16) :: rest) = some (n, rest) := by
  have hzero : value? '0' = some 0 := by decide
  simp only [read, hzero, value?_lower (show n / 16 < 16 by omega),
    value?_lower (show n % 16 < 16 by omega)]
  congr 2
  omega

theorem read_digits {n acc : Nat} {cs : List Char} {r : Nat × List Char}
    (h : read n acc cs = some r) : ∀ c ∈ cs.take n, isDigit c = true := by
  induction n generalizing acc cs with
  | zero => simp
  | succ n ih =>
    cases cs with
    | nil => simp
    | cons d rest =>
      simp only [read] at h
      cases hd : value? d with
      | none => simp [hd] at h
      | some v =>
        simp only [hd] at h
        intro c hc
        rcases List.mem_cons.1 hc with rfl | hc
        · simp [isDigit, hd]
        · exact ih h c hc

theorem value?_lt {c : Char} {v : Nat} (h : value? c = some v) : v < 16 := by
  have hle {a b : Char} (h : a ≤ b) : a.toNat ≤ b.toNat := h
  have hranges : '9'.toNat - '0'.toNat = 9 ∧ 'f'.toNat - 'a'.toNat = 5 ∧
      'F'.toNat - 'A'.toNat = 5 := by
    decide
  unfold value? at h
  split_ifs at h with hdigit hlower hupper <;> cases h
  · have := hle hdigit.2
    omega
  · have := hle hlower.2
    omega
  · have := hle hupper.2
    omega

/-- Reading takes as many digits as it is asked for, and their number is below the power of 16. -/
theorem read_bounds {n acc m : Nat} {cs rest : List Char} (h : read n acc cs = some (m, rest)) :
    n ≤ cs.length ∧ m < (acc + 1) * 16 ^ n := by
  induction n generalizing acc cs with
  | zero =>
    cases h
    simp
  | succ n ih =>
    cases cs with
    | nil => cases h
    | cons c cs =>
      simp only [read] at h
      cases hc : value? c with
      | none =>
        rw [hc] at h
        cases h
      | some v =>
        rw [hc] at h
        obtain ⟨hlength, hlt⟩ := ih h
        have hv := value?_lt hc
        refine ⟨Nat.succ_le_succ hlength, ?_⟩
        calc m < (acc * 16 + v + 1) * 16 ^ n := hlt
          _ ≤ ((acc + 1) * 16) * 16 ^ n := Nat.mul_le_mul_right _ (by omega)
          _ = (acc + 1) * 16 ^ (n + 1) := by rw [pow_succ, Nat.mul_assoc, Nat.mul_comm 16]

/-- Digits that were read are read again before more characters. -/
theorem read_append {n acc : Nat} {cs : List Char} (hn : n ≤ cs.length) (more : List Char) :
    (read n acc (cs ++ more)).map (·.1) = (read n acc cs).map (·.1) := by
  induction n generalizing acc cs with
  | zero => rfl
  | succ n ih =>
    cases cs with
    | nil => simp at hn
    | cons c cs =>
      simp only [List.cons_append, read]
      cases value? c with
      | none => rfl
      | some v => exact ih (by simpa using hn)

end Hex
end RdfExport
