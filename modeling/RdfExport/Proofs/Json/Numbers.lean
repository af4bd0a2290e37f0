import Mathlib.Data.List.TakeWhile
import RdfExport.Json.Reader
import RdfExport.Proofs.Text.Pieces

/-!
# RdfExport.Proofs.Json.Numbers

JSON numbers (RFC 8259, section 6), and that the reader reads just these.

* `IsNumber`: the texts that are numbers, from `IsWhole`, `IsFraction` and `IsExponent`.
* `Ends`: what can follow a number.
* `readNumber_sound`, `readNumber_complete`: what is read is a number, and every number is read
  before what can follow it.
-/

namespace RdfExport
namespace Json

/-! ## Numbers -/

def IsDigits (ds : List Char) : Prop := ds ≠ [] ∧ ∀ c ∈ ds, c.isDigit = true

/-- The whole part of a number: no zero before other digits. -/
inductive IsWhole : List Char → Prop
  | zero : IsWhole ['0']
  | digits {ds : List Char} (h : IsDigits ds) (hzero : ds.head? ≠ some '0') : IsWhole ds

/-- The fraction of a number, which may be missing. -/
inductive IsFraction : List Char → Prop
  | none : IsFraction []
  | digits {ds : List Char} (h : IsDigits ds) : IsFraction ('.' :: ds)

inductive IsExponent : List Char → Prop
  | none : IsExponent []
  | digits {e : Char} {sign ds : List Char} (he : e = 'e' ∨ e = 'E')
      (hsign : sign = [] ∨ sign = ['+'] ∨ sign = ['-']) (h : IsDigits ds) :
      IsExponent (e :: (sign ++ ds))

inductive IsUnsigned : List Char → Prop
  | parts {whole fraction exponent : List Char} (hw : IsWhole whole) (hf : IsFraction fraction)
      (hx : IsExponent exponent) : IsUnsigned (whole ++ fraction ++ exponent)

/-- A number. -/
inductive IsNumber : List Char → Prop
  | unsigned {cs : List Char} (h : IsUnsigned cs) : IsNumber cs
  | negative {cs : List Char} (h : IsUnsigned cs) : IsNumber ('-' :: cs)

/-! ## What is read is a number -/

theorem readDigits_sound {cs ds rest : List Char} (h : readDigits cs = some (ds, rest)) :
    cs = ds ++ rest ∧ IsDigits ds := by
  unfold readDigits at h
  split at h
  · cases h
  · rename_i hne
    cases h
    refine ⟨(List.takeWhile_append_dropWhile).symm, ?_, fun c hc => ?_⟩
    · exact hne
    · exact List.mem_takeWhile_imp hc

theorem readWhole_sound {cs ds rest : List Char} (h : readWhole cs = some (ds, rest)) :
    cs = ds ++ rest ∧ IsWhole ds := by
  unfold readWhole at h
  split at h
  · split at h
    · cases h
    · cases h
      exact ⟨rfl, .zero⟩
  · rename_i hzero
    obtain ⟨rfl, hds⟩ := readDigits_sound h
    refine ⟨rfl, .digits hds fun hhead => ?_⟩
    obtain ⟨ds, rfl⟩ := List.head?_eq_some_iff.1 hhead
    exact hzero _ rfl

theorem readFraction_sound {cs ds rest : List Char} (h : readFraction cs = some (ds, rest)) :
    cs = ds ++ rest ∧ IsFraction ds := by
  unfold readFraction at h
  split at h
  · obtain ⟨⟨ds, rest⟩, hread, ⟨⟩⟩ := Option.map_eq_some_iff.1 h
    obtain ⟨rfl, hds⟩ := readDigits_sound hread
    exact ⟨rfl, .digits hds⟩
  · cases h
    exact ⟨rfl, .none⟩

theorem readSign_sound (cs : List Char) :
    cs = (readSign cs).1 ++ (readSign cs).2 ∧
      ((readSign cs).1 = [] ∨ (readSign cs).1 = ['+'] ∨ (readSign cs).1 = ['-']) := by
  unfold readSign
  split <;> simp

theorem readExponent_sound {cs ds rest : List Char} (h : readExponent cs = some (ds, rest)) :
    cs = ds ++ rest ∧ IsExponent ds := by
  unfold readExponent at h
  split at h
  · cases h
    exact ⟨rfl, .none⟩
  · rename_i e after
    split at h
    · rename_i he
      obtain ⟨hsplit, hsign⟩ := readSign_sound after
      generalize readSign after = p at h hsplit hsign
      obtain ⟨⟨ds, left⟩, hread, ⟨⟩⟩ := Option.map_eq_some_iff.1 h
      obtain ⟨hafter, hds⟩ := readDigits_sound hread
      refine ⟨?_, .digits (by simpa using he) hsign hds⟩
      rw [List.cons_append, List.cons_append, List.append_assoc, ← hafter, ← hsplit]
    · cases h
      exact ⟨rfl, .none⟩

theorem readUnsigned_sound {cs ds rest : List Char} (h : readUnsigned cs = some (ds, rest)) :
    cs = ds ++ rest ∧ IsUnsigned ds := by
  unfold readUnsigned at h
  split at h
  · cases h
  · rename_i whole afterWhole hwhole
    obtain ⟨rfl, hw⟩ := readWhole_sound hwhole
    split at h
    · cases h
    · rename_i fraction afterFraction hfraction
      obtain ⟨rfl, hf⟩ := readFraction_sound hfraction
      split at h
      · cases h
      · rename_i exponent left hexponent
        obtain ⟨rfl, hx⟩ := readExponent_sound hexponent
        cases h
        exact ⟨by simp only [List.append_assoc], .parts hw hf hx⟩

/-- What is read of a number is one. -/
theorem readNumber_sound {cs rest : List Char} {j : Json} (h : readNumber cs = some (j, rest)) :
    ∃ ds, cs = ds ++ rest ∧ IsNumber ds ∧ j = .number ds := by
  unfold readNumber at h
  split at h
  · obtain ⟨⟨ds, left⟩, hread, ⟨⟩⟩ := Option.map_eq_some_iff.1 h
    obtain ⟨rfl, hds⟩ := readUnsigned_sound hread
    exact ⟨'-' :: ds, rfl, .negative hds, rfl⟩
  · obtain ⟨⟨ds, left⟩, hread, ⟨⟩⟩ := Option.map_eq_some_iff.1 h
    obtain ⟨rfl, hds⟩ := readUnsigned_sound hread
    exact ⟨ds, rfl, .unsigned hds, rfl⟩

/-! ## Every number is read -/

/-- What can follow a number: nothing that could be a part of it. -/
def Ends (rest : List Char) : Prop :=
  ∀ c ∈ rest.head?, c.isDigit = false ∧ c ≠ '.' ∧ c ≠ 'e' ∧ c ≠ 'E'

theorem Ends.nil : Ends [] := fun c hc => by cases hc

theorem Ends.cons {c : Char} (rest : List Char)
    (h : c.isDigit = false ∧ c ≠ '.' ∧ c ≠ 'e' ∧ c ≠ 'E') : Ends (c :: rest) := by
  intro x hx
  cases hx
  exact h

theorem IsDigits.exists_cons {ds : List Char} (h : IsDigits ds) :
    ∃ d rest, ds = d :: rest ∧ d.isDigit = true := by
  obtain ⟨d, rest, rfl⟩ := List.exists_cons_of_ne_nil h.1
  exact ⟨d, rest, rfl, h.2 d (by simp)⟩

theorem readDigits_complete {ds rest : List Char} (hds : IsDigits ds)
    (hrest : ∀ c ∈ rest.head?, c.isDigit = false) : readDigits (ds ++ rest) = some (ds, rest) := by
  have hread : (ds ++ rest).takeWhile Char.isDigit = ds ∧
      (ds ++ rest).dropWhile Char.isDigit = rest := by
    cases rest with
    | nil => simp [List.takeWhile_eq_self_iff.2 hds.2, List.dropWhile_eq_nil_iff.2 hds.2]
    | cons c rest =>
      have hc := hrest c rfl
      exact ⟨takeWhile_before hds.2 hc, dropWhile_before hds.2 hc⟩
  obtain ⟨d, rest', rfl, -⟩ := hds.exists_cons
  rw [readDigits, hread.1, hread.2]

theorem readWhole_complete {ds rest : List Char} (hds : IsWhole ds)
    (hrest : ∀ c ∈ rest.head?, c.isDigit = false) : readWhole (ds ++ rest) = some (ds, rest) := by
  cases hds with
  | zero =>
    have hnext : ¬rest.head?.any Char.isDigit = true := by
      rw [Option.any_eq_true]
      rintro ⟨c, hc, hdigit⟩
      rw [hrest c hc] at hdigit
      cases hdigit
    rw [List.singleton_append, readWhole, if_neg hnext]
  | digits h hzero =>
    rw [readWhole.eq_2, readDigits_complete h hrest]
    intro after heq
    obtain ⟨d, rest', rfl, -⟩ := h.exists_cons
    obtain ⟨rfl, -⟩ := List.cons.inj heq
    exact hzero rfl

theorem readFraction_complete {ds rest : List Char} (hds : IsFraction ds)
    (hrest : ∀ c ∈ rest.head?, c.isDigit = false ∧ c ≠ '.') :
    readFraction (ds ++ rest) = some (ds, rest) := by
  cases hds with
  | none =>
    rw [List.nil_append, readFraction.eq_2]
    rintro after rfl
    exact (hrest '.' rfl).2 rfl
  | digits h =>
    rw [List.cons_append, readFraction, readDigits_complete h fun c hc => (hrest c hc).1]
    rfl

theorem readSign_complete {sign ds : List Char} (hsign : sign = [] ∨ sign = ['+'] ∨ sign = ['-'])
    (hds : IsDigits ds) (rest : List Char) :
    readSign (sign ++ (ds ++ rest)) = (sign, ds ++ rest) := by
  rcases hsign with rfl | rfl | rfl
  · obtain ⟨d, ds, rfl, hdigit⟩ := hds.exists_cons
    rw [List.nil_append, List.cons_append, readSign.eq_3]
    · rintro after heq
      obtain ⟨rfl, -⟩ := List.cons.inj heq
      cases hdigit
    · rintro after heq
      obtain ⟨rfl, -⟩ := List.cons.inj heq
      cases hdigit
  · rfl
  · rfl

theorem readExponent_complete {ds rest : List Char} (hds : IsExponent ds) (hrest : Ends rest) :
    readExponent (ds ++ rest) = some (ds, rest) := by
  cases hds with
  | none =>
    cases rest with
    | nil => rfl
    | cons c rest =>
      obtain ⟨-, -, he, hE⟩ := hrest c rfl
      simp [readExponent, he, hE]
  | digits he hsign h =>
    rw [List.cons_append, List.append_assoc, readExponent, if_pos (by simpa using he)]
    simp only [readSign_complete hsign h, readDigits_complete h fun c hc => (hrest c hc).1,
      Option.map_some, List.cons_append]

theorem IsExponent.ends {ds rest : List Char} (hds : IsExponent ds) (hrest : Ends rest) :
    ∀ c ∈ (ds ++ rest).head?, c.isDigit = false ∧ c ≠ '.' := by
  cases hds with
  | none => exact fun c hc => ⟨(hrest c hc).1, (hrest c hc).2.1⟩
  | digits he _ _ =>
    rintro c ⟨⟩
    rcases he with rfl | rfl <;> decide

theorem readUnsigned_complete {ds rest : List Char} (hds : IsUnsigned ds) (hrest : Ends rest) :
    readUnsigned (ds ++ rest) = some (ds, rest) := by
  obtain ⟨hw, hf, hx⟩ := hds
  rename_i whole fraction exponent
  have hafter : ∀ c ∈ (fraction ++ (exponent ++ rest)).head?, c.isDigit = false := by
    cases hf with
    | none => exact fun c hc => (hx.ends hrest c hc).1
    | digits _ =>
      rintro c ⟨⟩
      rfl
  rw [List.append_assoc, List.append_assoc, readUnsigned, readWhole_complete hw hafter]
  simp only [readFraction_complete hf (hx.ends hrest), readExponent_complete hx hrest]

theorem IsUnsigned.exists_cons {ds : List Char} (h : IsUnsigned ds) :
    ∃ d rest, ds = d :: rest ∧ d.isDigit = true := by
  obtain ⟨hw, -, -⟩ := h
  cases hw with
  | zero => exact ⟨'0', _, rfl, rfl⟩
  | digits h _ =>
    obtain ⟨d, rest, rfl, hd⟩ := h.exists_cons
    exact ⟨d, _, rfl, hd⟩

/-- A number is read before what can follow it. -/
theorem readNumber_complete {ds rest : List Char} (hds : IsNumber ds) (hrest : Ends rest) :
    readNumber (ds ++ rest) = some (.number ds, rest) := by
  cases hds with
  | unsigned h =>
    rw [readNumber.eq_2, readUnsigned_complete h hrest]
    · rfl
    · intro after heq
      obtain ⟨d, ds, rfl, hdigit⟩ := h.exists_cons
      obtain ⟨rfl, -⟩ := List.cons.inj heq
      cases hdigit
  | negative h =>
    rw [List.cons_append, readNumber, readUnsigned_complete h hrest]
    rfl

theorem IsNumber.exists_cons {ds : List Char} (h : IsNumber ds) :
    ∃ d rest, ds = d :: rest ∧ (d.isDigit = true ∨ d = '-') := by
  cases h with
  | unsigned h =>
    obtain ⟨d, rest, rfl, hd⟩ := h.exists_cons
    exact ⟨d, rest, rfl, .inl hd⟩
  | negative h => exact ⟨'-', _, rfl, .inr rfl⟩

end Json
end RdfExport
