import RdfExport.Decoder.Tuple
import RdfExport.Proofs.Text.Utf8

/-!
# RdfExport.Proofs.Lines

Cutting octets into lines. The lines that are complete and the incomplete last one are what stands
between the LFs (`splitLines_eq_splitOn`), and a cut anywhere in the octets does not show in them
(`splitLines_append`): the incomplete line before the cut starts the first line after it.

* `endsLine`: the octet that ends a line.
* `tableLines`: the lines of a whole table, an empty one after the last LF left out.
-/

namespace RdfExport

def endsLine : UInt8 := octet '\n'

theorem endsLine_not_mem_encode {cs : List Char} (h : '\n' ∉ cs) : endsLine ∉ Utf8.encode cs := by
  rwa [endsLine, Utf8.octet_mem_encode (by decide)]

/-- The lines of a whole table: what stands between its LFs. Nothing after the last LF is no
line. -/
def tableLines (body : Bytes) : List Bytes :=
  if (body.splitOn endsLine).getLast? = some [] then (body.splitOn endsLine).dropLast
  else body.splitOn endsLine

namespace TupleDecoder

@[simp] theorem splitLines_nil : splitLines [] = ([], []) := rfl

theorem splitLines_end (rest : Bytes) :
    splitLines (endsLine :: rest) = ([] :: (splitLines rest).1, (splitLines rest).2) := by
  simp [splitLines, endsLine]

theorem splitLines_cons {b : UInt8} (hb : b ≠ endsLine) (rest : Bytes) :
    splitLines (b :: rest) =
      match splitLines rest with
      | ([], tail) => ([], b :: tail)
      | (line :: more, tail) => ((b :: line) :: more, tail) := by
  have hb' : ¬b = octet '\n' := hb
  cases h : splitLines rest with
  | mk lines tail =>
    cases lines with
    | nil => simp [splitLines, h, hb']
    | cons line more => simp [splitLines, h, hb']

theorem splitLines_of_not_mem {p : Bytes} (hp : endsLine ∉ p) (bytes : Bytes) :
    splitLines (p ++ bytes) =
      match splitLines bytes with
      | ([], tail) => ([], p ++ tail)
      | (line :: more, tail) => ((p ++ line) :: more, tail) := by
  induction p with
  | nil =>
    cases h : splitLines bytes with
    | mk lines tail => cases lines <;> simp [h]
  | cons b p ih =>
    have hb : b ≠ endsLine := fun e => hp (by simp [e])
    have hp' : endsLine ∉ p := fun hm => hp (List.mem_cons_of_mem b hm)
    rw [List.cons_append, splitLines_cons hb, ih hp']
    cases h : splitLines bytes with
    | mk lines tail => cases lines <;> rfl

theorem splitLines_eq_self {p : Bytes} (hp : endsLine ∉ p) : splitLines p = ([], p) := by
  simpa using splitLines_of_not_mem hp []

theorem splitLines_line {line : Bytes} (h : endsLine ∉ line) (rest : Bytes) :
    splitLines (line ++ endsLine :: rest) =
      (line :: (splitLines rest).1, (splitLines rest).2) := by
  rw [splitLines_of_not_mem h, splitLines_end]
  simp only [List.append_nil]

/-- The incomplete last line holds no LF. -/
theorem splitLines_tail_not_mem (bytes : Bytes) : endsLine ∉ (splitLines bytes).2 := by
  induction bytes with
  | nil => simp
  | cons b rest ih =>
    by_cases hb : b = endsLine
    · subst hb
      rw [splitLines_end]
      exact ih
    · rw [splitLines_cons hb]
      cases h : splitLines rest with
      | mk lines tail =>
        rw [h] at ih
        cases lines with
        | nil => simpa [Ne.symm hb] using ih
        | cons line more => exact ih

/-- A cut does not show: the lines before it, and then those of the incomplete line before it
together with what comes after it. -/
theorem splitLines_append (a b : Bytes) :
    splitLines (a ++ b) =
      ((splitLines a).1 ++ (splitLines ((splitLines a).2 ++ b)).1,
        (splitLines ((splitLines a).2 ++ b)).2) := by
  induction a with
  | nil => simp
  | cons c a ih =>
    by_cases hc : c = endsLine
    · subst hc
      rw [List.cons_append, splitLines_end, splitLines_end, ih]
      rfl
    · rw [List.cons_append, splitLines_cons hc, splitLines_cons hc, ih]
      cases h : splitLines a with
      | mk lines tail =>
        cases lines with
        | nil =>
          -- the first line is still open at the cut
          simp only [List.nil_append, List.cons_append]
          rw [splitLines_cons hc]
        | cons line more => rfl

/-- Passing over octets that hold no LF changes nothing. -/
theorem splitLinesFrom_eq {k : Nat} {bytes : Bytes} (h : endsLine ∉ bytes.take k) :
    splitLinesFrom k bytes = splitLines bytes := by
  conv => rhs; rw [← List.take_append_drop k bytes]
  rw [splitLines_of_not_mem h]
  rfl

/-- The complete lines and the rest are the pieces between the LFs. -/
theorem splitLines_eq_splitOn (bytes : Bytes) :
    bytes.splitOn endsLine = (splitLines bytes).1 ++ [(splitLines bytes).2] := by
  induction bytes with
  | nil => simp [List.splitOn_nil]
  | cons b rest ih =>
    rw [List.splitOn_cons_eq_if_modifyHead, ih]
    by_cases hb : b = endsLine
    · subst hb
      simp [splitLines_end]
    · rw [splitLines_cons hb]
      cases h : splitLines rest with
      | mk lines tail => cases lines <;> simp [hb]

theorem tableLines_eq (body : Bytes) :
    tableLines body =
      (splitLines body).1 ++ if (splitLines body).2.isEmpty then [] else [(splitLines body).2] := by
  unfold tableLines
  rw [splitLines_eq_splitOn]
  cases h : (splitLines body).2 with
  | nil => simp
  | cons b tail => simp

theorem tableLines_eq_self {p : Bytes} (hp : endsLine ∉ p) :
    tableLines p = if p.isEmpty then [] else [p] := by
  rw [tableLines_eq, splitLines_eq_self hp]
  rfl

theorem tableLines_line {line : Bytes} (h : endsLine ∉ line) (rest : Bytes) :
    tableLines (line ++ endsLine :: rest) = line :: tableLines rest := by
  rw [tableLines_eq, tableLines_eq, splitLines_line h]
  rfl

theorem tableLines_append (a b : Bytes) :
    tableLines (a ++ b) = (splitLines a).1 ++ tableLines ((splitLines a).2 ++ b) := by
  rw [tableLines_eq, tableLines_eq, splitLines_append a b, List.append_assoc]

end TupleDecoder
end RdfExport
