import RdfExport.NTriples.Enclosed
import RdfExport.NTriples.Foreign
import RdfExport.Proofs.Text.Hex
import RdfExport.Proofs.Text.Utf8

/-!
# RdfExport.Proofs.NTriples.Enclosed

What octets at hand hold does not change when more octets come, unless it waits for them. Here for
characters, escapes, and the tokens that end with a delimiter.

* `Scan.Stands`, `Lexeme.Stands`: a reading of some octets and one of more octets agree, and the
  first keeps within the octets it had.
* `lexEscape_append`: the same of escapes.
* `lexIri_stands`, `lexValue_stands`: IRIs and values.
-/

namespace RdfExport

namespace Utf8

theorem head_ill_size {b : UInt8} {rest : Bytes} {n : Nat} (hh : head b rest = .ill n) :
    NTriples.illSize b n ≤ rest.length + 1 :=
  head_ill_length hh

end Utf8

namespace NTriples

open Rdf

def Scan.size {α : Type} : Scan α → Nat
  | .done _ size => size
  | .fault _ size => size
  | .wait => 0

def Escape.size : Escape → Nat
  | .char _ size => size
  | .fault size => size
  | .wait => 0

def Lexeme.size : Lexeme → Nat
  | .token _ size => size
  | .lineEnd size => size
  | .comment size => size
  | .fault _ size => size
  | .wait => 0

/-- What `n` octets at hand hold stands if more octets make it `b`: unless it waits, it stays as it
is, and keeps within the octets it had. -/
def Scan.Stands {α : Type} (n : Nat) (a b : Scan α) : Prop := a ≠ .wait → b = a ∧ a.size ≤ n

def Escape.Stands (n : Nat) (a b : Escape) : Prop := a ≠ .wait → b = a ∧ a.size ≤ n

/-- The same of whole tokens. -/
def Lexeme.Stands (n : Nat) (a b : Lexeme) : Prop := a ≠ .wait → b = a ∧ a.size ≤ n

namespace Scan.Stands

variable {α β : Type} {n : Nat} {a b : Scan α}

theorem wait (b : Scan α) : Scan.Stands n .wait b := fun h => absurd rfl h

theorem same (h : a.size ≤ n) : Scan.Stands n a a := fun _ => ⟨rfl, h⟩

theorem mono {m : Nat} (h : Scan.Stands n a b) (hle : n ≤ m) : Scan.Stands m a b :=
  fun hne => ⟨(h hne).1, Nat.le_trans (h hne).2 hle⟩

theorem map (g : α → β) (h : Scan.Stands n a b) : Scan.Stands n (a.map g) (b.map g) := by
  intro hne
  cases a with
  | wait => exact absurd rfl hne
  | done content size =>
    obtain ⟨rfl, hs⟩ := h (by simp)
    exact ⟨rfl, hs⟩
  | fault f size =>
    obtain ⟨rfl, hs⟩ := h (by simp)
    exact ⟨rfl, hs⟩

end Scan.Stands

namespace Escape.Stands

variable {n : Nat} {a b : Escape}

theorem wait (b : Escape) : Escape.Stands n .wait b := fun h => absurd rfl h

theorem same (h : a.size ≤ n) : Escape.Stands n a a := fun _ => ⟨rfl, h⟩

theorem mono {m : Nat} (h : Escape.Stands n a b) (hle : n ≤ m) : Escape.Stands m a b :=
  fun hne => ⟨(h hne).1, Nat.le_trans (h hne).2 hle⟩

end Escape.Stands

namespace Lexeme.Stands

variable {n : Nat} {a b : Lexeme}

theorem wait (b : Lexeme) : Lexeme.Stands n .wait b := fun h => absurd rfl h

theorem same (h : a.size ≤ n) : Lexeme.Stands n a a := fun _ => ⟨rfl, h⟩

theorem mono {m : Nat} (h : Lexeme.Stands n a b) (hle : n ≤ m) : Lexeme.Stands m a b :=
  fun hne => ⟨(h hne).1, Nat.le_trans (h hne).2 hle⟩

end Lexeme.Stands

/-! ## Escapes -/

theorem hexNumber?_append {n : Nat} {bytes : Bytes} (hn : n ≤ bytes.length) (more : Bytes) :
    hexNumber? n ((bytes ++ more).map Char.ofUInt8) = hexNumber? n (bytes.map Char.ofUInt8) := by
  rw [List.map_append]
  exact Hex.read_append (by simpa using hn) _

theorem lexSecondHalf_stands (high : Nat) (bytes more : Bytes) :
    Escape.Stands (5 + bytes.length) (lexSecondHalf high bytes)
      (lexSecondHalf high (bytes ++ more)) := by
  match bytes with
  | [] => exact .wait _
  | [_] => exact .wait _
  | b :: k :: rest =>
    simp only [lexSecondHalf, List.cons_append]
    by_cases hother : (b != octet '\\' || k != octet 'u') = true
    · simp only [if_pos hother]
      exact .same (by simp [Escape.size])
    · simp only [if_neg hother]
      by_cases hshort : (rest.take 4).length < 4
      · rw [if_pos hshort]
        exact .wait _
      · have hlen : 4 ≤ rest.length := by
          simp only [List.length_take] at hshort
          omega
        have hlong : ¬((rest ++ more).take 4).length < 4 := by
          simp only [List.length_take, List.length_append]
          omega
        rw [if_neg hshort, if_neg hlong, hexNumber?_append hlen]
        refine .same ?_
        cases (hexNumber? 4 (rest.map Char.ofUInt8)).bind (surrogatePair? high) with
        | none => simp [Escape.size]
        | some c =>
          simp only [Escape.size, List.length_cons]
          omega

theorem lexEscape_stands (mode : Mode) (letters : Bool) (bytes more : Bytes) :
    Escape.Stands bytes.length (lexEscape mode letters bytes)
      (lexEscape mode letters (bytes ++ more)) := by
  cases bytes with
  | nil => exact .wait _
  | cons k rest =>
    simp only [lexEscape, List.cons_append]
    cases numberEscape? (Char.ofUInt8 k) with
    | none =>
      refine .same ?_
      cases letterEscape? (Char.ofUInt8 k) with
      | none => simp [Escape.size]
      | some c => by_cases hl : letters <;> simp [hl, Escape.size]
    | some n =>
      simp only []
      by_cases hshort : (rest.take n).length < n
      · rw [if_pos hshort]
        exact .wait _
      · have hlen : n ≤ rest.length := by
          simp only [List.length_take] at hshort
          omega
        have hlong : ¬((rest ++ more).take n).length < n := by
          simp only [List.length_take, List.length_append]
          omega
        rw [if_neg hshort, if_neg hlong, List.take_append_of_le_length hlen,
          List.drop_append_of_le_length hlen]
        have hsize : n + 1 ≤ (k :: rest).length := by
          simp only [List.length_cons]
          omega
        cases hexNumber? n ((rest.take n).map Char.ofUInt8) with
        | none => exact .same (a := .fault (n + 1)) hsize
        | some v =>
          simp only []
          cases Hex.scalar? v with
          | some c => exact .same (a := .char c (n + 1)) hsize
          | none =>
            simp only []
            by_cases hpair : (mode = .lenient && n = 4) = true
            · -- what was read so far is the first half, of four digits
              simp only [if_pos hpair]
              have hn : n = 4 := by simpa using (Bool.and_eq_true_iff.1 hpair).2
              refine (lexSecondHalf_stands v (rest.drop n) more).mono ?_
              simp only [List.length_drop, List.length_cons]
              omega
            · simp only [if_neg hpair]
              exact .same hsize

/-! ## Delimited tokens -/

theorem takeWhile_append_of_lt {p : UInt8 → Bool} {bytes : Bytes}
    (h : (bytes.takeWhile p).length < bytes.length) (more : Bytes) :
    (bytes ++ more).takeWhile p = bytes.takeWhile p := by
  rw [List.takeWhile_append, if_neg (by omega)]

/-- An escape that was read is read again before more octets, and leaves the same. -/
theorem lexEscape_append {mode : Mode} {letters : Bool} {bytes : Bytes} {e : Escape}
    (he : lexEscape mode letters bytes = e) (hwait : e ≠ .wait) (more : Bytes) :
    lexEscape mode letters (bytes ++ more) = e ∧ e.size ≤ bytes.length ∧
      (bytes ++ more).drop e.size = bytes.drop e.size ++ more := by
  subst he
  obtain ⟨hsame, hle⟩ := lexEscape_stands mode letters bytes more hwait
  exact ⟨hsame, hle, List.drop_append_of_le_length hle⟩

theorem scanIri_stands (mode : Mode) (size : Nat) (bytes more : Bytes) :
    Scan.Stands (size + bytes.length) (scanIri mode size bytes)
      (scanIri mode size (bytes ++ more)) := by
  fun_induction scanIri mode size bytes with
  | case1 size => exact .wait _
  | case2 size rest =>
    rw [List.cons_append, scanIri, if_pos rfl]
    exact .same (by simp [Scan.size])
  | case3 size rest c n he hend ih =>
    obtain ⟨hsame, hle, hdrop⟩ := lexEscape_append he (by simp) more
    rw [List.cons_append, scanIri, if_neg hend, if_pos rfl, hsame]
    simp only [Escape.size] at hle hdrop ⊢
    rw [hdrop]
    refine (ih.map _).mono ?_
    simp only [List.length_drop, List.length_cons]
    omega
  | case4 size rest n he hend =>
    obtain ⟨hsame, hle, -⟩ := lexEscape_append he (by simp) more
    rw [List.cons_append, scanIri, if_neg hend, if_pos rfl, hsame]
    refine .same ?_
    simp only [Escape.size, Scan.size, List.length_cons] at hle ⊢
    omega
  | case5 size rest he hend => exact .wait _
  | case6 size b rest hend hslash ih =>
    rw [List.cons_append, scanIri, if_neg hend, if_neg hslash]
    refine (ih.map _).mono ?_
    simp only [List.length_cons]
    omega

theorem lexIri_stands (mode : Mode) (rest more : Bytes) :
    Lexeme.Stands (1 + rest.length) (lexIri mode rest) (lexIri mode (rest ++ more)) := by
  have h := scanIri_stands mode 1 rest more
  unfold lexIri
  cases hs : scanIri mode 1 rest with
  | wait => exact .wait _
  | fault f size =>
    rw [hs] at h
    obtain ⟨hsame, hle⟩ := h (by simp)
    rw [hsame]
    exact .same hle
  | done content size =>
    rw [hs] at h
    obtain ⟨hsame, hle⟩ := h (by simp)
    rw [hsame]
    refine .same ?_
    simp only []
    cases Utf8.decode content with
    | error f => exact hle
    | ok cs =>
      simp only []
      split <;> exact hle

theorem faultToQuote_stands (f : Fault) (size : Nat) (bytes more : Bytes) :
    Scan.Stands (size + bytes.length) (faultToQuote f size bytes)
      (faultToQuote f size (bytes ++ more)) := by
  unfold faultToQuote
  by_cases h : (bytes.takeWhile (· != octet '"')).length < bytes.length
  · have hmore : (bytes.takeWhile (· != octet '"')).length < (bytes ++ more).length := by
      simp only [List.length_append]
      omega
    simp only [takeWhile_append_of_lt h, if_pos h, if_pos hmore]
    refine .same ?_
    simp only [Scan.size]
    omega
  · simp only [if_neg h]
    exact .wait _

/-- The reading of a value after a stretch of plain octets and the octet `q` that ends it. -/
theorem scanValue_eq (mode : Mode) (size : Nat) {bytes rest : Bytes} {q : UInt8}
    (h : bytes.drop (bytes.takeWhile isPlainOctet).length = q :: rest) :
    scanValue mode size bytes =
      if mode = .strict && (bytes.takeWhile isPlainOctet).any isLineEnd then
        faultToQuote .lineEndInValue size bytes
      else
        match Utf8.decode (bytes.takeWhile isPlainOctet) with
        | .error _ => .fault .notUtf8 (bytes.takeWhile isPlainOctet).length
        | .ok cs =>
          if q = octet '"' then .done cs (size + (bytes.takeWhile isPlainOctet).length + 1)
          else
            match lexEscape mode true rest with
            | .char c n =>
              (scanValue mode (size + (bytes.takeWhile isPlainOctet).length + 1 + n)
                (rest.drop n)).map (fun ds => cs ++ c :: ds)
            | .fault n =>
              faultToQuote .badEscape (size + (bytes.takeWhile isPlainOctet).length + 1 + n)
                (rest.drop n)
            | .wait => .wait := by
  conv => lhs; rw [scanValue]
  split
  · rename_i h'
    rw [h] at h'
    cases h'
  · rename_i q' rest' h'
    rw [h] at h'
    cases h'
    rfl

theorem stretch_append {bytes rest : Bytes} {q : UInt8}
    (h : bytes.drop (bytes.takeWhile isPlainOctet).length = q :: rest) (more : Bytes) :
    (bytes ++ more).takeWhile isPlainOctet = bytes.takeWhile isPlainOctet ∧
      (bytes ++ more).drop ((bytes ++ more).takeWhile isPlainOctet).length = q :: (rest ++ more) ∧
      bytes.length = (bytes.takeWhile isPlainOctet).length + 1 + rest.length := by
  have hlen := congrArg List.length h
  simp only [List.length_drop, List.length_cons] at hlen
  have hlt : (bytes.takeWhile isPlainOctet).length < bytes.length := by omega
  have hsame := takeWhile_append_of_lt hlt more
  refine ⟨hsame, ?_, by omega⟩
  rw [hsame, List.drop_append_of_le_length (by omega), h, List.cons_append]

theorem scanValue_stands (mode : Mode) (size : Nat) (bytes more : Bytes) :
    Scan.Stands (size + bytes.length) (scanValue mode size bytes)
      (scanValue mode size (bytes ++ more)) := by
  fun_induction scanValue mode size bytes with
  | case1 => exact .wait _
  | case2 size bytes stretch q rest hq hline =>
    obtain ⟨hsame, hrest, -⟩ := stretch_append hq more
    rw [scanValue_eq mode size hrest, hsame, if_pos hline]
    exact faultToQuote_stands _ _ _ _
  | case3 size bytes stretch q rest hq hline f hdecode =>
    obtain ⟨hsame, hrest, hlen⟩ := stretch_append hq more
    rw [scanValue_eq mode size hrest, hsame, if_neg hline, hdecode]
    refine .same ?_
    simp only [Scan.size, stretch]
    omega
  | case4 size bytes stretch rest hline cs hdecode hq =>
    obtain ⟨hsame, hrest, hlen⟩ := stretch_append hq more
    rw [scanValue_eq mode size hrest, hsame, if_neg hline, hdecode]
    simp only [if_true]
    refine .same ?_
    simp only [Scan.size, stretch]
    omega
  | case5 size bytes stretch q rest hq hline cs hdecode hquote c n he ih =>
    obtain ⟨hsame, hrest, hlen⟩ := stretch_append hq more
    obtain ⟨hescape, hle, hdrop⟩ := lexEscape_append he (by simp) more
    rw [scanValue_eq mode size hrest, hsame, if_neg hline, hdecode]
    simp only [Escape.size] at hle hdrop
    simp only [if_neg hquote, hescape, hdrop]
    refine (ih.map _).mono ?_
    simp only [List.length_drop, stretch]
    omega
  | case6 size bytes stretch q rest hq hline cs hdecode hquote n he =>
    obtain ⟨hsame, hrest, hlen⟩ := stretch_append hq more
    obtain ⟨hescape, hle, hdrop⟩ := lexEscape_append he (by simp) more
    rw [scanValue_eq mode size hrest, hsame, if_neg hline, hdecode]
    simp only [Escape.size] at hle hdrop
    simp only [if_neg hquote, hescape, hdrop]
    refine (faultToQuote_stands _ _ _ _).mono ?_
    simp only [List.length_drop, stretch]
    omega
  | case7 => exact .wait _

theorem lexValue_stands (mode : Mode) (rest more : Bytes) :
    Lexeme.Stands (1 + rest.length) (lexValue mode rest) (lexValue mode (rest ++ more)) := by
  have h := scanValue_stands mode 1 rest more
  unfold lexValue
  cases hs : scanValue mode 1 rest with
  | wait => exact .wait _
  | fault f size =>
    rw [hs] at h
    obtain ⟨hsame, hle⟩ := h (by simp)
    rw [hsame]
    exact .same hle
  | done content size =>
    rw [hs] at h
    obtain ⟨hsame, hle⟩ := h (by simp)
    rw [hsame]
    exact .same hle

end NTriples
end RdfExport
