import RdfExport.NTriples.Grammar
import RdfExport.Proofs.NTriples.Enclosed

/-!
# RdfExport.Proofs.NTriples.Lookahead

What octets at hand hold does not change when more octets come, unless it waits for them. Here for
the tokens that end where the next octet cannot extend them, and so for every token.

* `lexNumber_stands`, `scanLocal_stands`, `scanWord_stands`: the tokens of larger languages.
* `scanLabel_stands`, `scanTag_stands`: blank nodes and languages.
* `lexeme_stands`: whatever the octets start with.
* `move_append`: a step that a reader makes is the step it makes before more octets.
-/

namespace RdfExport
namespace NTriples

open Rdf

/-! ## Numbers -/

theorem spanSize_append {p : Char → Bool} {bytes rest : Bytes} {n : Nat} {b : UInt8}
    (h : spanSize p bytes = (n, b :: rest)) (more : Bytes) :
    spanSize p (bytes ++ more) = (n, b :: (rest ++ more)) ∧ bytes.length = n + 1 + rest.length := by
  simp only [spanSize, Prod.mk.injEq] at h ⊢
  obtain ⟨rfl, hdrop⟩ := h
  have hlen := congrArg List.length hdrop
  simp only [List.length_drop, List.length_cons] at hlen
  have hlt : (bytes.takeWhile fun b => p (Char.ofUInt8 b)).length < bytes.length := by omega
  rw [takeWhile_append_of_lt hlt]
  refine ⟨⟨rfl, ?_⟩, by omega⟩
  rw [List.drop_append_of_le_length (by omega), hdrop, List.cons_append]

def signSize (bytes : Bytes) : Nat :=
  if bytes.head?.any (fun b => b = octet '+' || b = octet '-') then 1 else 0

theorem signSize_def (bytes : Bytes) :
    signSize bytes = if bytes.head?.any (fun b => b = octet '+' || b = octet '-') then 1 else 0 :=
  rfl

theorem signSize_append {bytes : Bytes} (h : bytes ≠ []) (more : Bytes) :
    signSize (bytes ++ more) = signSize bytes ∧
      (bytes ++ more).drop (signSize bytes) = bytes.drop (signSize bytes) ++ more ∧
      bytes.length = signSize bytes + (bytes.drop (signSize bytes)).length := by
  cases bytes with
  | nil => exact absurd rfl h
  | cons b rest =>
    have hle : signSize (b :: rest) ≤ (b :: rest).length := by
      simp only [signSize, List.length_cons]
      split <;> omega
    refine ⟨rfl, List.drop_append_of_le_length hle, ?_⟩
    simp only [List.length_drop]
    omega

theorem lexExponent_eq (ended hasDigits : Bool) (size : Nat) (bytes : Bytes) :
    lexExponent ended hasDigits size bytes =
      if bytes.isEmpty ||
          ((spanSize Char.isDigit (bytes.drop (signSize bytes))).2.isEmpty && !ended) then .wait
      else if (spanSize Char.isDigit (bytes.drop (signSize bytes))).1 = 0 || !hasDigits then
        .fault .badNumber
          (size + signSize bytes + (spanSize Char.isDigit (bytes.drop (signSize bytes))).1)
      else .token .foreign
        (size + signSize bytes + (spanSize Char.isDigit (bytes.drop (signSize bytes))).1) := rfl

theorem lexExponent_stands (ended hasDigits : Bool) (size : Nat) (bytes more : Bytes) :
    Lexeme.Stands (size + bytes.length) (lexExponent false hasDigits size bytes)
      (lexExponent ended hasDigits size (bytes ++ more)) := by
  by_cases hnil : bytes = []
  · subst hnil
    exact .wait _
  · obtain ⟨hsign, hdrop, hlen⟩ := signSize_append hnil more
    rw [lexExponent_eq, lexExponent_eq, hsign, hdrop]
    cases hspan : spanSize Char.isDigit (bytes.drop (signSize bytes)) with
    | mk digits rest =>
      cases rest with
      | nil =>
        simp only [List.isEmpty_nil, Bool.not_false, Bool.and_self, Bool.or_true, if_true]
        exact .wait _
      | cons b rest =>
        obtain ⟨hmore, hsize⟩ := spanSize_append hspan more
        have hfull : bytes.isEmpty = false := by simpa using hnil
        have hfull' : (bytes ++ more).isEmpty = false := by simp [hnil]
        simp only [hmore, hfull, hfull', List.isEmpty_cons, Bool.false_and, Bool.or_self]
        refine .same ?_
        simp only [Bool.false_eq_true, if_false]
        split <;> simp only [Lexeme.size] <;> omega

theorem afterDigits_stands (ended hasDigits : Bool) {size n : Nat} {e : UInt8} {tail : Bytes}
    {short : Lexeme} (hn : size + 1 + tail.length ≤ n) (hshort : short.size ≤ n) (more : Bytes) :
    Lexeme.Stands n
      (if e = octet 'e' || e = octet 'E' then lexExponent false hasDigits (size + 1) tail
        else short)
      (if e = octet 'e' || e = octet 'E' then lexExponent ended hasDigits (size + 1) (tail ++ more)
        else short) := by
  by_cases he : (e = octet 'e' || e = octet 'E') = true
  · simp only [if_pos he]
    exact (lexExponent_stands ended hasDigits (size + 1) tail more).mono hn
  · simp only [if_neg he]
    exact .same hshort

theorem lexNumber_stands (ended : Bool) (bytes more : Bytes) :
    Lexeme.Stands bytes.length (lexNumber false bytes) (lexNumber ended (bytes ++ more)) := by
  by_cases hnil : bytes = []
  · subst hnil
    exact .wait _
  · obtain ⟨hsign, hdrop, hlen⟩ := signSize_append hnil more
    cases hspan : spanSize Char.isDigit (bytes.drop (signSize bytes)) with
    | mk whole afterWhole =>
      cases afterWhole with
      | nil =>
        simp only [lexNumber, ← signSize_def, hspan]
        exact .wait _
      | cons b rest =>
        obtain ⟨hmore, hsize⟩ := spanSize_append hspan more
        by_cases hdot : b = octet '.'
        · cases hfraction : spanSize Char.isDigit rest with
          | mk fraction left =>
            cases left with
            | nil =>
              simp only [lexNumber, ← signSize_def, hspan, if_pos hdot, hfraction]
              exact .wait _
            | cons e tail =>
              obtain ⟨hmore', hsize'⟩ := spanSize_append hfraction more
              simp only [lexNumber, ← signSize_def, hsign, hdrop, hspan, hmore, if_pos hdot,
                hfraction, hmore']
              refine afterDigits_stands ended _ (by omega) ?_ more
              split
              · simp only [Lexeme.size]
                omega
              · split <;> simp only [Lexeme.size] <;> omega
        · simp only [lexNumber, ← signSize_def, hsign, hdrop, hspan, hmore, if_neg hdot]
          refine afterDigits_stands ended _ (by omega) ?_ more
          split
          · simp only [Lexeme.size]
            omega
          · split <;> simp only [Lexeme.size] <;> omega

/-! ## Names -/

theorem LocalPart.add_size (p : LocalPart) (c : Char) (n : Nat) :
    (p.add c n).size = p.size + n := by
  unfold add
  split <;> rfl

section

variable {mode : Mode} {ended : Bool} {p : LocalPart} {b : UInt8} {n : Nat}

theorem scanLocal_ill {rest : Bytes} (hh : Utf8.head b rest = .ill n) :
    scanLocal mode ended p (b :: rest) = .fault .notUtf8 (p.size + illSize b n) := by
  rw [scanLocal.eq_def]
  simp only [hh]

theorem scanLocal_percent {x y : UInt8} {tail : Bytes}
    (hh : Utf8.head b (x :: y :: tail) = .char '%' n) :
    scanLocal mode ended p (b :: x :: y :: tail) =
      if isHexPair x y then scanLocal mode ended ⟨p.size + 3, p.chars + 3, 0, 0⟩ tail
      else .fault .badName (p.size + 3) := by
  rw [scanLocal.eq_def]
  simp only [hh, if_true]

theorem scanLocal_escape {x : UInt8} {tail : Bytes}
    (hh : Utf8.head b (x :: tail) = .char '\\' n) :
    scanLocal mode ended p (b :: x :: tail) =
      if mode = .lenient || isLocalEscape (Char.ofUInt8 x) then
        scanLocal mode ended (p.addEscaped x) tail
      else .fault .badName (p.size + 2) := by
  have hne : ¬('\\' = '%') := by decide
  rw [scanLocal.eq_def]
  simp only [hh, if_neg hne, if_true]

theorem scanLocal_plain {rest : Bytes} {c : Char} (hh : Utf8.head b rest = .char c n)
    (hpercent : ¬c = '%') (hslash : ¬c = '\\') :
    scanLocal mode ended p (b :: rest) =
      if
        if p.chars = 0 then isNameStart c || c = ':'
        else isNameChar c || c = '-' || c = ':' || c = '.'
      then scanLocal mode ended (p.add c n) (rest.drop (n - 1))
      else p.stop := by
  rw [scanLocal.eq_def]
  simp only [hh, if_neg hpercent, if_neg hslash]

end

theorem scanLocal_stands (mode : Mode) (ended : Bool) (p : LocalPart) (bytes more : Bytes) :
    Scan.Stands (p.size + bytes.length) (scanLocal mode false p bytes)
      (scanLocal mode ended p (bytes ++ more)) := by
  fun_induction scanLocal mode false p bytes with
  | case1 p hended => cases hended
  | case2 p => exact .wait _
  | case3 p b rest n hhead =>
    rw [List.cons_append, scanLocal_ill (Utf8.head_append hhead (by simp) more)]
    refine .same ?_
    have := Utf8.head_ill_size hhead
    simp only [Scan.size, List.length_cons]
    omega
  | case4 p b rest hhead hended => cases hended
  | case5 p b rest hhead => exact .wait _
  | case6 p b n x y tail hpair hhead ih =>
    obtain ⟨hmore, -, -⟩ := Utf8.head_char_append hhead more
    simp only [List.cons_append] at hmore ⊢
    rw [scanLocal_percent hmore, if_pos hpair]
    refine ih.mono ?_
    simp only [List.length_cons]
    omega
  | case7 p b n x y tail hpair hhead =>
    obtain ⟨hmore, -, -⟩ := Utf8.head_char_append hhead more
    simp only [List.cons_append] at hmore ⊢
    rw [scanLocal_percent hmore, if_neg hpair]
    refine .same ?_
    simp only [Scan.size, List.length_cons]
    omega
  | case8 p b rest n hshort hhead => exact .wait _
  | case9 p b n x tail hallowed hne hhead ih =>
    obtain ⟨hmore, -, -⟩ := Utf8.head_char_append hhead more
    simp only [List.cons_append] at hmore ⊢
    rw [scanLocal_escape hmore, if_pos hallowed]
    refine ih.mono ?_
    simp only [LocalPart.addEscaped, List.length_cons]
    omega
  | case10 p b n x tail hallowed hne hhead =>
    obtain ⟨hmore, -, -⟩ := Utf8.head_char_append hhead more
    simp only [List.cons_append] at hmore ⊢
    rw [scanLocal_escape hmore, if_neg hallowed]
    refine .same ?_
    simp only [Scan.size, List.length_cons]
    omega
  | case11 p b n hne hhead => exact .wait _
  | case12 p b rest c n hhead hpercent hslash hchar ih =>
    obtain ⟨hmore, hdrop, hlen⟩ := Utf8.head_char_append hhead more
    rw [dite_eq_ite] at hchar
    rw [List.cons_append, scanLocal_plain hmore hpercent hslash, if_pos hchar, hdrop]
    refine ih.mono ?_
    rw [LocalPart.add_size]
    omega
  | case13 p b rest c n hhead hpercent hslash hchar =>
    obtain ⟨hmore, -, -⟩ := Utf8.head_char_append hhead more
    rw [dite_eq_ite] at hchar
    rw [List.cons_append, scanLocal_plain hmore hpercent hslash, if_neg hchar]
    refine .same ?_
    simp only [LocalPart.stop, Scan.size, List.length_cons]
    omega

/-- A token made of the octets before it and the part of a name. -/
theorem lexLocal_stands (mode : Mode) (ended : Bool) (size : Nat) (rest more : Bytes) :
    Lexeme.Stands (size + rest.length) (lexLocal mode false size rest)
      (lexLocal mode ended size (rest ++ more)) := by
  have h := scanLocal_stands mode ended (.start size) rest more
  unfold lexLocal
  cases hs : scanLocal mode false (.start size) rest with
  | wait => exact .wait _
  | fault f n =>
    rw [hs] at h
    obtain ⟨hsame, hle⟩ := h (by simp)
    rw [hsame]
    exact .same hle
  | done chars n =>
    rw [hs] at h
    obtain ⟨hsame, hle⟩ := h (by simp)
    rw [hsame]
    exact .same hle

theorem lexVariable_stands (mode : Mode) (ended : Bool) (rest more : Bytes) :
    Lexeme.Stands (1 + rest.length) (lexVariable mode false rest)
      (lexVariable mode ended (rest ++ more)) := by
  have h := scanLocal_stands mode ended (.start 1) rest more
  unfold lexVariable
  cases hs : scanLocal mode false (.start 1) rest with
  | wait => exact .wait _
  | fault f n =>
    rw [hs] at h
    obtain ⟨hsame, hle⟩ := h (by simp)
    rw [hsame]
    exact .same hle
  | done chars n =>
    rw [hs] at h
    obtain ⟨hsame, hle⟩ := h (by simp)
    rw [hsame]
    refine .same ?_
    simp only []
    split <;> exact hle

section

variable {mode : Mode} {ended : Bool} {size dots : Nat} {b : UInt8} {rest : Bytes}

theorem scanWord_ill {n : Nat} (hh : Utf8.head b rest = .ill n) :
    scanWord mode ended size dots (b :: rest) = .fault .notUtf8 (size + illSize b n) := by
  rw [scanWord.eq_def]
  simp only [hh]

theorem scanWord_char {c : Char} {n : Nat} (hh : Utf8.head b rest = .char c n) :
    scanWord mode ended size dots (b :: rest) =
      if c = ':' then
        if 0 < dots then .fault .badName (size + n)
        else lexLocal mode ended (size + n) (rest.drop (n - 1))
      else if size = 0 then
        if isNameBase c then scanWord mode ended n 0 (rest.drop (n - 1))
        else .fault (.unexpectedOctet b) n
      else if isNameChar c || c = '-' then scanWord mode ended (size + n) 0 (rest.drop (n - 1))
      else if c = '.' then scanWord mode ended (size + n) (dots + 1) (rest.drop (n - 1))
      else .token .foreign (size - dots) := by
  rw [scanWord.eq_def]
  simp only [hh]

end

theorem scanWord_stands (mode : Mode) (ended : Bool) (size dots : Nat) (bytes more : Bytes) :
    Lexeme.Stands (size + bytes.length) (scanWord mode false size dots bytes)
      (scanWord mode ended size dots (bytes ++ more)) := by
  fun_induction scanWord mode false size dots bytes with
  | case1 size dots hended => cases hended
  | case2 size dots => exact .wait _
  | case3 size dots b rest n hhead =>
    rw [List.cons_append, scanWord_ill (Utf8.head_append hhead (by simp) more)]
    refine .same ?_
    have := Utf8.head_ill_size hhead
    simp only [Lexeme.size, List.length_cons]
    omega
  | case4 size dots b rest hhead => exact .wait _
  | case5 dots b rest hhead hended => exact absurd rfl hended
  | case6 size dots b rest hhead hended => exact absurd rfl hended
  | case7 size dots b rest n hdots hhead =>
    obtain ⟨hmore, -, hlen⟩ := Utf8.head_char_append hhead more
    rw [List.cons_append, scanWord_char hmore, if_pos rfl, if_pos hdots]
    refine .same ?_
    simp only [Lexeme.size]
    omega
  | case8 size dots b rest n hdots hhead =>
    obtain ⟨hmore, hdrop, hlen⟩ := Utf8.head_char_append hhead more
    rw [List.cons_append, scanWord_char hmore, if_pos rfl, if_neg hdots, hdrop]
    exact (lexLocal_stands mode ended (size + n) _ more).mono (by omega)
  | case9 dots b rest c n hhead hcolon hbase ih =>
    obtain ⟨hmore, hdrop, hlen⟩ := Utf8.head_char_append hhead more
    rw [List.cons_append, scanWord_char hmore, if_neg hcolon, if_pos rfl, if_pos hbase, hdrop]
    exact ih.mono (by omega)
  | case10 dots b rest c n hhead hcolon hbase =>
    obtain ⟨hmore, -, hlen⟩ := Utf8.head_char_append hhead more
    rw [List.cons_append, scanWord_char hmore, if_neg hcolon, if_pos rfl, if_neg hbase]
    refine .same ?_
    simp only [Lexeme.size]
    omega
  | case11 size dots b rest c n hhead hcolon hsize hname ih =>
    obtain ⟨hmore, hdrop, hlen⟩ := Utf8.head_char_append hhead more
    rw [List.cons_append, scanWord_char hmore, if_neg hcolon, if_neg hsize, if_pos hname, hdrop]
    exact ih.mono (by omega)
  | case12 size dots b rest n hsize hhead hcolon hname ih =>
    obtain ⟨hmore, hdrop, hlen⟩ := Utf8.head_char_append hhead more
    rw [List.cons_append, scanWord_char hmore, if_neg hcolon, if_neg hsize, if_neg hname,
      if_pos rfl, hdrop]
    exact ih.mono (by omega)
  | case13 size dots b rest c n hhead hcolon hsize hname hdot =>
    obtain ⟨hmore, -, hlen⟩ := Utf8.head_char_append hhead more
    rw [List.cons_append, scanWord_char hmore, if_neg hcolon, if_neg hsize, if_neg hname,
      if_neg hdot]
    refine .same ?_
    simp only [Lexeme.size]
    omega

/-! ## Brackets -/

theorem lexOpening_stands (rest more : Bytes) :
    Lexeme.Stands (1 + rest.length) (lexOpening rest) (lexOpening (rest ++ more)) := by
  match rest with
  | [] => exact .wait _
  | [_] => exact .wait _
  | a :: c :: tail =>
    refine .same (a := .token .foreign (if c = octet '(' then 3 else 2)) ?_
    simp only [Lexeme.size, List.length_cons]
    split <;> omega

theorem lexPair_stands (second : Char) (rest more : Bytes) :
    Lexeme.Stands (1 + rest.length) (lexPair second rest) (lexPair second (rest ++ more)) := by
  cases rest with
  | nil => exact .wait _
  | cons c tail =>
    refine .same (a := .token .foreign (if c = octet second then 2 else 1)) ?_
    simp only [Lexeme.size, List.length_cons]
    split <;> omega

theorem lexClosing_stands (rest more : Bytes) :
    Lexeme.Stands (1 + rest.length) (lexClosing rest) (lexClosing (rest ++ more)) := by
  match rest with
  | [] => exact .wait _
  | [c] =>
    simp only [lexClosing, List.cons_append]
    by_cases hc : (c != octet '>') = true
    · simp only [if_pos hc]
      exact .same (by simp [Lexeme.size])
    · simp only [if_neg hc]
      exact .wait _
  | c :: d :: tail =>
    simp only [lexClosing, List.cons_append]
    refine .same ?_
    simp only [List.length_cons]
    split
    · simp only [Lexeme.size]
      omega
    · simp only [Lexeme.size]
      split <;> omega

theorem lexForeign_stands (mode : Mode) (ended : Bool) (b : UInt8) (rest more : Bytes) :
    Lexeme.Stands (1 + rest.length) (lexForeign mode false b rest)
      (lexForeign mode ended b (rest ++ more)) := by
  have hlen : (b :: rest).length ≤ 1 + rest.length := by
    simp only [List.length_cons]
    omega
  simp only [lexForeign]
  split
  · exact (lexNumber_stands ended (b :: rest) more).mono hlen
  split
  · exact lexVariable_stands mode ended rest more
  split
  · exact lexPair_stands _ rest more
  split
  · exact lexClosing_stands rest more
  split
  · exact lexPair_stands _ rest more
  split
  · exact lexPair_stands _ rest more
  split
  · exact lexPair_stands _ rest more
  split
  · exact .same (by simp only [Lexeme.size]; omega)
  · refine (scanWord_stands mode ended 0 0 (b :: rest) more).mono ?_
    omega

/-! ## Blank nodes and languages -/

theorem labelToken_size (label : Bytes) (size : Nat) :
    (labelToken (label.take size)).size ≤ 2 + label.length := by
  simp only [labelToken, Lexeme.size, List.length_take]
  omega

section

variable {ended : Bool} {label : Bytes} {size : Nat} {b : UInt8} {rest : Bytes}

theorem scanLabel_ill {n : Nat} (hh : Utf8.head b rest = .ill n) :
    scanLabel ended label size (b :: rest) = .fault .notUtf8 (2 + size + illSize b n) := by
  rw [scanLabel.eq_def]
  simp only [hh]

theorem scanLabel_char {c : Char} {n : Nat} (hh : Utf8.head b rest = .char c n) :
    scanLabel ended label size (b :: rest) =
      if (if size = 0 then isNameStart c else isLabelChar c) then
        scanLabel ended label (size + n) (rest.drop (n - 1))
      else if size = 0 then .fault .badLabel 2 else labelToken (label.take size) := by
  rw [scanLabel.eq_def]
  simp only [hh]

end

theorem scanLabel_stands (ended : Bool) (label : Bytes) (size : Nat) (bytes more : Bytes)
    (hlabel : size + bytes.length = label.length) :
    Lexeme.Stands (2 + label.length) (scanLabel false label size bytes)
      (scanLabel ended (label ++ more) size (bytes ++ more)) := by
  fun_induction scanLabel false label size bytes with
  | case1 => exact .wait _
  | case2 hended => exact absurd rfl hended
  | case3 size hended => exact absurd rfl hended
  | case4 size b rest c n hhead hchar ih =>
    obtain ⟨hmore, hdrop, hlen⟩ := Utf8.head_char_append hhead more
    rw [dite_eq_ite] at hchar
    rw [List.cons_append, scanLabel_char hmore, if_pos hchar, hdrop]
    exact ih (by omega)
  | case5 b rest c n hhead hchar =>
    obtain ⟨hmore, -, hlen⟩ := Utf8.head_char_append hhead more
    rw [dite_eq_ite] at hchar
    rw [List.cons_append, scanLabel_char hmore, if_neg hchar, if_pos rfl]
    exact .same (by simp [Lexeme.size])
  | case6 size b rest c n hhead hchar hsize =>
    obtain ⟨hmore, -, hlen⟩ := Utf8.head_char_append hhead more
    rw [dite_eq_ite] at hchar
    rw [List.cons_append, scanLabel_char hmore, if_neg hchar, if_neg hsize,
      List.take_append_of_le_length (by omega)]
    exact .same (labelToken_size label size)
  | case7 size b rest n hhead =>
    rw [List.cons_append, scanLabel_ill (Utf8.head_append hhead (by simp) more)]
    refine .same ?_
    have := Utf8.head_ill_size hhead
    simp only [Lexeme.size, List.length_cons] at hlabel ⊢
    omega
  | case8 => exact .wait _
  | case9 b rest hhead hended => exact absurd rfl hended
  | case10 size b rest hhead hended => exact absurd rfl hended

theorem tagToken_size (mode : Mode) (tag : Bytes) (size : Nat) :
    (tagToken mode tag size).size = size + 1 := by
  simp only [tagToken]
  split <;> rfl

theorem scanDirection_stands (size : Nat) (rest more : Bytes) :
    Lexeme.Stands (size + rest.length) (scanDirection size rest)
      (scanDirection size (rest ++ more)) := by
  simp only [scanDirection]
  by_cases h : (rest.takeWhile fun b => (Char.ofUInt8 b).isAlpha).length < rest.length
  · have hmore :
        (rest.takeWhile fun b => (Char.ofUInt8 b).isAlpha).length < (rest ++ more).length := by
      simp only [List.length_append]
      omega
    rw [takeWhile_append_of_lt h, if_pos h, if_pos hmore]
    refine .same ?_
    simp only [Lexeme.size]
    omega
  · rw [if_neg h]
    exact .wait _

theorem scanTag_cons (mode : Mode) (tag : Bytes) (size : Nat) (first filled : Bool) (b : UInt8)
    (rest : Bytes) :
    scanTag mode tag size first filled (b :: rest) =
      if (Char.ofUInt8 b).isAlpha || (!first && (Char.ofUInt8 b).isDigit) then
        scanTag mode tag (size + 1) first true rest
      else if size = 0 then .fault (.badTag "") 1
      else if filled && Char.ofUInt8 b = '-' then scanTag mode tag (size + 1) false false rest
      else if filled then tagToken mode (tag.take size) size
      else if Char.ofUInt8 b = '-' then scanDirection (size + 2) rest
      else tagToken mode (tag.take (size - 1)) (size - 1) := rfl

theorem scanTag_stands (mode : Mode) (tag : Bytes) (size : Nat) (first filled : Bool)
    (bytes more : Bytes) (htag : size + bytes.length = tag.length) :
    Lexeme.Stands (1 + tag.length) (scanTag mode tag size first filled bytes)
      (scanTag mode (tag ++ more) size first filled (bytes ++ more)) := by
  fun_induction scanTag mode tag size first filled bytes with
  | case1 => exact .wait _
  | case2 size first filled b rest c hletter ih =>
    rw [List.cons_append, scanTag_cons, if_pos hletter]
    simp only [List.length_cons] at htag
    exact ih (by omega)
  | case3 first filled b rest c hletter =>
    rw [List.cons_append, scanTag_cons, if_neg hletter, if_pos rfl]
    exact .same (by simp [Lexeme.size])
  | case4 size first filled b rest c hletter hsize hhyphen ih =>
    rw [List.cons_append, scanTag_cons, if_neg hletter, if_neg hsize, if_pos hhyphen]
    simp only [List.length_cons] at htag
    exact ih (by omega)
  | case5 size first b rest c hletter hsize hhyphen =>
    rw [List.cons_append, scanTag_cons, if_neg hletter, if_neg hsize, if_neg hhyphen, if_pos rfl,
      List.take_append_of_le_length (by omega)]
    refine .same ?_
    rw [tagToken_size]
    omega
  | case6 size first filled b rest c hletter hsize hhyphen hfilled hsecond =>
    rw [List.cons_append, scanTag_cons, if_neg hletter, if_neg hsize, if_neg hhyphen,
      if_neg hfilled, if_pos hsecond]
    refine (scanDirection_stands (size + 2) rest more).mono ?_
    simp only [List.length_cons] at htag
    omega
  | case7 size first filled b rest c hletter hsize hhyphen hfilled hsecond =>
    rw [List.cons_append, scanTag_cons, if_neg hletter, if_neg hsize, if_neg hhyphen,
      if_neg hfilled, if_neg hsecond, List.take_append_of_le_length (by omega)]
    refine .same ?_
    rw [tagToken_size]
    omega

/-! ## Line ends -/

theorem lineEnd?_none {b : UInt8} {rest : Bytes} (h : lineEnd? false (b :: rest) = none)
    (ended : Bool) (rest' : Bytes) : lineEnd? ended (b :: rest') = none := by
  simp only [lineEnd?] at h ⊢
  by_cases hlf : b = octet '\n'
  · rw [if_pos hlf] at h
    cases h
  · rw [if_neg hlf] at h ⊢
    by_cases hcr : b = octet '\r'
    · rw [if_pos hcr] at h
      cases rest <;> cases h
    · rw [if_neg hcr]

theorem lineEnd?_some {b : UInt8} {rest : Bytes} {l : Lexeme}
    (h : lineEnd? false (b :: rest) = some l) (ended : Bool) (more : Bytes) :
    ∃ l', lineEnd? ended (b :: (rest ++ more)) = some l' ∧
      Lexeme.Stands (1 + rest.length) l l' := by
  simp only [lineEnd?] at h ⊢
  by_cases hlf : b = octet '\n'
  · rw [if_pos hlf] at h ⊢
    cases h
    exact ⟨_, rfl, .same (by simp [Lexeme.size])⟩
  · rw [if_neg hlf] at h ⊢
    by_cases hcr : b = octet '\r'
    · rw [if_pos hcr] at h ⊢
      cases rest with
      | nil =>
        cases h
        cases more with
        | nil => exact ⟨_, rfl, .wait _⟩
        | cons c more => exact ⟨_, rfl, .wait _⟩
      | cons c rest =>
        cases h
        refine ⟨_, rfl, .same ?_⟩
        simp only [Lexeme.size, List.length_cons]
        split <;> omega
    · rw [if_neg hcr] at h
      cases h

theorem lexComment_stands (ended : Bool) (rest more : Bytes) :
    Lexeme.Stands (1 + rest.length) (lexComment false rest) (lexComment ended (rest ++ more)) := by
  simp only [lexComment, Nat.add_sub_cancel_left]
  cases hdrop : rest.drop (rest.takeWhile (!isLineEnd ·)).length with
  | nil => exact .wait _
  | cons b tail =>
    have hlen := congrArg List.length hdrop
    simp only [List.length_drop, List.length_cons] at hlen
    have hlt : (rest.takeWhile (!isLineEnd ·)).length < rest.length := by omega
    rw [takeWhile_append_of_lt hlt, List.drop_append_of_le_length (by omega), hdrop,
      List.cons_append]
    cases hl : lineEnd? false (b :: tail) with
    | none => exact .wait _
    | some l =>
      obtain ⟨l', hl', hstands⟩ := lineEnd?_some hl ended more
      rw [hl']
      by_cases hwait : l = .wait
      · subst hwait
        exact .wait _
      · obtain ⟨rfl, hle⟩ := hstands hwait
        cases l' <;> refine .same ?_ <;> simp only [Lexeme.size] at hle ⊢ <;> omega

/-! ## Whatever comes -/

theorem lexeme_stands (mode : Mode) (ended : Bool) (b : UInt8) (rest more : Bytes) :
    Lexeme.Stands (1 + rest.length) (lexeme mode false b rest)
      (lexeme mode ended b (rest ++ more)) := by
  unfold lexeme
  cases hl : lineEnd? false (b :: rest) with
  | some l =>
    obtain ⟨l', hl', hstands⟩ := lineEnd?_some hl ended more
    rw [hl']
    exact hstands
  | none =>
    rw [lineEnd?_none hl]
    simp only []
    split
    · exact lexComment_stands ended rest more
    · exact lexValue_stands mode rest more
    · exact scanTag_stands mode rest 0 true false rest more (by omega)
    · cases rest with
      | nil => exact .wait _
      | cons c tail =>
        simp only [List.cons_append]
        split
        · exact lexOpening_stands (c :: tail) more
        · exact lexIri_stands mode (c :: tail) more
    · cases rest with
      | nil => exact .wait _
      | cons c label =>
        simp only [List.cons_append]
        split
        · refine (scanLabel_stands ended label 0 label more (by omega)).mono ?_
          simp only [List.length_cons]
          omega
        · exact .same (by simp only [Lexeme.size]; omega)
    · cases rest with
      | nil => exact .wait _
      | cons c tail =>
        simp only [List.cons_append]
        split
        · refine (lexNumber_stands ended (b :: c :: tail) more).mono ?_
          simp only [List.length_cons]
          omega
        · exact .same (by simp only [Lexeme.size]; omega)
    · cases rest with
      | nil => exact .wait _
      | cons c tail =>
        simp only [List.cons_append]
        split
        · exact .same (by simp only [Lexeme.size, List.length_cons]; omega)
        · exact .same (by simp only [Lexeme.size]; omega)
    · exact lexForeign_stands mode ended b rest more

/-- A step that a reader makes is the step it makes before more octets. It is done with no more
than the octets at hand. -/
theorem move_append {mode : Mode} {expect e : Option Expect} {b : UInt8} {rest : Bytes}
    {size : Nat} {statement : Option Triple} {faults : List Fault}
    (h : move mode false expect b rest = .step size e statement faults) (ended : Bool)
    (more : Bytes) :
    move mode ended expect b (rest ++ more) = .step size e statement faults ∧
      size ≤ 1 + rest.length := by
  unfold move at h ⊢
  by_cases hblank : (b = octet ' ' || b = octet '\t') = true
  · simp only [if_pos hblank] at h ⊢
    cases h
    exact ⟨rfl, by omega⟩
  · simp only [if_neg hblank] at h ⊢
    have hstands := lexeme_stands mode ended b rest more
    cases hl : lexeme mode false b rest with
    | wait =>
      rw [hl] at h
      cases h
    | token t n | lineEnd n =>
      obtain ⟨hsame, hle⟩ := hstands (by simp [hl])
      rw [hsame]
      rw [hl] at h hle ⊢
      refine ⟨h, ?_⟩
      cases expect <;> cases h <;> exact hle
    | comment n | fault f n =>
      obtain ⟨hsame, hle⟩ := hstands (by simp [hl])
      rw [hsame]
      rw [hl] at h hle ⊢
      refine ⟨h, ?_⟩
      cases h
      exact hle

end NTriples
end RdfExport
