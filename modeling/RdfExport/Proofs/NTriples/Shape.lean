import Mathlib.Data.List.Induction
import RdfExport.Proofs.NTriples.Printed

/-!
# RdfExport.Proofs.NTriples.Shape

What the tokens are like that a reader takes in. Labels and languages have a shape in either mode;
IRIs and languages are well-formed where the reader is strict, and anything where it is lenient.

* `Token.IsShaped`: the shape of a token.
* `Lexeme.Shaped`: that what octets start with is no token, or a token of that shape.
* `scanLabel_shaped`, `scanTag_shaped`: labels and languages, by what was read of them so far.
* `lexeme_shaped`: every token.
-/

namespace RdfExport
namespace NTriples

open Rdf

def Token.IsShaped (mode : Mode) : Token → Prop
  | .iri i => mode = .strict → i.isWellFormed = true
  | .blank b => b.IsLegible
  | .tag t => IsLegibleTag mode t
  | _ => True

/-- That octets start with a token of the right shape, if they start with a token. -/
def Lexeme.Shaped (mode : Mode) (l : Lexeme) : Prop := ∀ t n, l = .token t n → t.IsShaped mode

namespace Lexeme.Shaped

variable {mode : Mode}

theorem token {t : Token} {n : Nat} (h : t.IsShaped mode) : (Lexeme.token t n).Shaped mode := by
  intro t' n' heq
  cases heq
  exact h

theorem fault {f : Fault} {n : Nat} : (Lexeme.fault f n).Shaped mode := by
  intro t n heq
  cases heq

theorem wait : Lexeme.wait.Shaped mode := by
  intro t n heq
  cases heq

theorem ite {p : Prop} [Decidable p] {a b : Lexeme} (ha : p → a.Shaped mode)
    (hb : ¬p → b.Shaped mode) : (if p then a else b).Shaped mode := by
  split
  · exact ha ‹_›
  · exact hb ‹_›

end Lexeme.Shaped

/-! ## Labels -/

/-- Dots at the end of a text, and what stands before them. -/
theorem exists_dots (cs : List Char) :
    ∃ init n, cs = init ++ List.replicate n '.' ∧ init.getLast? ≠ some '.' := by
  induction cs using List.reverseRecOn with
  | nil => exact ⟨[], 0, rfl, by simp⟩
  | append_singleton cs c ih =>
    by_cases hc : c = '.'
    · obtain ⟨init, n, rfl, hlast⟩ := ih
      refine ⟨init, n + 1, ?_, hlast⟩
      rw [hc, List.replicate_succ', List.append_assoc]
    · exact ⟨cs ++ [c], 0, by simp, by simpa using hc⟩

theorem encode_dots (n : Nat) :
    Utf8.encode (List.replicate n '.') = List.replicate n (octet '.') := by
  rw [Utf8.encode_ascii, List.map_replicate]
  intro c hc
  rw [List.eq_of_mem_replicate hc]
  decide

theorem labelToken_dots {cs : List Char} (hcs : cs ≠ []) (hdot : cs.getLast? ≠ some '.') (n : Nat) :
    labelToken (Utf8.encode (cs ++ List.replicate n '.')) =
      .token (.blank ⟨String.ofList cs⟩) (2 + (Utf8.encode cs).length) := by
  have htrailing : trailingDots (Utf8.encode (cs ++ List.replicate n '.')) = n := by
    have hnone := trailingDots_encode hcs hdot
    rw [trailingDots] at hnone ⊢
    rw [Utf8.encode_append, encode_dots, List.reverse_append, List.reverse_replicate,
      List.takeWhile_append_of_pos (by simp), List.length_append, hnone, List.length_replicate,
      Nat.add_zero]
  have htake : (Utf8.encode (cs ++ List.replicate n '.')).take
      ((Utf8.encode (cs ++ List.replicate n '.')).length - n) = Utf8.encode cs := by
    rw [Utf8.encode_append, encode_dots, List.length_append, List.length_replicate,
      Nat.add_sub_cancel, List.take_left]
  rw [labelToken, htrailing]
  simp only [htake, Utf8.decodeLossy_encode]

theorem isBlankNodeChar_of_isLabelChar {c : Char} (h : isLabelChar c = true) :
    isBlankNodeChar c = true ∧ c ≠ ':' := by
  constructor
  · simp only [isLabelChar, isBlankNodeChar, Bool.or_eq_true, decide_eq_true_eq] at h ⊢
    rcases h with (h | h) | h
    · exact .inl (.inl (.inl h))
    · exact .inl (.inr h)
    · exact .inr h
  · rintro rfl
    revert h
    decide

/-- What may be read of a label so far: nothing, or a character that starts one and others. -/
def IsLabelStart (cs : List Char) : Prop :=
  (∀ c ∈ cs, isLabelChar c = true) ∧ ∀ c ∈ cs.head?, isNameStart c = true

theorem IsLabelStart.append {cs : List Char} (h : IsLabelStart cs) {c : Char}
    (hc : (if cs = [] then isNameStart c else isLabelChar c) = true) :
    IsLabelStart (cs ++ [c]) := by
  cases cs with
  | nil =>
    have hstart : isNameStart c = true := hc
    refine ⟨fun x hx => ?_, fun x hx => ?_⟩
    · rw [List.mem_singleton.1 hx]
      simp [isLabelChar, isNameChar, hstart]
    · cases hx
      exact hstart
  | cons d cs =>
    rw [if_neg (List.cons_ne_nil _ _)] at hc
    refine ⟨fun x hx => ?_, h.2⟩
    rcases List.mem_append.1 hx with hx | hx
    · exact h.1 x hx
    · rwa [List.mem_singleton.1 hx]

theorem IsLabelStart.shaped {cs : List Char} (h : IsLabelStart cs) (hcs : cs ≠ []) (mode : Mode) :
    (labelToken (Utf8.encode cs)).Shaped mode := by
  obtain ⟨init, n, rfl, hdot⟩ := exists_dots cs
  cases init with
  | nil =>
    cases n with
    | zero => exact absurd rfl hcs
    | succ n =>
      have hfirst := h.2 '.' rfl
      cases hfirst
  | cons c init =>
    rw [labelToken_dots (List.cons_ne_nil _ _) hdot]
    have hchars : ∀ x ∈ c :: init, isLabelChar x = true := fun x hx =>
      h.1 x (List.mem_append_left _ hx)
    have hfirst : isNameStart c = true := h.2 c rfl
    refine .token ⟨?_, ?_⟩
    · have hrest : init.all isBlankNodeChar = true := List.all_eq_true.2 fun x hx =>
        (isBlankNodeChar_of_isLabelChar (hchars x (List.mem_cons_of_mem _ hx))).1
      rw [BlankNode.isWellFormed, String.toList_ofList, isBlankNodeId, hfirst, hrest, Bool.true_or,
        Bool.and_true, Bool.true_and]
      exact bne_iff_ne.2 hdot
    · rw [String.toList_ofList]
      intro hcolon
      exact (isBlankNodeChar_of_isLabelChar (hchars _ hcolon)).2 rfl

/-- A label is read from the characters `cs`, which are read already, on. -/
theorem scanLabel_shaped (mode : Mode) (ended : Bool) (cs : List Char) (bytes : Bytes)
    (h : IsLabelStart cs) :
    (scanLabel ended (Utf8.encode cs ++ bytes) (Utf8.encode cs).length bytes).Shaped mode := by
  have hstop : cs ≠ [] →
      (labelToken ((Utf8.encode cs ++ bytes).take (Utf8.encode cs).length)).Shaped mode := by
    intro hcs
    rw [List.take_left]
    exact h.shaped hcs mode
  have hsize : (Utf8.encode cs).length = 0 ↔ cs = [] := by
    constructor
    · intro hlength
      by_contra hcs
      exact Utf8.encode_ne_nil hcs (List.eq_nil_of_length_eq_zero hlength)
    · rintro rfl
      rfl
  have hend : Lexeme.Shaped mode (if (Utf8.encode cs).length = 0 then .fault .badLabel 2
      else labelToken ((Utf8.encode cs ++ bytes).take (Utf8.encode cs).length)) :=
    .ite (fun _ => .fault) fun hne => hstop fun hcs => hne (hsize.2 hcs)
  match bytes with
  | [] =>
    rw [scanLabel]
    exact .ite (fun _ => .wait) fun _ => hend
  | b :: rest =>
    cases hhead : Utf8.head b rest with
    | ill n =>
      rw [scanLabel_ill hhead]
      exact .fault
    | cut =>
      rw [scanLabel.eq_def]
      simp only [hhead]
      exact .ite (fun _ => .wait) fun _ => hend
    | char c n =>
      rw [scanLabel_char hhead]
      refine .ite (fun hc => ?_) fun _ => hend
      obtain ⟨bs, henc, rfl, hrest⟩ := Utf8.encodeChar_of_head hhead
      have hnext := scanLabel_shaped mode ended (cs ++ [c]) (rest.drop (bs.length + 1 - 1))
        (h.append (by simpa only [hsize] using hc))
      have hone : Utf8.encode [c] = b :: bs := by
        rw [Utf8.encode_cons, henc, Utf8.encode_nil, List.append_nil]
      rw [Utf8.encode_append, hone, List.append_assoc, List.cons_append, ← hrest,
        List.length_append, List.length_cons] at hnext
      exact hnext
  termination_by bytes.length
  decreasing_by
    simp only [List.length_drop, List.length_cons]
    omega

/-! ## Languages -/

def lowered (b : UInt8) : Char := (Char.ofUInt8 b).toLower

theorem toLower_ascii {n : Nat} (h : n < 128) :
    ((Char.ofNat n).isAlpha = true → (Char.ofNat n).toLower.isAlpha = true) ∧
      ((Char.ofNat n).isDigit = true → (Char.ofNat n).toLower = Char.ofNat n) := by
  have hall : ∀ n < 128,
      ((Char.ofNat n).isAlpha = true → (Char.ofNat n).toLower.isAlpha = true) ∧
        ((Char.ofNat n).isDigit = true → (Char.ofNat n).toLower = Char.ofNat n) := by
    decide
  exact hall n h

theorem isAlpha_toLower {c : Char} (h : c.isAlpha = true) : c.toLower.isAlpha = true := by
  have hascii := (isAlphanum_range (c := c) (by simp [Char.isAlphanum, h])).2
  have hlower := (toLower_ascii hascii).1
  rw [Char.ofNat_toNat] at hlower
  exact hlower h

theorem toLower_of_isDigit {c : Char} (h : c.isDigit = true) : c.toLower = c := by
  have hascii := (isAlphanum_range (c := c) (by simp [Char.isAlphanum, h])).2
  have hlower := (toLower_ascii hascii).2
  rw [Char.ofNat_toNat] at hlower
  exact hlower h

theorem splitOn_of_not_mem {cs : List Char} (h : '-' ∉ cs) : cs.splitOn '-' = [cs] := by
  have hone := @List.splitOn_intercalate Char [cs] _ _ '-' (by simpa using h) (by simp)
  rwa [List.intercalate_singleton] at hone

theorem hyphen_not_mem {p : Char → Bool} (hp : p '-' = false) {cs : List Char}
    (h : cs.all p = true) : '-' ∉ cs := by
  intro hmem
  have hchar := List.all_eq_true.1 h _ hmem
  rw [hp] at hchar
  cases hchar

theorem areTagBlocks_append {cs block : List Char} (h : areTagBlocks (cs.splitOn '-') = true)
    (hblock : isTagBlock block = true) :
    areTagBlocks ((cs ++ '-' :: block).splitOn '-') = true := by
  have hchars := hblock
  rw [isTagBlock, Bool.and_eq_true] at hchars
  have hsplit : (cs ++ '-' :: block).splitOn '-' = cs.splitOn '-' ++ [block] := by
    rw [← splitOn_of_not_mem (hyphen_not_mem (by decide) hchars.2)]
    exact List.splitOnP_append_cons cs block (by simp)
  rw [hsplit]
  cases hfirst : cs.splitOn '-' with
  | nil => simp [hfirst, areTagBlocks] at h
  | cons first rest =>
    simp only [hfirst, areTagBlocks, Bool.and_eq_true] at h
    simp only [List.cons_append, areTagBlocks, List.all_append, List.all_cons, List.all_nil,
      hblock, h, Bool.and_self]

theorem areTagBlocks_letters {cs : List Char} (hcs : cs ≠ []) (h : cs.all Char.isAlpha = true) :
    areTagBlocks (cs.splitOn '-') = true := by
  rw [splitOn_of_not_mem (hyphen_not_mem (by decide) h), areTagBlocks, h]
  simp [hcs]

/-- What is read of a language so far, in lowercase: nothing, letters, or blocks and a hyphen, and
perhaps a part of the next block. `first` says that the first block is being read and `filled` that
there is something in the last one. -/
inductive TagRead : Bool → Bool → List Char → Prop
  | start : TagRead true false []
  | letters {cs : List Char} (hcs : cs ≠ []) (h : cs.all Char.isAlpha = true) :
    TagRead true true cs
  | hyphen {cs : List Char} (h : areTagBlocks (cs.splitOn '-') = true) :
    TagRead false false (cs ++ ['-'])
  | block {cs block : List Char} (h : areTagBlocks (cs.splitOn '-') = true)
    (hblock : isTagBlock block = true) : TagRead false true (cs ++ '-' :: block)

theorem TagRead.letter {first filled : Bool} {cs : List Char} (h : TagRead first filled cs)
    {c : Char} (hc : (c.isAlpha || (!first && c.isDigit)) = true) :
    TagRead first true (cs ++ [c.toLower]) := by
  have hblock : (!first) = true → c.toLower.isAlphanum = true := by
    intro hfirst
    rw [hfirst, Bool.true_and, Bool.or_eq_true] at hc
    rcases hc with hc | hc
    · simp [Char.isAlphanum, isAlpha_toLower hc]
    · simp [Char.isAlphanum, toLower_of_isDigit hc, hc]
  cases h with
  | start =>
    have hletter : c.isAlpha = true := by simpa using hc
    exact .letters (by simp) (by simp [isAlpha_toLower hletter])
  | letters _ hletters =>
    have hletter : c.isAlpha = true := by simpa using hc
    refine .letters (by simp) ?_
    rw [List.all_append, hletters]
    simp [isAlpha_toLower hletter]
  | hyphen hblocks =>
    rw [List.append_assoc]
    exact .block hblocks (by simp [isTagBlock, hblock rfl])
  | block hblocks hlast =>
    rw [List.append_assoc, List.cons_append]
    refine .block hblocks ?_
    simp only [isTagBlock, Bool.and_eq_true] at hlast ⊢
    refine ⟨by simp, ?_⟩
    rw [List.all_append, hlast.2]
    simp [hblock rfl]

/-- What is read is a language if the last block has something in it. -/
theorem TagRead.blocks {first : Bool} {cs : List Char} (h : TagRead first true cs) :
    areTagBlocks (cs.splitOn '-') = true := by
  cases h with
  | letters hcs hletters => exact areTagBlocks_letters hcs hletters
  | block hblocks hlast => exact areTagBlocks_append hblocks hlast

/-- What is read is a language and a hyphen, or nothing, if the last block is empty. -/
theorem TagRead.dropLast {first : Bool} {cs : List Char} (h : TagRead first false cs)
    (hcs : cs ≠ []) : areTagBlocks (cs.dropLast.splitOn '-') = true := by
  cases h with
  | start => exact absurd rfl hcs
  | hyphen hblocks => rwa [List.dropLast_concat]

theorem tagToken_shaped (mode : Mode) {tag : Bytes} (size : Nat)
    (h : areTagBlocks ((tag.map lowered).splitOn '-') = true) :
    (tagToken mode tag size).Shaped mode := by
  refine .ite (fun hmode => ?_) fun _ => .fault
  refine .token ⟨?_, ?_, ?_⟩
  · rw [String.toList_ofList]
    exact h
  · rw [String.toList_ofList, List.map_map]
    exact List.map_congr_left fun b _ => Rdf.toLower_toLower _
  · rintro rfl
    rw [String.toList_ofList]
    simpa using hmode

/-- A language is read from the octets `read`, which are read already, on. -/
theorem scanTag_shaped (mode : Mode) {first filled : Bool} {read : Bytes} (bytes : Bytes)
    (h : TagRead first filled (read.map lowered)) :
    (scanTag mode (read ++ bytes) read.length first filled bytes).Shaped mode := by
  induction bytes generalizing read first filled with
  | nil => exact .wait
  | cons b rest ih =>
    have hnext {first filled : Bool}
        (hread : TagRead first filled (read.map lowered ++ [lowered b])) :
        (scanTag mode (read ++ b :: rest) (read.length + 1) first filled rest).Shaped mode := by
      have h := @ih first filled (read ++ [b]) (by simpa using hread)
      rwa [List.append_assoc, List.length_append] at h
    rw [scanTag_cons]
    refine .ite (fun hletter => hnext (h.letter hletter)) fun _ => ?_
    refine .ite (fun _ => .fault) fun hsize => ?_
    refine .ite (fun hhyphen => ?_) fun _ => ?_
    · rw [Bool.and_eq_true, decide_eq_true_eq] at hhyphen
      obtain ⟨rfl, hc⟩ := hhyphen
      have hlowered : lowered b = '-' := by
        rw [lowered, hc]
        decide
      exact hnext (hlowered ▸ .hyphen h.blocks)
    refine .ite (fun hfilled => ?_) fun hfilled => ?_
    · subst hfilled
      rw [List.take_left]
      exact tagToken_shaped mode _ h.blocks
    obtain rfl : filled = false := by simpa using hfilled
    refine .ite (fun _ => .ite (fun _ => .fault) fun _ => .wait) fun _ => ?_
    have hread : read ≠ [] := fun hnil => hsize (by rw [hnil]; rfl)
    rw [List.take_append_of_le_length (by omega), ← List.dropLast_eq_take]
    refine tagToken_shaped mode _ ?_
    rw [List.map_dropLast]
    exact h.dropLast (by simpa using hread)

/-! ## IRIs -/

theorem lexIri_shaped (mode : Mode) (rest : Bytes) : (lexIri mode rest).Shaped mode := by
  unfold lexIri
  split
  · split
    · refine .ite (fun hmode => .token ?_) fun _ => .fault
      rintro rfl
      simpa [Iri.isWellFormed] using hmode
    · exact .fault
  · exact .fault
  · exact .wait

/-! ## Tokens of larger languages -/

section

variable {mode : Mode}

theorem foreign_shaped (n : Nat) : (Lexeme.token .foreign n).Shaped mode := .token trivial

theorem lexExponent_shaped (ended hasDigits : Bool) (size : Nat) (bytes : Bytes) :
    (lexExponent ended hasDigits size bytes).Shaped mode := by
  rw [lexExponent_eq]
  exact .ite (fun _ => .wait) fun _ => .ite (fun _ => .fault) fun _ => foreign_shaped _

theorem lexNumber_shaped (ended : Bool) (bytes : Bytes) :
    (lexNumber ended bytes).Shaped mode := by
  have hwhole {p : Prop} [Decidable p] (n m : Nat) :
      (if p then Lexeme.fault .badNumber n else .token .foreign m).Shaped mode :=
    .ite (fun _ => .fault) fun _ => foreign_shaped _
  simp only [lexNumber]
  split
  · exact .ite (fun _ => hwhole _ _) fun _ => .wait
  · split
    · exact .ite (fun _ => .wait) fun _ => .ite (fun _ => hwhole _ _) fun _ => foreign_shaped _
    · exact .ite (fun _ => lexExponent_shaped _ _ _ _) fun _ =>
        .ite (fun _ => foreign_shaped _) fun _ => hwhole _ _

theorem lexLocal_shaped (ended : Bool) (size : Nat) (rest : Bytes) :
    (lexLocal mode ended size rest).Shaped mode := by
  unfold lexLocal
  split
  · exact foreign_shaped _
  · exact .fault
  · exact .wait

theorem lexVariable_shaped (ended : Bool) (rest : Bytes) :
    (lexVariable mode ended rest).Shaped mode := by
  unfold lexVariable
  split
  · exact .ite (fun _ => .fault) fun _ => foreign_shaped _
  · exact .fault
  · exact .wait

theorem scanWord_shaped (ended : Bool) (size dots : Nat) (bytes : Bytes) :
    (scanWord mode ended size dots bytes).Shaped mode := by
  fun_induction scanWord mode ended size dots bytes with
  | case8 size dots b rest n hdots hhead => exact lexLocal_shaped _ _ _
  | case9 _ _ _ _ _ _ _ _ ih | case11 _ _ _ _ _ _ _ _ _ _ ih | case12 _ _ _ _ _ _ _ _ _ ih =>
    exact ih
  | case1 | case6 | case13 => exact foreign_shaped _
  | case2 | case4 => exact .wait
  | case3 | case5 | case7 | case10 => exact .fault

theorem lexOpening_shaped (rest : Bytes) : (lexOpening rest).Shaped mode := by
  unfold lexOpening
  split
  · exact .wait
  · exact foreign_shaped _

theorem lexPair_shaped (second : Char) (rest : Bytes) : (lexPair second rest).Shaped mode := by
  unfold lexPair
  split
  · exact .wait
  · exact foreign_shaped _

theorem lexClosing_shaped (rest : Bytes) : (lexClosing rest).Shaped mode := by
  unfold lexClosing
  split
  · exact .wait
  · refine .ite (fun _ => foreign_shaped _) fun _ => ?_
    split
    · exact .wait
    · exact foreign_shaped _

theorem lexForeign_shaped (ended : Bool) (b : UInt8) (rest : Bytes) :
    (lexForeign mode ended b rest).Shaped mode := by
  simp only [lexForeign]
  refine .ite (fun _ => lexNumber_shaped _ _) fun _ => ?_
  refine .ite (fun _ => lexVariable_shaped _ _) fun _ => ?_
  refine .ite (fun _ => lexPair_shaped _ _) fun _ => ?_
  refine .ite (fun _ => lexClosing_shaped _) fun _ => ?_
  refine .ite (fun _ => lexPair_shaped _ _) fun _ => ?_
  refine .ite (fun _ => lexPair_shaped _ _) fun _ => ?_
  refine .ite (fun _ => lexPair_shaped _ _) fun _ => ?_
  exact .ite (fun _ => foreign_shaped _) fun _ => scanWord_shaped _ _ _ _

end

/-! ## Whatever comes -/

theorem lineEnd?_shaped {mode : Mode} {ended : Bool} {bytes : Bytes} {l : Lexeme}
    (h : lineEnd? ended bytes = some l) : l.Shaped mode := by
  rintro t n rfl
  cases bytes with
  | nil => cases h
  | cons b rest =>
    simp only [lineEnd?] at h
    split at h
    · cases h
    split at h
    · cases rest <;> cases ended <;> cases h
    · cases h

theorem lexComment_shaped {mode : Mode} (ended : Bool) (rest : Bytes) :
    (lexComment ended rest).Shaped mode := by
  simp only [lexComment]
  split
  · intro t n heq
    cases heq
  · exact lineEnd?_shaped ‹_›
  · refine .ite (fun _ => ?_) fun _ => .wait
    intro t n heq
    cases heq

/-- **A token that is read has the shape of its mode.** -/
theorem lexeme_shaped (mode : Mode) (ended : Bool) (b : UInt8) (rest : Bytes) :
    (lexeme mode ended b rest).Shaped mode := by
  unfold lexeme
  cases hl : lineEnd? ended (b :: rest) with
  | some l => exact lineEnd?_shaped hl
  | none =>
    simp only []
    split
    · exact lexComment_shaped _ _
    · unfold lexValue
      split
      · exact .token trivial
      · exact .fault
      · exact .wait
    · exact @scanTag_shaped mode true false [] rest .start
    · cases rest with
      | nil => exact .wait
      | cons c tail => exact .ite (fun _ => lexOpening_shaped _) fun _ => lexIri_shaped mode _
    · cases rest with
      | nil => exact .wait
      | cons c label =>
        refine .ite (fun _ => ?_) fun _ => .fault
        exact scanLabel_shaped mode ended [] label ⟨by simp, by simp⟩
    · cases rest with
      | nil => exact .ite (fun _ => .token trivial) fun _ => .wait
      | cons c tail => exact .ite (fun _ => lexNumber_shaped _ _) fun _ => .token trivial
    · cases rest with
      | nil => exact .wait
      | cons c tail => exact .ite (fun _ => .token trivial) fun _ => foreign_shaped _
    · exact lexForeign_shaped _ _ _

end NTriples
end RdfExport
