import RdfExport.Proofs.NTriples.Lookahead

/-!
# RdfExport.Proofs.NTriples.Leniency

A lenient reader reads what a strict one reads. Where the two part, the strict one has found a
fault, or waits for octets that would tell.

* `Escape.Keeps`, `Scan.Keeps`, `Lexeme.Keeps`: a lenient reading next to the strict one.
* `scanIri_keeps`, `scanValue_keeps`, `scanTag_keeps`, `scanLocal_keeps`: the parts of tokens in
  which the two may part.
* `lexeme_keeps`: whatever the octets start with.
* `move_keeps`: a step without a fault is the same for both.
-/

namespace RdfExport
namespace NTriples

open Rdf

/-- A strict reading of an escape, and a lenient one that is the same unless the strict one found a
fault or waits. -/
inductive Escape.Keeps : Escape → Escape → Prop where
  | same (a : Escape) : Keeps a a
  | fault (size : Nat) (b : Escape) : Keeps (.fault size) b
  | wait (b : Escape) : Keeps .wait b

inductive Scan.Keeps {α : Type} : Scan α → Scan α → Prop where
  | same (a : Scan α) : Keeps a a
  | fault (f : Fault) (size : Nat) (b : Scan α) : Keeps (.fault f size) b
  | wait (b : Scan α) : Keeps .wait b

/-- The same of whole tokens. -/
inductive Lexeme.Keeps : Lexeme → Lexeme → Prop where
  | same (a : Lexeme) : Keeps a a
  | fault (f : Fault) (size : Nat) (b : Lexeme) : Keeps (.fault f size) b
  | wait (b : Lexeme) : Keeps .wait b

theorem Escape.Keeps.eq_char {c : Char} {n : Nat} {b : Escape}
    (h : Escape.Keeps (.char c n) b) : b = .char c n := by
  cases h
  rfl

theorem Scan.Keeps.map {α β : Type} {a b : Scan α} (g : α → β) (h : Scan.Keeps a b) :
    Scan.Keeps (a.map g) (b.map g) := by
  cases h with
  | same => exact .same _
  | fault f size b => exact .fault f size _
  | wait b => exact .wait _

def Scan.lexeme {α : Type} (a : Scan α) (token : α → Nat → Lexeme) : Lexeme :=
  match a with
  | .done content size => token content size
  | .fault f size => .fault f size
  | .wait => .wait

theorem Scan.Keeps.lexeme {α : Type} {a b : Scan α} (h : Scan.Keeps a b)
    {token token' : α → Nat → Lexeme}
    (htoken : ∀ content size, Lexeme.Keeps (token content size) (token' content size)) :
    Lexeme.Keeps (a.lexeme token) (b.lexeme token') := by
  cases h with
  | same =>
    cases a with
    | done content size => exact htoken content size
    | fault f size => exact .same _
    | wait => exact .same _
  | fault f size b => exact .fault f size _
  | wait b => exact .wait _

/-! ## Escapes -/

theorem lexEscape_keeps (letters : Bool) (bytes : Bytes) :
    Escape.Keeps (lexEscape .strict letters bytes) (lexEscape .lenient letters bytes) := by
  cases bytes with
  | nil => exact .wait _
  | cons k rest =>
    simp only [lexEscape]
    cases numberEscape? (Char.ofUInt8 k) with
    | none => exact .same _
    | some n =>
      simp only []
      by_cases hshort : (rest.take n).length < n
      · rw [if_pos hshort, if_pos hshort]
        exact .wait _
      · rw [if_neg hshort, if_neg hshort]
        cases hexNumber? n ((rest.take n).map Char.ofUInt8) with
        | none => exact .same _
        | some v =>
          simp only []
          cases Hex.scalar? v with
          | some c => exact .same _
          | none => exact .fault (n + 1) _

theorem lexEscape_lenient {letters : Bool} {bytes : Bytes} {c : Char} {n : Nat}
    (h : lexEscape .strict letters bytes = .char c n) :
    lexEscape .lenient letters bytes = .char c n := by
  have hkeeps := lexEscape_keeps letters bytes
  rw [h] at hkeeps
  exact hkeeps.eq_char

/-! ## Delimited tokens -/

theorem scanIri_keeps (size : Nat) (bytes : Bytes) :
    Scan.Keeps (scanIri .strict size bytes) (scanIri .lenient size bytes) := by
  fun_induction scanIri .strict size bytes with
  | case1 size => exact .wait _
  | case2 size rest =>
    rw [scanIri, if_pos rfl]
    exact .same _
  | case3 size rest c n he hend ih =>
    rw [scanIri, if_neg hend, if_pos rfl, lexEscape_lenient he]
    exact ih.map _
  | case4 size rest n he hend => exact .fault _ _ _
  | case5 size rest he hend => exact .wait _
  | case6 size b rest hend hslash ih =>
    rw [scanIri, if_neg hend, if_neg hslash]
    exact ih.map _

theorem lexIri_eq (mode : Mode) (rest : Bytes) :
    lexIri mode rest = (scanIri mode 1 rest).lexeme fun content size =>
      match Utf8.decode content with
      | .ok cs =>
        if mode = .lenient || isAbsoluteIri cs then .token (.iri ⟨String.ofList cs⟩) size
        else .fault (.badIri (String.ofList cs)) size
      | .error _ => .fault .notUtf8 size := by
  unfold lexIri
  cases scanIri mode 1 rest <;> rfl

theorem lexIri_keeps (rest : Bytes) :
    Lexeme.Keeps (lexIri .strict rest) (lexIri .lenient rest) := by
  rw [lexIri_eq, lexIri_eq]
  refine (scanIri_keeps 1 rest).lexeme fun content size => ?_
  cases Utf8.decode content with
  | error f => exact .same _
  | ok cs =>
    simp only []
    cases isAbsoluteIri cs with
    | false => exact .fault _ _ _
    | true => exact .same _

theorem faultToQuote_keeps (f : Fault) (size : Nat) (bytes : Bytes) (b : Scan (List Char)) :
    Scan.Keeps (faultToQuote f size bytes) b := by
  simp only [faultToQuote]
  split
  · exact .fault _ _ _
  · exact .wait _

theorem scanValue_keeps (size : Nat) (bytes : Bytes) :
    Scan.Keeps (scanValue .strict size bytes) (scanValue .lenient size bytes) := by
  have hlenient : ∀ {line : Bool}, ¬(decide (Mode.lenient = .strict) && line) = true := by
    simp
  fun_induction scanValue .strict size bytes with
  | case1 => exact .wait _
  | case2 => exact faultToQuote_keeps _ _ _ _
  | case3 => exact .fault _ _ _
  | case4 size bytes stretch rest hline cs hdecode hq =>
    rw [scanValue_eq .lenient size hq, if_neg hlenient, hdecode]
    exact .same _
  | case5 size bytes stretch q rest hq hline cs hdecode hquote c n he ih =>
    rw [scanValue_eq .lenient size hq, if_neg hlenient, hdecode]
    simp only [if_neg hquote, lexEscape_lenient he]
    exact ih.map _
  | case6 => exact faultToQuote_keeps _ _ _ _
  | case7 => exact .wait _

theorem lexValue_eq (mode : Mode) (rest : Bytes) :
    lexValue mode rest =
      (scanValue mode 1 rest).lexeme fun cs size => .token (.value (String.ofList cs)) size := by
  unfold lexValue
  cases scanValue mode 1 rest <;> rfl

theorem lexValue_keeps (rest : Bytes) :
    Lexeme.Keeps (lexValue .strict rest) (lexValue .lenient rest) := by
  rw [lexValue_eq, lexValue_eq]
  exact (scanValue_keeps 1 rest).lexeme fun _ _ => .same _

/-! ## Names -/

theorem scanLocal_keeps (ended : Bool) (p : LocalPart) (bytes : Bytes) :
    Scan.Keeps (scanLocal .strict ended p bytes) (scanLocal .lenient ended p bytes) := by
  fun_induction scanLocal .strict ended p bytes with
  | case1 p hended =>
    rw [scanLocal, if_pos hended]
    exact .same _
  | case2 p => exact .wait _
  | case3 p b rest n hhead => exact .fault _ _ _
  | case4 p b rest hhead hended =>
    rw [scanLocal.eq_def]
    simp only [hhead, if_pos hended]
    exact .same _
  | case5 p b rest hhead => exact .wait _
  | case6 p b n x y tail hpair hhead ih =>
    rw [scanLocal_percent hhead, if_pos hpair]
    exact ih
  | case7 p b n x y tail hpair hhead => exact .fault _ _ _
  | case8 p b rest n hshort hhead => exact .wait _
  | case9 p b n x tail hallowed hne hhead ih =>
    have hlenient : (decide (Mode.lenient = .lenient) || isLocalEscape (Char.ofUInt8 x)) = true :=
      rfl
    rw [scanLocal_escape hhead, if_pos hlenient]
    exact ih
  | case10 p b n x tail hallowed hne hhead => exact .fault _ _ _
  | case11 p b n hne hhead => exact .wait _
  | case12 p b rest c n hhead hpercent hslash hchar ih =>
    rw [dite_eq_ite] at hchar
    rw [scanLocal_plain hhead hpercent hslash, if_pos hchar]
    exact ih
  | case13 p b rest c n hhead hpercent hslash hchar =>
    rw [dite_eq_ite] at hchar
    rw [scanLocal_plain hhead hpercent hslash, if_neg hchar]
    exact .same _

theorem lexLocal_eq (mode : Mode) (ended : Bool) (size : Nat) (rest : Bytes) :
    lexLocal mode ended size rest =
      (scanLocal mode ended (.start size) rest).lexeme fun _ size => .token .foreign size := by
  unfold lexLocal
  cases scanLocal mode ended (.start size) rest <;> rfl

theorem lexLocal_keeps (ended : Bool) (size : Nat) (rest : Bytes) :
    Lexeme.Keeps (lexLocal .strict ended size rest) (lexLocal .lenient ended size rest) := by
  rw [lexLocal_eq, lexLocal_eq]
  exact (scanLocal_keeps ended (.start size) rest).lexeme fun _ _ => .same _

theorem lexVariable_eq (mode : Mode) (ended : Bool) (rest : Bytes) :
    lexVariable mode ended rest = (scanLocal mode ended (.start 1) rest).lexeme fun chars size =>
      if chars = 0 then .fault .badName size else .token .foreign size := by
  unfold lexVariable
  cases scanLocal mode ended (.start 1) rest <;> rfl

theorem lexVariable_keeps (ended : Bool) (rest : Bytes) :
    Lexeme.Keeps (lexVariable .strict ended rest) (lexVariable .lenient ended rest) := by
  rw [lexVariable_eq, lexVariable_eq]
  exact (scanLocal_keeps ended (.start 1) rest).lexeme fun _ _ => .same _

theorem scanWord_keeps (ended : Bool) (size dots : Nat) (bytes : Bytes) :
    Lexeme.Keeps (scanWord .strict ended size dots bytes)
      (scanWord .lenient ended size dots bytes) := by
  fun_induction scanWord .strict ended size dots bytes with
  | case1 size dots hended =>
    rw [scanWord, if_pos hended]
    exact .same _
  | case2 => exact .wait _
  | case3 => exact .fault _ _ _
  | case4 => exact .wait _
  | case5 => exact .fault _ _ _
  | case6 size dots b rest hhead hended hsize =>
    rw [scanWord.eq_def]
    simp only [hhead, if_neg hended, if_neg hsize]
    exact .same _
  | case7 => exact .fault _ _ _
  | case8 size dots b rest n hdots hhead =>
    rw [scanWord_char hhead, if_pos rfl, if_neg hdots]
    exact lexLocal_keeps ended (size + n) _
  | case9 dots b rest c n hhead hcolon hbase ih =>
    rw [scanWord_char hhead, if_neg hcolon, if_pos rfl, if_pos hbase]
    exact ih
  | case10 => exact .fault _ _ _
  | case11 size dots b rest c n hhead hcolon hsize hname ih =>
    rw [scanWord_char hhead, if_neg hcolon, if_neg hsize, if_pos hname]
    exact ih
  | case12 size dots b rest n hsize hhead hcolon hname ih =>
    rw [scanWord_char hhead, if_neg hcolon, if_neg hsize, if_neg hname, if_pos rfl]
    exact ih
  | case13 size dots b rest c n hhead hcolon hsize hname hdot =>
    rw [scanWord_char hhead, if_neg hcolon, if_neg hsize, if_neg hname, if_neg hdot]
    exact .same _

theorem lexForeign_keeps (ended : Bool) (b : UInt8) (rest : Bytes) :
    Lexeme.Keeps (lexForeign .strict ended b rest) (lexForeign .lenient ended b rest) := by
  simp only [lexForeign]
  split
  · exact .same _
  split
  · exact lexVariable_keeps ended rest
  split
  · exact .same _
  split
  · exact .same _
  split
  · exact .same _
  split
  · exact .same _
  split
  · exact .same _
  split
  · exact .same _
  · exact scanWord_keeps ended 0 0 (b :: rest)

/-! ## Languages -/

theorem tagToken_keeps (tag : Bytes) (size : Nat) :
    Lexeme.Keeps (tagToken .strict tag size) (tagToken .lenient tag size) := by
  simp only [tagToken]
  cases h : isLanguageTag (tag.map fun b => (Char.ofUInt8 b).toLower) with
  | false => exact .fault _ _ _
  | true => exact .same _

theorem scanTag_keeps (tag : Bytes) (size : Nat) (first filled : Bool) (bytes : Bytes) :
    Lexeme.Keeps (scanTag .strict tag size first filled bytes)
      (scanTag .lenient tag size first filled bytes) := by
  fun_induction scanTag .strict tag size first filled bytes with
  | case1 => exact .wait _
  | case2 size first filled b rest c hletter ih =>
    rw [scanTag_cons, if_pos hletter]
    exact ih
  | case3 => exact .fault _ _ _
  | case4 size first filled b rest c hletter hsize hhyphen ih =>
    rw [scanTag_cons, if_neg hletter, if_neg hsize, if_pos hhyphen]
    exact ih
  | case5 size first b rest c hletter hsize hhyphen =>
    rw [scanTag_cons, if_neg hletter, if_neg hsize, if_neg hhyphen, if_pos rfl]
    exact tagToken_keeps _ _
  | case6 size first filled b rest c hletter hsize hhyphen hfilled hsecond =>
    rw [scanTag_cons, if_neg hletter, if_neg hsize, if_neg hhyphen, if_neg hfilled,
      if_pos hsecond]
    exact .same _
  | case7 size first filled b rest c hletter hsize hhyphen hfilled hsecond =>
    rw [scanTag_cons, if_neg hletter, if_neg hsize, if_neg hhyphen, if_neg hfilled,
      if_neg hsecond]
    exact tagToken_keeps _ _

/-! ## Whatever comes -/

theorem lexeme_keeps (ended : Bool) (b : UInt8) (rest : Bytes) :
    Lexeme.Keeps (lexeme .strict ended b rest) (lexeme .lenient ended b rest) := by
  unfold lexeme
  cases lineEnd? ended (b :: rest) with
  | some l => exact .same _
  | none =>
    simp only []
    split
    · exact .same _
    · exact lexValue_keeps rest
    · exact scanTag_keeps rest 0 true false rest
    · cases rest with
      | nil => exact .wait _
      | cons c tail =>
        simp only []
        split
        · exact .same _
        · exact lexIri_keeps (c :: tail)
    · exact .same _
    · exact .same _
    · exact .same _
    · exact lexForeign_keeps ended b rest

/-- A token that a strict reader takes without a fault means the same to a lenient one. Only the
datatype of a value is checked. -/
theorem onToken_keeps {e : Expect} {t : Token} (h : (e.onToken .strict t).faults = []) :
    e.onToken .lenient t = e.onToken .strict t := by
  cases e with
  | datatype s p v =>
    cases t with
    | iri d =>
      have hlenient : allowsDatatype .lenient d = true := rfl
      cases hstrict : allowsDatatype .strict d with
      | false => simp [Expect.onToken, hstrict] at h
      | true => simp only [Expect.onToken, hstrict, hlenient]
    | _ => rfl
  | _ => cases t <;> rfl

/-- A step that a strict reader makes without a fault is the step of a lenient one. -/
theorem move_keeps {ended : Bool} {expect e : Option Expect} {b : UInt8} {rest : Bytes} {size : Nat}
    {statement : Option Triple} (h : move .strict ended expect b rest = .step size e statement []) :
    move .lenient ended expect b rest = .step size e statement [] := by
  unfold move at h ⊢
  by_cases hblank : (b = octet ' ' || b = octet '\t') = true
  · rw [if_pos hblank] at h ⊢
    exact h
  · rw [if_neg hblank] at h ⊢
    have hkeeps := lexeme_keeps ended b rest
    generalize lexeme .strict ended b rest = strict at h hkeeps
    generalize lexeme .lenient ended b rest = lenient at hkeeps
    cases hkeeps with
    | same =>
      cases strict with
      | token t n =>
        cases expect with
        | none => exact h
        | some e' =>
          simp only [Option.map_some, Move.ofReply, Move.step.injEq] at h ⊢
          rw [onToken_keeps h.2.2.2]
          exact h
      | _ => exact h
    | fault f n => cases h
    | wait =>
      -- a strict reader that waits at the end of its input has a fault
      cases ended <;> cases h

end NTriples
end RdfExport
