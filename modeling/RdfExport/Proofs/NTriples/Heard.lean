import RdfExport.NTriples.Grammar

/-!
# RdfExport.Proofs.NTriples.Heard

Which octets say a statement. A reader that expects something has heard the tokens before it; the
octets of these tokens are the reader's, until they say a statement and become the statement's own.

* `Holds`: that octets hold tokens, with blanks and comments between them.
* `Says`: the tokens of a statement, without its dot.
* `Heard`, `Hears`: the tokens that lead to an expectation, and octets that hold them.
* `Owns`: that octets start with those of a statement.
* `move_hears`: what one step makes of the octets heard.
-/

namespace RdfExport
namespace NTriples

open Rdf

/-- That octets hold tokens, with blanks and comments between them. Where a token ends may depend on
what follows it. -/
inductive Holds (mode : Mode) : Bytes → List Token → Prop
  | nil : Holds mode [] []
  | blank {octets : Bytes} {tokens : List Token} {b : UInt8} (h : Holds mode octets tokens)
      (hb : b = octet ' ' ∨ b = octet '\t') : Holds mode (octets ++ [b]) tokens
  | comment {octets : Bytes} {tokens : List Token} {ended : Bool} {b : UInt8} {rest : Bytes}
      {size : Nat} (h : Holds mode octets tokens)
      (hcomment : lexeme mode ended b rest = .comment size) :
    Holds mode (octets ++ b :: rest.take (size - 1)) tokens
  | token {octets : Bytes} {tokens : List Token} {ended : Bool} {b : UInt8} {rest : Bytes}
      {t : Token} {size : Nat} (h : Holds mode octets tokens)
      (htoken : lexeme mode ended b rest = .token t size) :
    Holds mode (octets ++ b :: rest.take (size - 1)) (tokens ++ [t])

theorem Holds.ne_nil {mode : Mode} {octets : Bytes} {tokens : List Token}
    (h : Holds mode octets tokens) (htokens : tokens ≠ []) : octets ≠ [] := by
  cases h <;> simp at htokens ⊢

inductive SaysNode : Token → Node → Prop
  | iri (i : Iri) : SaysNode (.iri i) (.iri i)
  | blank (b : BlankNode) : SaysNode (.blank b) (.blank b)

inductive SaysObject : List Token → Term → Prop
  | node {t : Token} {n : Node} (h : SaysNode t n) : SaysObject [t] (.node n)
  | plain (v : String) : SaysObject [.value v] (.literal (.plain v))
  | tagged (v tag : String) : SaysObject [.value v, .tag tag] (.literal (.tagged v tag))
  | typed (v : String) (d : Iri) :
    SaysObject [.value v, .datatypeMark, .iri d] (.literal (.ofDatatype v d))

/-- The tokens of a statement, without its dot. -/
inductive Says : List Token → Triple → Prop
  | mk {t : Token} {s : Node} (hs : SaysNode t s) (p : Iri) {tokens : List Token} {o : Term}
      (ho : SaysObject tokens o) : Says (t :: .iri p :: tokens) ⟨s, p, o⟩

/-- The tokens of the line that lead to an expectation. Between statements and after a fault they do
not matter. -/
inductive Heard : List Token → Expect → Prop
  | subject : Heard [] .subject
  | predicate {t : Token} {s : Node} (hs : SaysNode t s) : Heard [t] (.predicate s)
  | object {t : Token} {s : Node} (hs : SaysNode t s) (p : Iri) :
    Heard [t, .iri p] (.object s p)
  | afterValue {t : Token} {s : Node} (hs : SaysNode t s) (p : Iri) (v : String) :
    Heard [t, .iri p, .value v] (.afterValue s p v)
  | datatype {t : Token} {s : Node} (hs : SaysNode t s) (p : Iri) (v : String) :
    Heard [t, .iri p, .value v, .datatypeMark] (.datatype s p v)
  | dot {tokens : List Token} {t : Triple} (h : Says tokens t) : Heard tokens (.dot t)
  | lineEnd : Heard [] .lineEnd
  | recovery : Heard [] .recovery

/-- What a token after others may make of them: they become those of a statement, or they go on.
Where they do not go on, what is heard starts anew, with the token or after it. -/
def Reply.Follows (tokens : List Token) (t : Token) (r : Reply) : Prop :=
  match r.statement with
  | some triple => Says tokens triple ∧ (Heard [t] r.expect ∨ Heard [] r.expect)
  | none => Heard (tokens ++ [t]) r.expect ∨ Heard [] r.expect

theorem onFirst_follows (t : Token) : (onFirst t).Follows [] t := by
  cases t with
  | iri i => exact .inl (.predicate (.iri i))
  | blank b => exact .inl (.predicate (.blank b))
  | _ => exact .inr .recovery

theorem onDot_follows {tokens : List Token} {triple : Triple} (h : Says tokens triple) (t : Token) :
    (onDot triple t).Follows tokens t := by
  cases t with
  | dot => exact ⟨h, .inr .lineEnd⟩
  | iri i => exact ⟨h, .inl (.predicate (.iri i))⟩
  | blank b => exact ⟨h, .inl (.predicate (.blank b))⟩
  | _ => exact ⟨h, .inr .recovery⟩

theorem Heard.onToken {tokens : List Token} {e : Expect} (h : Heard tokens e) (mode : Mode)
    (t : Token) : (e.onToken mode t).Follows tokens t := by
  cases h with
  | subject => exact onFirst_follows t
  | predicate hs =>
    cases t with
    | iri p => exact .inl (.object hs p)
    | _ => exact .inr .recovery
  | object hs p =>
    cases t with
    | iri i => exact .inl (.dot (.mk hs p (.node (.iri i))))
    | blank b => exact .inl (.dot (.mk hs p (.node (.blank b))))
    | value v => exact .inl (.afterValue hs p v)
    | _ => exact .inr .recovery
  | afterValue hs p v =>
    cases t with
    | tag tag => exact .inl (.dot (.mk hs p (.tagged v tag)))
    | datatypeMark => exact .inl (.datatype hs p v)
    | _ => exact onDot_follows (.mk hs p (.plain v)) _
  | datatype hs p v =>
    cases t with
    | iri d => exact .inl (.dot (.mk hs p (.typed v d)))
    | _ => exact .inr .recovery
  | dot hsaid => exact onDot_follows hsaid t
  | lineEnd =>
    cases t with
    | iri i => exact .inl (.predicate (.iri i))
    | blank b => exact .inl (.predicate (.blank b))
    | _ => exact .inr .recovery
  | recovery => exact .inr .recovery

theorem Expect.onEnd_statement (e : Expect) : e.onEnd.1 = e.onLineEnd.statement := by
  cases e <;> rfl

/-- What is complete at the end of a line is what was heard. -/
theorem Heard.onLineEnd {tokens : List Token} {e : Expect} (h : Heard tokens e) {t : Triple}
    (ht : e.onLineEnd.statement = some t) : Says tokens t := by
  cases h with
  | afterValue hs p v =>
    cases ht
    exact .mk hs p (.plain v)
  | dot hsaid =>
    cases ht
    exact hsaid
  | _ => cases ht

def SaysOctets (mode : Mode) (octets : Bytes) (t : Triple) : Prop :=
  ∃ tokens, Holds mode octets tokens ∧ Says tokens t

/-- That octets hold what leads to an expectation. At the end nothing is heard any more. -/
def Hears (mode : Mode) (octets : Bytes) : Option Expect → Prop
  | none => octets = []
  | some e => ∃ tokens, Holds mode octets tokens ∧ Heard tokens e

/-- That octets start with those of the statement that is complete, if there is one. -/
def Owns (mode : Mode) (octets : Bytes) : Option Triple → Prop
  | none => True
  | some t => ∃ own after, octets = own ++ after ∧ SaysOctets mode own t

theorem SaysOctets.ne_nil {mode : Mode} {octets : Bytes} {t : Triple}
    (h : SaysOctets mode octets t) : octets ≠ [] := by
  obtain ⟨tokens, hholds, hsaid⟩ := h
  cases hsaid
  exact hholds.ne_nil (by simp)

variable {mode : Mode} {ended : Bool} {octets : Bytes}

/-- That octets fall into those that a complete statement owns, and those heard since. -/
def Divides (mode : Mode) (octets : Bytes) (ready : Option Triple) (expect : Option Expect) :
    Prop :=
  ∃ held started, octets = held ++ started ∧ Owns mode held ready ∧ Hears mode started expect

theorem Divides.anew {expect : Option Expect} (octets : Bytes) (h : Hears mode [] expect) :
    Divides mode octets none expect :=
  ⟨octets, [], (List.append_nil _).symm, trivial, h⟩

/-- What is heard goes on. -/
theorem Divides.on {expect : Option Expect} (h : Hears mode octets expect) :
    Divides mode octets none expect :=
  ⟨[], octets, rfl, trivial, h⟩

theorem hears_recovery : Hears mode [] (some .recovery) := ⟨[], .nil, .recovery⟩

/-- A token. -/
theorem hears_token {e : Expect} {b : UInt8} {rest : Bytes} {t : Token} {size : Nat}
    (h : Hears mode octets (some e)) (htoken : lexeme mode ended b rest = .token t size) :
    Divides mode (octets ++ b :: rest.take (size - 1)) (e.onToken mode t).statement
      (some (e.onToken mode t).expect) := by
  obtain ⟨tokens, hholds, hheard⟩ := h
  have hfollows := hheard.onToken mode t
  have halone : Holds mode (b :: rest.take (size - 1)) [t] := Holds.nil.token htoken
  generalize e.onToken mode t = r at hfollows
  obtain ⟨expect, statement, faults⟩ := r
  cases statement with
  | none =>
    rcases hfollows with hon | hanew
    · exact .on ⟨_, hholds.token htoken, hon⟩
    · exact .anew _ ⟨[], .nil, hanew⟩
  | some triple =>
    obtain ⟨hsaid, hon | hanew⟩ := hfollows
    · exact ⟨octets, _, rfl, ⟨octets, [], by simp, tokens, hholds, hsaid⟩, _, halone, hon⟩
    · exact ⟨_, [], (List.append_nil _).symm, ⟨octets, _, rfl, tokens, hholds, hsaid⟩, [], .nil,
        hanew⟩

/-- The end of a line owns what was heard in it. -/
theorem hears_end {e : Expect} (h : Hears mode octets (some e)) (after : Bytes) :
    Owns mode (octets ++ after) e.onLineEnd.statement := by
  obtain ⟨tokens, hholds, hheard⟩ := h
  cases ht : e.onLineEnd.statement with
  | none => trivial
  | some t => exact ⟨octets, after, rfl, tokens, hholds, hheard.onLineEnd ht⟩

theorem move_none {e : Option Expect} {b : UInt8} {rest : Bytes} {size : Nat}
    {ready : Option Triple} {faults : List Fault}
    (hm : move mode ended none b rest = .step size e ready faults) : e = none ∧ ready = none := by
  unfold move at hm
  split at hm
  · cases hm
    exact ⟨rfl, rfl⟩
  · cases hl : lexeme mode ended b rest with
    | wait =>
      rw [hl] at hm
      cases ended <;> cases hm
      exact ⟨rfl, rfl⟩
    | _ =>
      rw [hl] at hm
      cases hm
      exact ⟨rfl, rfl⟩

/-- **What one step makes of the octets heard.** Together with those of the step they fall into
those that the complete statement owns, and those heard from then on. -/
theorem move_hears {expect e : Option Expect} {b : UInt8} {rest : Bytes} {size : Nat}
    {ready : Option Triple} {faults : List Fault} (h : Hears mode octets expect)
    (hm : move mode ended expect b rest = .step size e ready faults) :
    Divides mode (octets ++ b :: rest.take (size - 1)) ready e := by
  cases expect with
  | none =>
    obtain ⟨rfl, rfl⟩ := move_none hm
    exact .anew _ rfl
  | some expect =>
    have ⟨tokens, hholds, hheard⟩ := h
    unfold move at hm
    split at hm
    · rename_i hblank
      cases hm
      exact .on ⟨tokens, hholds.blank (by simpa using hblank), hheard⟩
    · cases hl : lexeme mode ended b rest with
      | token t n =>
        rw [hl] at hm
        cases hm
        exact hears_token h hl
      | lineEnd n =>
        rw [hl] at hm
        cases hm
        exact ⟨_, [], (List.append_nil _).symm, hears_end h _, [], .nil, .subject⟩
      | comment n =>
        rw [hl] at hm
        cases hm
        exact .on ⟨tokens, hholds.comment hl, hheard⟩
      | fault f n =>
        rw [hl] at hm
        cases hm
        exact .anew _ hears_recovery
      | wait =>
        rw [hl] at hm
        cases ended <;> cases hm
        exact .anew _ hears_recovery

end NTriples
end RdfExport
