import Mathlib.Data.List.Infix
import RdfExport.Diagnostic

/-!
# RdfExport.Proofs.Causes

Which causes of a failure show in its text. The server's words may be put around a failure any
number of times, and an output or a connection that failed may be at the bottom of it, with causes
of its own. The text of a failure holds the text of its source; the text of an output's or a
connection's failure need not, so what is behind that one may be in the chain of causes only.

* `Text.Shows`: a text that another is part of.
* `Cause`, `Cause.source?`: whatever takes part in a failure, and what caused it in turn.
* `Cause.Traced`: all causes one after the other.
* `Cause.ShowsSource`: something whose text says what it was caused by; every `ExportError` is
  such, by `ExportError.showsSource`.
* `Cause.Traced.shown`: a cause is shown if everything before it shows its source.
* `ExportError.causes_worded`: the causes of a failure, their number, and which of them are shown.
-/

namespace RdfExport

/-- That a text is part of another, as it is. -/
def Text.Shows (whole part : String) : Prop := ∃ before after, whole = before ++ part ++ after

namespace Text.Shows

theorem trans {whole part piece : String} (h : Shows whole part) (hpart : Shows part piece) :
    Shows whole piece := by
  obtain ⟨before, after, rfl⟩ := h
  obtain ⟨before', after', rfl⟩ := hpart
  exact ⟨before ++ before', after' ++ after, by simp only [String.append_assoc]⟩

theorem iff_infix {whole part : String} : Shows whole part ↔ part.toList <:+: whole.toList := by
  constructor
  · rintro ⟨before, after, rfl⟩
    exact ⟨before.toList, after.toList, by rw [String.toList_append, String.toList_append]⟩
  · rintro ⟨before, after, h⟩
    refine ⟨String.ofList before, String.ofList after, String.toList_injective ?_⟩
    rw [String.toList_append, String.toList_append, String.toList_ofList, String.toList_ofList, h]

instance (whole part : String) : Decidable (Shows whole part) := decidable_of_iff _ iff_infix.symm

end Text.Shows

/-- A failure of an export, or of an output or a connection. -/
abbrev Cause := ExportError ⊕ IoError

namespace Cause

def message : Cause → String
  | .inl e => e.message
  | .inr x => x.message

def source? : Cause → Option Cause
  | .inl e => e.source?
  | .inr x => x.source?.map .inr

def ShowsSource (c : Cause) : Prop := ∀ source, c.source? = some source →
  Text.Shows c.message source.message

/-- The causes of something, each that of the one before, up to one without a cause. -/
inductive Traced : Cause → List Cause → Prop where
  | nothing {c : Cause} (h : source? c = none) : Traced c []
  | caused {c source : Cause} {causes : List Cause} (h : source? c = some source)
      (behind : Traced source causes) : Traced c (source :: causes)

namespace Traced

theorem unique {c : Cause} {causes others : List Cause} (h : Traced c causes)
    (h' : Traced c others) : causes = others := by
  induction h generalizing others with
  | nothing h =>
    cases h' with
    | nothing _ => rfl
    | caused hsource _ => simp [h] at hsource
  | caused h _ ih =>
    cases h' with
    | nothing hnone => simp [h] at hnone
    | caused hsource behind =>
      rw [h, Option.some.injEq] at hsource
      subst hsource
      rw [ih behind]

/-- The steps on the way to a cause compose, as each text on the way is part of the one before. -/
theorem shown {c : Cause} {causes before after : List Cause} {cause : Cause}
    (h : Traced c causes) (hcauses : causes = before ++ cause :: after)
    (hbefore : ∀ earlier ∈ c :: before, earlier.ShowsSource) :
    Text.Shows c.message cause.message := by
  induction h generalizing before with
  | nothing _ => simp at hcauses
  | caused hsource _ ih =>
    have hstep := hbefore _ List.mem_cons_self _ hsource
    cases before with
    | nil =>
      cases hcauses
      exact hstep
    | cons earlier before =>
      cases hcauses
      exact hstep.trans (ih rfl fun x hx => hbefore x (List.mem_cons_of_mem _ hx))

end Traced
end Cause

def IoError.causes : IoError → List IoError
  | .caused _ source => source :: source.causes
  | _ => []

namespace IoError

theorem traced_causes (x : IoError) : Cause.Traced (.inr x) (x.causes.map .inr) := by
  induction x with
  | caused message source ih => exact .caused rfl ih
  | _ => exact .nothing rfl

theorem chain_eq_causes (x : IoError) : x.chain = x.causes.map message := by
  induction x with
  | caused message source ih => rw [chain, causes, List.map_cons, ih]
  | _ => rfl

end IoError

namespace ExportError

/-- What the server said at each level of a failure, from the outermost. -/
def diagnostics : ExportError → List String
  | .serverReported diagnostic source => diagnostic :: source.diagnostics
  | _ => []

def innermost : ExportError → ExportError
  | .serverReported _ source => source.innermost
  | e => e

def causes : ExportError → List Cause
  | .transport _ source => .inr source :: source.causes.map .inr
  | .serverReported _ source => .inl source :: source.causes
  | .output error => .inr error :: error.causes.map .inr
  | _ => []

theorem eq_foldr_diagnostics (e : ExportError) :
    e = e.diagnostics.foldr serverReported e.innermost ∧ e.innermost.diagnostic? = none := by
  induction e with
  | serverReported diagnostic source ih =>
    exact ⟨congrArg (serverReported diagnostic) ih.1, ih.2⟩
  | _ => exact ⟨rfl, rfl⟩

theorem traced_causes (e : ExportError) : Cause.Traced (.inl e) e.causes := by
  induction e with
  | serverReported diagnostic source ih => exact .caused rfl ih
  | transport endpoint source => exact .caused rfl source.traced_causes
  | output error => exact .caused rfl error.traced_causes
  | _ => exact .nothing rfl

theorem chain_eq_causes (e : ExportError) : e.chain = e.causes.map Cause.message := by
  induction e with
  | serverReported diagnostic source ih => rw [chain, causes, List.map_cons, ih]; rfl
  | transport endpoint source =>
    rw [chain, causes, List.map_cons, List.map_map, source.chain_eq_causes]
    rfl
  | output error =>
    rw [chain, causes, List.map_cons, List.map_map, error.chain_eq_causes]
    rfl
  | _ => rfl

theorem causes_length (e : ExportError) :
    e.causes.length = e.diagnostics.length + e.innermost.causes.length := by
  induction e with
  | serverReported diagnostic source ih =>
    rw [causes, diagnostics, innermost, List.length_cons, List.length_cons, ih]
    omega
  | _ => exact (Nat.zero_add _).symm

theorem message_serverReported (diagnostic : String) (source : ExportError) :
    (serverReported diagnostic source).message =
      "server reported error: " ++ diagnostic ++ " (" ++ source.message ++ ")" := rfl

/-- What caused a failure directly is worded in its text. -/
theorem showsSource (e : ExportError) : Cause.ShowsSource (.inl e) := by
  intro source h
  cases e with
  | transport endpoint x =>
    cases h
    exact ⟨s!"transport error on {endpoint}: ", "", String.append_empty.symm⟩
  | serverReported diagnostic e =>
    cases h
    exact ⟨s!"server reported error: {diagnostic} (", ")", rfl⟩
  | output x =>
    cases h
    exact ⟨"output error: ", "", String.append_empty.symm⟩
  | _ => cases h

/-- However deep in the server's words, a failure is part of the text around it. -/
theorem nested_shown {e nested : ExportError} (h : .inl nested ∈ e.causes) :
    Text.Shows e.message nested.message := by
  induction e with
  | serverReported diagnostic source ih =>
    have hsource := (serverReported diagnostic source).showsSource (.inl source) rfl
    rcases List.mem_cons.1 h with heq | hbehind
    · cases heq
      exact hsource
    · exact hsource.trans (ih hbehind)
  | _ => simp [causes] at h

theorem diagnostics_shown (e : ExportError) :
    ∀ diagnostic ∈ e.diagnostics, Text.Shows e.message diagnostic := by
  induction e with
  | serverReported diagnostic source ih =>
    intro said hsaid
    rcases List.mem_cons.1 hsaid with rfl | hbehind
    · exact ⟨"server reported error: ", " (" ++ source.message ++ ")", by
        simp only [message_serverReported, String.append_assoc]⟩
    · exact ((serverReported diagnostic source).showsSource (.inl source) rfl).trans
        (ih said hbehind)
  | _ => simp [diagnostics]

/-- **Every cause shows in the text up to what another part reports.** A failure is what the server
said, at any number of levels, around an innermost one. Following its causes comes to an end, after
a step for each level and those of the innermost failure. What caused the failure or one nested in
it is part of its text, whatever the depth, and so is all that the server said. A cause further
behind, of a failed output or connection, is part of it where all such before it show what caused
them. What the server says is put around a failure that stays as it is. -/
theorem causes_worded (e : ExportError) :
    ∃ (diagnostics : List String) (innermost : ExportError) (causes rest : List Cause),
      e = diagnostics.foldr serverReported innermost ∧ innermost.diagnostic? = none ∧
      (∀ others, Cause.Traced (.inl e) others ↔ others = causes) ∧
      Cause.Traced (.inl innermost) rest ∧
      causes.length = diagnostics.length + rest.length ∧
      e.chain = causes.map Cause.message ∧
      (∀ nested cause, nested = e ∨ .inl nested ∈ causes → nested.source? = some cause →
        Text.Shows e.message (Cause.message cause)) ∧
      (∀ before cause after, causes = before ++ cause :: after →
        (∀ x, .inr x ∈ before → Cause.ShowsSource (.inr x)) →
          Text.Shows e.message (Cause.message cause)) ∧
      (∀ diagnostic ∈ diagnostics, Text.Shows e.message diagnostic) ∧
      ∀ diagnostic, (e.withDiagnostic (some diagnostic)).2.source? = some (.inl e) := by
  have htraced := e.traced_causes
  obtain ⟨hnest, hinnermost⟩ := e.eq_foldr_diagnostics
  refine ⟨e.diagnostics, e.innermost, e.causes, e.innermost.causes, hnest, hinnermost, ?_,
    e.innermost.traced_causes, e.causes_length, e.chain_eq_causes, ?_, ?_, e.diagnostics_shown,
    fun _ => rfl⟩
  · intro others
    constructor
    · intro h
      exact h.unique htraced
    · rintro rfl
      exact htraced
  · rintro nested cause (rfl | hnested) hcause
    · exact nested.showsSource cause hcause
    · exact (nested_shown hnested).trans (nested.showsSource cause hcause)
  · intro before cause after hcauses hforeign
    refine htraced.shown hcauses fun earlier hearlier => ?_
    rcases earlier with nested | x
    · exact nested.showsSource
    · exact hforeign x ((List.mem_cons.1 hearlier).resolve_left nofun)

/-- What is behind a connection that failed may be in no text but its own. -/
theorem cause_behind_connection_not_worded :
    let refused := IoError.custom "tcp connect error"
    let unconnected := IoError.caused "client error (Connect)" refused
    let failed := IoError.caused
      "error sending request for url (http://db-1:8182/sparql/gsp/?default)" unconnected
    let e := transport "db-1:8182" failed
    Cause.Traced (.inl e) [.inr failed, .inr unconnected, .inr refused] ∧
      Text.Shows e.message failed.message ∧
      ¬ Text.Shows e.message unconnected.message ∧ ¬ Text.Shows e.message refused.message := by
  refine ⟨?_, ?_, ?_, ?_⟩
  · exact .caused rfl (.caused rfl (.caused rfl (.nothing rfl)))
  · decide +kernel
  · decide +kernel
  · decide +kernel

example : (serverReported "a" (serverReported "b" (.output .writeZero))).chain =
    ["server reported error: b (output error: write zero)", "output error: write zero",
      "write zero"] := by
  decide

end ExportError
end RdfExport
