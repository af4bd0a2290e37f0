import RdfExport.Json.Writer
import RdfExport.Proofs.Json.Grammar

/-!
# RdfExport.Proofs.Json.Written

A written document is read back.

* `digits_toDigits`: the value of the digits of a number.
* `spells_written`, `isNumber_toDigits`: written strings and numbers are strings and numbers.
* `IsPlain`: documents whose strings have text and whose numbers are natural.
* `ofString?_render`: a plain document comes back from its text.
-/

namespace RdfExport

namespace Json

/-! ## Strings -/

theorem spells_escapeChar (c : Char) {cs : List Char} {us : List Nat} (h : Spells cs us) :
    Spells (escapeChar c ++ cs) (units c ++ us) := by
  unfold escapeChar
  split_ifs with hquote hslash hb hf hn hr ht hcontrol
  · subst hquote; exact .letter (by decide) h
  · subst hslash; exact .letter (by decide) h
  · subst hb; exact .letter (by decide) h
  · subst hf; exact .letter (by decide) h
  · subst hn; exact .letter (by decide) h
  · subst hr; exact .letter (by decide) h
  · subst ht; exact .letter (by decide) h
  · have hunits : units c = [c.toNat] := if_pos (by omega)
    have hu : unit? ['0', '0', Hex.lower (c.toNat / 16), Hex.lower (c.toNat % 16)] =
        some c.toNat := by
      rw [unit?, Hex.read_lower (by omega), Option.map_some]
    rw [hunits]
    exact Spells.unit (by rfl) hu h
  · exact .char (by omega) hquote hslash h

theorem spells_written (cs : List Char) : Spells (cs.flatMap escapeChar) (cs.flatMap units) := by
  induction cs with
  | nil => exact .nil
  | cons c cs ih => exact spells_escapeChar c ih

theorem spellsText_written (s : String) :
    SpellsText (s.toList.flatMap escapeChar) (some s.toList) := spells_written s.toList

/-! ## Numbers -/

theorem digits_eq_ofDigitChars (cs : List Char) : digits cs = Nat.ofDigitChars 10 cs 0 := by
  rw [digits, Nat.ofDigitChars_eq_foldl]
  congr 1
  funext n c
  rw [Nat.mul_comm]

theorem digits_toDigits (n : Nat) : digits (Nat.toDigits 10 n) = n := by
  rw [digits_eq_ofDigitChars, Nat.ofDigitChars_ten_toDigits]

theorem isDigit_of_mem_toDigits (n : Nat) : ∀ c ∈ Nat.toDigits 10 n, c.isDigit = true := by
  intro c hc
  exact Nat.isDigit_of_mem_toDigits (by decide) (by decide) hc

/-- The digits of a number start with zero for zero only. -/
theorem toDigits_zero_cons {n : Nat} {ds : List Char} (h : Nat.toDigits 10 n = '0' :: ds) :
    n = 0 ∧ ds = [] := by
  induction n using Nat.strongRecOn generalizing ds with
  | ind n ih =>
    rcases Nat.lt_or_ge n 10 with hsmall | hlarge
    · rw [Nat.toDigits_of_lt_base hsmall] at h
      obtain ⟨hchar, rfl⟩ := List.cons.inj h
      exact ⟨Nat.digitChar_eq_zero.1 hchar, rfl⟩
    · rw [Nat.toDigits_of_base_le (by decide) hlarge] at h
      obtain ⟨c, cs, hcs⟩ := List.exists_cons_of_ne_nil (@Nat.toDigits_ne_nil (n / 10) 10)
      rw [hcs, List.cons_append] at h
      obtain ⟨rfl, -⟩ := List.cons.inj h
      have := (ih (n / 10) (by omega) hcs).1
      omega

theorem isNumber_toDigits (n : Nat) : IsNumber (Nat.toDigits 10 n) := by
  have hdigits : IsDigits (Nat.toDigits 10 n) :=
    ⟨Nat.toDigits_ne_nil, isDigit_of_mem_toDigits n⟩
  have hwhole : IsWhole (Nat.toDigits 10 n) := by
    by_cases hzero : (Nat.toDigits 10 n).head? = some '0'
    · obtain ⟨ds, hds⟩ := List.head?_eq_some_iff.1 hzero
      obtain ⟨rfl, -⟩ := toDigits_zero_cons hds
      exact .zero
    · exact .digits hdigits hzero
  have hparts := IsUnsigned.parts hwhole .none .none
  rw [List.append_nil, List.append_nil] at hparts
  exact .unsigned hparts

/-! ## Documents -/

/-- Documents whose strings have text and whose numbers are natural. -/
inductive IsPlain : Json → Prop
  | null : IsPlain .null
  | bool (b : Bool) : IsPlain (.bool b)
  | nat (n : Nat) : IsPlain (nat n)
  | str (s : String) : IsPlain (str s)
  | array {items : List Json} (h : ∀ v ∈ items, IsPlain v) : IsPlain (.array items)
  | object {members : List (Option String × Json)} (hnames : ∀ m ∈ members, m.1.isSome = true)
      (h : ∀ m ∈ members, IsPlain m.2) : IsPlain (.object members)

theorem Denotes.bare {cs : List Char} {j : Json} (h : Denotes cs (.value j)) :
    Denotes cs (.item j) := by
  have := Denotes.item IsBlank.nil h IsBlank.nil
  rwa [List.append_nil] at this

theorem denotes_writeItems {js : List Json} (h : ∀ j ∈ js, Denotes (write j) (.value j)) :
    ∃ tail, writeItems js = tail ++ [']'] ∧
      ∀ {cs : List Char} {j : Json}, Denotes cs (.item j) →
        Denotes (cs ++ tail) (.items (j :: js)) := by
  induction js with
  | nil => exact ⟨[], rfl, fun hj => by rw [List.append_nil]; exact .lastItem hj⟩
  | cons j js ih =>
    obtain ⟨tail, htail, hitems⟩ := ih fun x hx => h x (List.mem_cons_of_mem _ hx)
    refine ⟨',' :: (write j ++ tail), ?_, fun hfirst => ?_⟩
    · simp [writeItems, htail]
    · exact .nextItem hfirst (hitems (h j List.mem_cons_self).bare)

theorem denotes_writeMember (name : String) {j : Json} (h : Denotes (write j) (.value j)) :
    Denotes (writeString name ++ ':' :: write j) (.member (some name, j)) := by
  have := Denotes.member IsBlank.nil (spellsText_written name) IsBlank.nil h.bare
  simpa [writeString, String.ofList_toList] using this

/-- The members of an object after the first denote themselves, up to the closing brace. -/
theorem denotes_writeMembers {ms : List (Option String × Json)}
    (hnames : ∀ m ∈ ms, m.1.isSome = true) (h : ∀ m ∈ ms, Denotes (write m.2) (.value m.2)) :
    ∃ tail, writeMembers ms = tail ++ ['}'] ∧
      ∀ {cs : List Char} {m : Option String × Json}, Denotes cs (.member m) →
        Denotes (cs ++ tail) (.members (m :: ms)) := by
  induction ms with
  | nil => exact ⟨[], rfl, fun hm => by rw [List.append_nil]; exact .lastMember hm⟩
  | cons m ms ih =>
    obtain ⟨k, j⟩ := m
    obtain ⟨name, rfl⟩ := Option.isSome_iff_exists.1 (hnames (k, j) List.mem_cons_self)
    obtain ⟨tail, htail, hmembers⟩ := ih (fun x hx => hnames x (List.mem_cons_of_mem _ hx))
      fun x hx => h x (List.mem_cons_of_mem _ hx)
    refine ⟨',' :: (writeString name ++ ':' :: write j ++ tail), ?_, fun hfirst => ?_⟩
    · simp [writeMembers, writeText, htail]
    · exact .nextMember hfirst (hmembers (denotes_writeMember name (h _ List.mem_cons_self)))

/-- A plain document that is written denotes itself. -/
theorem IsPlain.denotes {j : Json} (h : IsPlain j) : Denotes (write j) (.value j) := by
  induction h with
  | null => exact .null
  | bool b =>
    cases b with
    | true => exact .yes
    | false => exact .no
  | nat n => exact .number (isNumber_toDigits n)
  | str s =>
    have := Denotes.string (spellsText_written s)
    rwa [Option.map_some, String.ofList_toList] at this
  | @array items _ ih =>
    cases items with
    | nil => exact .emptyArray IsBlank.nil
    | cons j js =>
      obtain ⟨tail, htail, hitems⟩ :=
        denotes_writeItems fun x hx => ih x (List.mem_cons_of_mem _ hx)
      have := Denotes.array (hitems (ih j List.mem_cons_self).bare)
      simpa [write, htail] using this
  | @object members hnames _ ih =>
    cases members with
    | nil => exact .emptyObject IsBlank.nil
    | cons m ms =>
      obtain ⟨k, j⟩ := m
      obtain ⟨name, rfl⟩ := Option.isSome_iff_exists.1 (hnames (k, j) List.mem_cons_self)
      obtain ⟨tail, htail, hmembers⟩ := denotes_writeMembers
        (fun x hx => hnames x (List.mem_cons_of_mem _ hx))
        fun x hx => ih x (List.mem_cons_of_mem _ hx)
      have := Denotes.object (hmembers (denotes_writeMember name (ih _ List.mem_cons_self)))
      simpa [write, writeText, htail] using this

/-- **A plain document comes back from its text.** -/
theorem ofString?_render {j : Json} (h : IsPlain j) : ofString? j.render = some j := by
  rw [ofString?_iff, IsDocument, render, String.toList_ofList]
  exact h.denotes.bare

end Json
end RdfExport
