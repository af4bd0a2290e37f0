import RdfExport.Json.Reader
import RdfExport.Proofs.Text.Hex
import RdfExport.Proofs.Text.Utf8

/-!
# RdfExport.Proofs.Json.Strings

What stands between the quotes of a JSON string (RFC 8259, section 7), and that the reader reads
just this. Escapes name UTF-16 code units, so a string has a text only if its units are those of
one.

* `units`: the UTF-16 code units of a character.
* `letters`: the escapes of one letter.
* `Spells`: the units that characters between quotes spell.
* `SpellsText`: the text of these units, if there is one.
* `readString_iff`: what the reader makes of a string.
-/

namespace RdfExport
namespace Json

/-! ## UTF-16 -/

/-- The UTF-16 code units of a character. -/
def units (c : Char) : List Nat :=
  if c.toNat < 0x10000 then [c.toNat]
  else [0xD800 + (c.toNat - 0x10000) / 0x400, 0xDC00 + (c.toNat - 0x10000) % 0x400]

/-- The text of code units, if they are those of one. -/
def decodeUnits? : List Nat → Option (List Char)
  | [] => some []
  | [u] => (Hex.scalar? u).map ([·])
  | u :: v :: us =>
    match Hex.scalar? u with
    | some c => (decodeUnits? (v :: us)).map (c :: ·)
    | none => (joinUnits? u v).bind fun c => (decodeUnits? us).map (c :: ·)

theorem toNat_range (c : Char) : c.toNat < 0xD800 ∨ 0xDFFF < c.toNat ∧ c.toNat < 0x110000 := c.valid

theorem scalar?_eq_none {n : Nat} (h : 0xD800 ≤ n) (h' : n ≤ 0xDFFF) : Hex.scalar? n = none := by
  rw [Hex.scalar?, if_neg]
  simp only [Nat.isValidChar]
  omega

theorem scalar?_eq_some {n : Nat} {c : Char} (h : Hex.scalar? n = some c) : c.toNat = n := by
  unfold Hex.scalar? at h
  split at h
  · cases h
    exact Utf8.toNat_ofNat ‹_›
  · cases h

theorem joinUnits?_range {u v : Nat} {c : Char} (h : joinUnits? u v = some c) :
    (0xD800 ≤ u ∧ u ≤ 0xDBFF) ∧ 0xDC00 ≤ v ∧ v ≤ 0xDFFF := by
  unfold joinUnits? at h
  split at h
  · simp_all
  · cases h

theorem units_of_joinUnits? {u v : Nat} {c : Char} (h : joinUnits? u v = some c) :
    units c = [u, v] := by
  obtain ⟨⟨hu, hu'⟩, hv, hv'⟩ := joinUnits?_range h
  rw [joinUnits?, if_pos (by simp [*]), Option.some.injEq] at h
  have hc : c.toNat = 0x10000 + (u - 0xD800) * 0x400 + (v - 0xDC00) := by
    rw [← h]
    exact Utf8.toNat_ofNat (by unfold Nat.isValidChar; omega)
  rw [units, if_neg (by omega), hc, List.cons.injEq, List.cons.injEq]
  refine ⟨?_, ?_, rfl⟩ <;> omega

theorem joinUnits?_of_units {u v : Nat} {c : Char} (h : units c = [u, v]) :
    Hex.scalar? u = none ∧ joinUnits? u v = some c := by
  unfold units at h
  split at h
  · cases h
  · have hrange := toNat_range c
    obtain ⟨hu, hv, -⟩ : _ = u ∧ _ = v ∧ True := by simpa using h
    refine ⟨scalar?_eq_none (by omega) (by omega), ?_⟩
    rw [joinUnits?, if_pos (by simp; omega), Option.some.injEq]
    have hc : 0x10000 + (u - 0xD800) * 0x400 + (v - 0xDC00) = c.toNat := by omega
    rw [hc, Char.ofNat_toNat]

/-- A character has one unit, which is its number, or two. -/
theorem units_eq (c : Char) :
    (units c = [c.toNat] ∧ c.toNat < 0x10000) ∨ ∃ u v, units c = [u, v] := by
  by_cases h : c.toNat < 0x10000
  · exact .inl ⟨if_pos h, h⟩
  · exact .inr ⟨_, _, if_neg h⟩

theorem decodeUnits?_scalar {u : Nat} {c : Char} (h : Hex.scalar? u = some c) (us : List Nat) :
    decodeUnits? (u :: us) = (decodeUnits? us).map (c :: ·) := by
  cases us with
  | nil => simp only [decodeUnits?, h, Option.map_some]
  | cons v us => rw [decodeUnits?, h]

theorem decodeUnits?_units (c : Char) (us : List Nat) :
    decodeUnits? (units c ++ us) = (decodeUnits? us).map (c :: ·) := by
  rcases units_eq c with ⟨h, -⟩ | ⟨u, v, h⟩
  · rw [h]
    exact decodeUnits?_scalar (Hex.scalar?_toNat c) us
  · obtain ⟨hu, hjoin⟩ := joinUnits?_of_units h
    rw [h, List.cons_append, List.cons_append, List.nil_append, decodeUnits?, hu]
    simp only [hjoin, Option.bind_some]

theorem decodeUnits?_eq_some {us : List Nat} (hus : ∀ u ∈ us, u < 0x10000) {t : List Char} :
    decodeUnits? us = some t ↔ us = t.flatMap units := by
  constructor
  · intro h
    fun_induction decodeUnits? us generalizing t with
    | case1 => cases h; rfl
    | case2 u =>
      obtain ⟨c, hc, rfl⟩ := Option.map_eq_some_iff.1 h
      have := hus u (by simp)
      rw [List.flatMap_singleton, units, scalar?_eq_some hc, if_pos this]
    | case3 u v us c hc ih =>
      obtain ⟨t, ht, rfl⟩ := Option.map_eq_some_iff.1 h
      have := hus u (by simp)
      rw [List.flatMap_cons, ← ih (fun x hx => hus x (List.mem_cons_of_mem _ hx)) ht, units,
        scalar?_eq_some hc, if_pos this]
      rfl
    | case4 u v us hu ih =>
      obtain ⟨c, hc, h⟩ := Option.bind_eq_some_iff.1 h
      obtain ⟨t, ht, rfl⟩ := Option.map_eq_some_iff.1 h
      rw [List.flatMap_cons, units_of_joinUnits? hc,
        ← ih (fun x hx => hus x (List.mem_cons_of_mem _ (List.mem_cons_of_mem _ hx))) ht]
      rfl
  · rintro rfl
    induction t with
    | nil => rfl
    | cons c t ih =>
      rw [List.flatMap_cons, decodeUnits?_units,
        ih fun u hu => hus u (by simp only [List.flatMap_cons, List.mem_append, hu, or_true])]
      rfl

/-! ## What is spelled -/

/-- The letters that may stand after a backslash, and the characters that they name. -/
def letters : List (Char × Char) :=
  [('"', '"'), ('\\', '\\'), ('/', '/'), ('b', '\x08'), ('f', '\x0C'), ('n', '\n'), ('r', '\r'),
    ('t', '\t')]

theorem letterEscape?_iff {k c : Char} : letterEscape? k = some c ↔ (k, c) ∈ letters := by
  constructor
  · intro h
    unfold letterEscape? at h
    split_ifs at h with hquote hslash hsolidus hb hf hn hr ht
    all_goals
      cases h
      subst_vars
      decide
  · intro h
    have hall : ∀ p ∈ letters, letterEscape? p.1 = some p.2 := by decide
    exact hall (k, c) h

/-- The code units that the characters between the quotes of a string spell. -/
inductive Spells : List Char → List Nat → Prop
  | nil : Spells [] []
  | char {c : Char} {cs : List Char} {us : List Nat} (hcontrol : 0x20 ≤ c.toNat) (hquote : c ≠ '"')
      (hslash : c ≠ '\\') (h : Spells cs us) : Spells (c :: cs) (units c ++ us)
  | letter {k c : Char} {cs : List Char} {us : List Nat} (hk : (k, c) ∈ letters)
      (h : Spells cs us) : Spells ('\\' :: k :: cs) (units c ++ us)
  | unit {u : Nat} {ds cs : List Char} {us : List Nat} (hsize : ds.length = 4)
      (hu : unit? ds = some u) (h : Spells cs us) : Spells ('\\' :: 'u' :: (ds ++ cs)) (u :: us)

/-- The text that the characters between the quotes of a string spell: `none` if their units are
those of no text. -/
def SpellsText (cs : List Char) : Option (List Char) → Prop
  | some t => Spells cs (t.flatMap units)
  | none => ∃ us, Spells cs us ∧ ∀ t : List Char, us ≠ t.flatMap units

theorem unit?_lt {ds : List Char} {u : Nat} (h : unit? ds = some u) : u < 0x10000 := by
  obtain ⟨⟨m, rest⟩, hread, rfl⟩ := Option.map_eq_some_iff.1 h
  exact (Hex.read_bounds hread).2

theorem Spells.lt {cs : List Char} {us : List Nat} (h : Spells cs us) : ∀ u ∈ us, u < 0x10000 := by
  have hunits : ∀ c : Char, ∀ u ∈ units c, u < 0x10000 := by
    intro c u hu
    have hrange := toNat_range c
    unfold units at hu
    split at hu
    · simp_all
    · simp only [List.mem_cons, List.not_mem_nil, or_false] at hu
      omega
  induction h with
  | nil => simp
  | @char c _ _ _ _ _ _ ih =>
    intro u hu
    exact (List.mem_append.1 hu).elim (hunits c u) (ih u)
  | @letter _ c _ _ _ _ ih =>
    intro u hu
    exact (List.mem_append.1 hu).elim (hunits c u) (ih u)
  | unit _ hu' _ ih =>
    intro u hu
    rcases List.mem_cons.1 hu with rfl | hu
    · exact unit?_lt hu'
    · exact ih u hu

theorem unit?_append {ds : List Char} (h : ds.length = 4) (rest : List Char) :
    unit? (ds ++ rest) = unit? ds :=
  Hex.read_append (Nat.le_of_eq h.symm) rest

theorem unit?_split {cs : List Char} {u : Nat} (h : unit? cs = some u) :
    ∃ ds rest, cs = ds ++ rest ∧ ds.length = 4 ∧ unit? ds = some u ∧ cs.drop 4 = rest := by
  obtain ⟨⟨m, left⟩, hread, -⟩ := Option.map_eq_some_iff.1 h
  have hsize : (cs.take 4).length = 4 := by
    rw [List.length_take]
    exact Nat.min_eq_left (Hex.read_bounds hread).1
  refine ⟨cs.take 4, cs.drop 4, (List.take_append_drop 4 cs).symm, hsize, ?_, rfl⟩
  rw [← unit?_append hsize (cs.drop 4), List.take_append_drop, h]

/-! ## What is read -/

def readSpelling : List Char → Option (List Nat × List Char)
  | [] => none
  | '"' :: rest => some ([], rest)
  | '\\' :: k :: rest =>
    match letterEscape? k with
    | some c => (readSpelling rest).map fun p => (units c ++ p.1, p.2)
    | none =>
      if k = 'u' then
        match unit? rest with
        | some u => (readSpelling (rest.drop 4)).map fun p => (u :: p.1, p.2)
        | none => none
      else none
  | c :: rest =>
    if c.toNat < 0x20 || c = '\\' then none
    else (readSpelling rest).map fun p => (units c ++ p.1, p.2)
  termination_by cs => cs.length
  decreasing_by all_goals simp; try omega

theorem readSpelling_char {c : Char} (hcontrol : 0x20 ≤ c.toNat) (hquote : c ≠ '"')
    (hslash : c ≠ '\\') (rest : List Char) :
    readSpelling (c :: rest) = (readSpelling rest).map fun p => (units c ++ p.1, p.2) := by
  rw [readSpelling.eq_4 _ _ hquote fun _ _ h _ => hslash h, if_neg]
  simp only [hslash, decide_false, Bool.or_false, decide_eq_true_eq]
  omega

theorem readSpelling_letter {k c : Char} (h : letterEscape? k = some c) (rest : List Char) :
    readSpelling ('\\' :: k :: rest) = (readSpelling rest).map fun p => (units c ++ p.1, p.2) := by
  rw [readSpelling, h]

theorem readSpelling_unit {cs : List Char} {u : Nat} (h : unit? cs = some u) :
    readSpelling ('\\' :: 'u' :: cs) = (readSpelling (cs.drop 4)).map fun p => (u :: p.1, p.2) := by
  have hletter : letterEscape? 'u' = none := by decide
  rw [readSpelling, hletter]
  simp only [if_true, h]

/-- What is read is what the characters before the closing quote spell. -/
theorem readSpelling_iff {cs rest : List Char} {us : List Nat} :
    readSpelling cs = some (us, rest) ↔
      ∃ content, cs = content ++ '"' :: rest ∧ Spells content us := by
  constructor
  · intro h
    fun_induction readSpelling cs generalizing us with
    | case1 => cases h
    | case2 rest' => cases h; exact ⟨[], rfl, .nil⟩
    | case3 k rest' c hc ih =>
      obtain ⟨⟨us, left⟩, hread, ⟨⟩⟩ := Option.map_eq_some_iff.1 h
      obtain ⟨content, rfl, hspells⟩ := ih hread
      exact ⟨'\\' :: k :: content, rfl, .letter (letterEscape?_iff.1 hc) hspells⟩
    | case4 cs u hu _ ih =>
      obtain ⟨⟨us, left⟩, hread, ⟨⟩⟩ := Option.map_eq_some_iff.1 h
      obtain ⟨content, hrest, hspells⟩ := ih hread
      obtain ⟨ds, more, rfl, hsize, hds, hdrop⟩ := unit?_split hu
      refine ⟨'\\' :: 'u' :: (ds ++ content), ?_, .unit hsize hds hspells⟩
      rw [← hdrop, hrest]
      simp only [List.cons_append, List.append_assoc]
    | case5 => cases h
    | case6 => cases h
    | case7 => cases h
    | case8 c cs hquote _ hplain ih =>
      obtain ⟨⟨us, left⟩, hread, ⟨⟩⟩ := Option.map_eq_some_iff.1 h
      obtain ⟨content, rfl, hspells⟩ := ih hread
      simp only [Bool.or_eq_true, decide_eq_true_eq, not_or, Nat.not_lt] at hplain
      exact ⟨c :: content, rfl, .char hplain.1 hquote hplain.2 hspells⟩
  · rintro ⟨content, rfl, h⟩
    induction h with
    | nil => rw [List.nil_append, readSpelling]
    | char hcontrol hquote hslash _ ih =>
      rw [List.cons_append, readSpelling_char hcontrol hquote hslash, ih]
      rfl
    | letter hk _ ih =>
      rw [List.cons_append, List.cons_append, readSpelling_letter (letterEscape?_iff.2 hk), ih]
      rfl
    | unit hsize hu _ ih =>
      rw [List.cons_append, List.cons_append, List.append_assoc, readSpelling_unit, ← hsize,
        List.drop_left, ih]
      · rfl
      · rw [unit?_append hsize, hu]

/-- A unit that can only be the second half of a pair was named by an escape. -/
theorem readSpelling_low {cs rest : List Char} {v : Nat} {us : List Nat}
    (h : readSpelling cs = some (v :: us, rest)) (hlow : 0xDC00 ≤ v) (hhigh : v ≤ 0xDFFF) :
    ∃ more, cs = '\\' :: 'u' :: more ∧ unit? more = some v := by
  obtain ⟨content, rfl, hspells⟩ := readSpelling_iff.1 h
  have hunits : ∀ {c : Char} {us' : List Nat}, units c ++ us' ≠ v :: us := by
    intro c us' heq
    have hrange := toNat_range c
    unfold units at heq
    split at heq
    · obtain ⟨rfl, -⟩ := List.cons.inj heq
      omega
    · obtain ⟨rfl, -⟩ := List.cons.inj heq
      omega
  generalize hus : v :: us = all at hspells
  cases hspells with
  | nil => cases hus
  | char => exact absurd hus.symm hunits
  | letter => exact absurd hus.symm hunits
  | @unit u ds cs us' hsize hu _ =>
    obtain ⟨rfl, -⟩ := List.cons.inj hus
    refine ⟨ds ++ (cs ++ '"' :: rest), by simp, ?_⟩
    rw [unit?_append hsize, hu]

/-- What stands after `\u` is a character, a pair of halves of one, or one half alone. -/
theorem readUnits_cases {cs : List Char} {u : Nat} (hu : unit? cs = some u) :
    (∃ c, Hex.scalar? u = some c ∧ readUnits cs = some (some c, 4)) ∨
    (Hex.scalar? u = none ∧ ∃ v more c, cs.drop 4 = '\\' :: 'u' :: more ∧ unit? more = some v ∧
      joinUnits? u v = some c ∧ readUnits cs = some (some c, 10)) ∨
    (Hex.scalar? u = none ∧ readUnits cs = some (none, 4) ∧
      ∀ v more, cs.drop 4 = '\\' :: 'u' :: more → unit? more = some v → joinUnits? u v = none) := by
  cases hscalar : Hex.scalar? u with
  | some c => exact .inl ⟨c, rfl, by simp only [readUnits, hu, hscalar]⟩
  | none =>
    right
    by_cases hpair : ∃ v more c, cs.drop 4 = '\\' :: 'u' :: more ∧ unit? more = some v ∧
        joinUnits? u v = some c
    · obtain ⟨v, more, c, hdrop, hv, hjoin⟩ := hpair
      exact .inl ⟨rfl, v, more, c, hdrop, hv, hjoin,
        by simp only [readUnits, hu, hscalar, hdrop, hv, hjoin]⟩
    · have halone : ∀ v more, cs.drop 4 = '\\' :: 'u' :: more → unit? more = some v →
          joinUnits? u v = none := by
        intro v more hdrop hv
        rw [Option.eq_none_iff_forall_ne_some]
        exact fun c hjoin => hpair ⟨v, more, c, hdrop, hv, hjoin⟩
      refine .inr ⟨rfl, ?_, halone⟩
      simp only [readUnits, hu, hscalar]
      split
      · rename_i more hdrop
        cases hv : unit? more with
        | none => rfl
        | some v => simp only [halone v more hdrop hv]
      · rfl

/-- A half of a pair without the other half has no text. -/
theorem decodeUnits?_half {u : Nat} (hu : Hex.scalar? u = none) {us : List Nat}
    (h : ∀ v ∈ us.head?, joinUnits? u v = none) : decodeUnits? (u :: us) = none := by
  cases us with
  | nil => rw [decodeUnits?, hu, Option.map_none]
  | cons v us => simp only [decodeUnits?, hu, h v rfl, Option.bind_none]

theorem readString_eq (cs : List Char) :
    readString cs = (readSpelling cs).map fun p => (decodeUnits? p.1, p.2) := by
  fun_induction readString cs with
  | case1 => rw [readSpelling, Option.map_none]
  | case2 rest => rw [readSpelling, Option.map_some, decodeUnits?]
  | case3 k rest c hc ih =>
    rw [ih, readSpelling_letter hc, Option.map_map, Option.map_map]
    simp only [Function.comp_def, decodeUnits?_units]
  | case4 rest c n hunits _ ih =>
    rw [ih]
    cases hu : unit? rest with
    | none => simp [readUnits, hu] at hunits
    | some u =>
      rw [readSpelling_unit hu]
      rcases readUnits_cases hu with ⟨_, hc, hread⟩ | ⟨hhalf, v, more, _, hdrop, hv, hjoin, hread⟩ |
        ⟨_, hread, _⟩
      · cases hread.symm.trans hunits
        rw [Option.map_map, Option.map_map]
        simp only [Function.comp_def, decodeUnits?_scalar hc]
      · cases hread.symm.trans hunits
        have htail : rest.drop 10 = more.drop 4 := by
          have := congrArg (List.drop 6) hdrop
          rwa [List.drop_drop] at this
        rw [hdrop, readSpelling_unit hv, htail]
        simp only [Option.map_map, Function.comp_def, decodeUnits?, hhalf, hjoin, Option.bind_some]
      · cases hread.symm.trans hunits
  | case5 rest n hunits _ ih =>
    rw [ih]
    cases hu : unit? rest with
    | none => simp [readUnits, hu] at hunits
    | some u =>
      rw [readSpelling_unit hu]
      rcases readUnits_cases hu with ⟨_, _, hread⟩ | ⟨_, _, _, _, _, _, _, hread⟩ |
        ⟨hhalf, hread, halone⟩
      · cases hread.symm.trans hunits
      · cases hread.symm.trans hunits
      · cases hread.symm.trans hunits
        cases hspelling : readSpelling (rest.drop 4) with
        | none => rfl
        | some p =>
          obtain ⟨us, left⟩ := p
          simp only [Option.map_some]
          rw [decodeUnits?_half hhalf]
          intro v hv
          rw [Option.eq_none_iff_forall_ne_some]
          intro c hjoin
          obtain ⟨us, rfl⟩ := List.head?_eq_some_iff.1 hv
          obtain ⟨-, hlow, hhigh⟩ := joinUnits?_range hjoin
          obtain ⟨more, hdrop, hmore⟩ := readSpelling_low hspelling hlow hhigh
          rw [halone v more hdrop hmore] at hjoin
          cases hjoin
  | case6 rest hunits _ =>
    cases hu : unit? rest with
    | none =>
      have hletter : letterEscape? 'u' = none := by decide
      rw [readSpelling, hletter]
      simp only [if_true, hu, Option.map_none]
    | some u =>
      rcases readUnits_cases hu with ⟨_, _, hread⟩ | ⟨_, _, _, _, _, _, _, hread⟩ | ⟨_, hread, _⟩
      all_goals cases hread.symm.trans hunits
  | case7 k rest hk hu =>
    rw [readSpelling, hk]
    simp only [hu, if_false, Option.map_none]
  | case8 c rest hquote hslash hbad =>
    rw [readSpelling.eq_4 _ _ hquote hslash, if_pos hbad, Option.map_none]
  | case9 c rest hquote hslash hplain ih =>
    rw [ih, readSpelling.eq_4 _ _ hquote hslash, if_neg hplain, Option.map_map, Option.map_map]
    simp only [Function.comp_def, decodeUnits?_units]

theorem spellsText_iff {cs : List Char} {t : Option (List Char)} :
    SpellsText cs t ↔ ∃ us, Spells cs us ∧ decodeUnits? us = t := by
  cases t with
  | some t =>
    constructor
    · intro h
      exact ⟨_, h, (decodeUnits?_eq_some h.lt).2 rfl⟩
    · rintro ⟨us, h, ht⟩
      rw [(decodeUnits?_eq_some h.lt).1 ht] at h
      exact h
  | none =>
    refine exists_congr fun us => and_congr_right fun h => ?_
    rw [Option.eq_none_iff_forall_ne_some]
    exact forall_congr' fun t => not_congr (decodeUnits?_eq_some h.lt).symm

/-- **What is read of a string** is the text that the characters before its closing quote spell. -/
theorem readString_iff {cs rest : List Char} {t : Option (List Char)} :
    readString cs = some (t, rest) ↔
      ∃ content, cs = content ++ '"' :: rest ∧ SpellsText content t := by
  rw [readString_eq, Option.map_eq_some_iff]
  constructor
  · rintro ⟨⟨us, left⟩, hread, ⟨⟩⟩
    obtain ⟨content, rfl, hspells⟩ := readSpelling_iff.1 hread
    exact ⟨content, rfl, spellsText_iff.2 ⟨us, hspells, rfl⟩⟩
  · rintro ⟨content, rfl, htext⟩
    obtain ⟨us, hspells, rfl⟩ := spellsText_iff.1 htext
    exact ⟨(us, rest), readSpelling_iff.2 ⟨content, rfl, hspells⟩, rfl⟩

end Json
end RdfExport
