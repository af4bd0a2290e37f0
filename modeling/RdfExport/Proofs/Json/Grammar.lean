import RdfExport.Proofs.Json.Numbers
import RdfExport.Proofs.Json.Strings

/-!
# RdfExport.Proofs.Json.Grammar

The grammar of JSON documents (RFC 8259), and that the reader reads just these.

* `Denotes`: the texts of the parts of a document, with the white space that may stand in them.
* `IsDocument`: a text that is a document.
* `ofString?_iff`: what is read of a text is the document that it is. So a text is one document at
  most.
-/

namespace RdfExport
namespace Json

def IsBlank (cs : List Char) : Prop := ∀ c ∈ cs, c = ' ' ∨ c = '\t' ∨ c = '\n' ∨ c = '\r'

/-- What a text can stand for in a document. An item is a value with white space around it. -/
inductive Part where
  | value (j : Json)
  | item (j : Json)
  | items (js : List Json)
  | member (m : Option String × Json)
  | members (ms : List (Option String × Json))

inductive Denotes : List Char → Part → Prop
  | null : Denotes ['n', 'u', 'l', 'l'] (.value .null)
  | yes : Denotes ['t', 'r', 'u', 'e'] (.value (.bool true))
  | no : Denotes ['f', 'a', 'l', 's', 'e'] (.value (.bool false))
  | number {cs : List Char} (h : IsNumber cs) : Denotes cs (.value (.number cs))
  | string {cs : List Char} {t : Option (List Char)} (h : SpellsText cs t) :
      Denotes ('"' :: (cs ++ ['"'])) (.value (.string (t.map String.ofList)))
  | emptyArray {ws : List Char} (hws : IsBlank ws) :
      Denotes ('[' :: (ws ++ [']'])) (.value (.array []))
  | array {cs : List Char} {js : List Json} (h : Denotes cs (.items js)) :
      Denotes ('[' :: (cs ++ [']'])) (.value (.array js))
  | emptyObject {ws : List Char} (hws : IsBlank ws) :
      Denotes ('{' :: (ws ++ ['}'])) (.value (.object []))
  | object {cs : List Char} {ms : List (Option String × Json)} (h : Denotes cs (.members ms)) :
      Denotes ('{' :: (cs ++ ['}'])) (.value (.object ms))
  | item {before cs after : List Char} {j : Json} (hbefore : IsBlank before)
      (h : Denotes cs (.value j)) (hafter : IsBlank after) :
      Denotes (before ++ (cs ++ after)) (.item j)
  | lastItem {cs : List Char} {j : Json} (h : Denotes cs (.item j)) : Denotes cs (.items [j])
  | nextItem {cs rest : List Char} {j : Json} {js : List Json} (h : Denotes cs (.item j))
      (hrest : Denotes rest (.items js)) : Denotes (cs ++ ',' :: rest) (.items (j :: js))
  | member {before key gap cs : List Char} {name : Option (List Char)} {j : Json}
      (hbefore : IsBlank before) (hkey : SpellsText key name) (hgap : IsBlank gap)
      (h : Denotes cs (.item j)) :
      Denotes (before ++ '"' :: (key ++ '"' :: (gap ++ ':' :: cs)))
        (.member (name.map String.ofList, j))
  | lastMember {cs : List Char} {m : Option String × Json} (h : Denotes cs (.member m)) :
      Denotes cs (.members [m])
  | nextMember {cs rest : List Char} {m : Option String × Json} {ms : List (Option String × Json)}
      (h : Denotes cs (.member m)) (hrest : Denotes rest (.members ms)) :
      Denotes (cs ++ ',' :: rest) (.members (m :: ms))

/-- The text `s` is the document `j`, with white space around it. -/
def IsDocument (s : String) (j : Json) : Prop := Denotes s.toList (.item j)

/-! ## White space -/

theorem isSpace_iff {c : Char} : isSpace c = true ↔ c = ' ' ∨ c = '\t' ∨ c = '\n' ∨ c = '\r' := by
  simp only [isSpace, Bool.or_eq_true, decide_eq_true_eq, or_assoc]

theorem IsBlank.nil : IsBlank [] := fun c hc => by cases hc

theorem skipSpace_cons {c : Char} (h : isSpace c = false) (cs : List Char) :
    skipSpace (c :: cs) = c :: cs := List.dropWhile_cons_of_neg (by simp [h])

theorem IsBlank.skipSpace_append {ws : List Char} (h : IsBlank ws) (cs : List Char) :
    skipSpace (ws ++ cs) = skipSpace cs :=
  List.dropWhile_append_of_pos fun c hc => isSpace_iff.2 (h c hc)

theorem exists_blank {cs rest : List Char} (h : skipSpace cs = rest) :
    ∃ ws, IsBlank ws ∧ cs = ws ++ rest := by
  subst h
  exact ⟨cs.takeWhile isSpace, fun c hc => isSpace_iff.1 (List.mem_takeWhile_imp hc),
    List.takeWhile_append_dropWhile.symm⟩

theorem isSpace_of_isDigit {c : Char} (h : c.isDigit = true ∨ c = '-') : isSpace c = false := by
  rw [← Bool.not_eq_true, isSpace_iff]
  rintro (rfl | rfl | rfl | rfl) <;> revert h <;> decide

/-! ## What is read is a document -/

/-- What is read with so much fuel is what the characters denote. -/
structure Sound (fuel : Nat) : Prop where
  value : ∀ {cs rest : List Char} {j : Json}, readValue fuel cs = some (j, rest) →
    ∃ ws content, cs = ws ++ (content ++ rest) ∧ IsBlank ws ∧ Denotes content (.value j)
  items : ∀ {cs rest : List Char} {js : List Json}, readItems fuel cs = some (js, rest) →
    ∃ content, cs = content ++ ']' :: rest ∧ Denotes content (.items js)
  members : ∀ {cs rest : List Char} {ms : List (Option String × Json)},
    readMembers fuel cs = some (ms, rest) →
      ∃ content, cs = content ++ '}' :: rest ∧ Denotes content (.members ms)

theorem readLeaf_sound {cs rest : List Char} {j : Json} (h : readLeaf cs = some (j, rest)) :
    ∃ content, cs = content ++ rest ∧ Denotes content (.value j) := by
  unfold readLeaf at h
  split at h
  · cases h; exact ⟨_, rfl, .null⟩
  · cases h; exact ⟨_, rfl, .yes⟩
  · cases h; exact ⟨_, rfl, .no⟩
  · obtain ⟨⟨t, left⟩, hread, ⟨⟩⟩ := Option.map_eq_some_iff.1 h
    obtain ⟨content, rfl, htext⟩ := readString_iff.1 hread
    exact ⟨'"' :: (content ++ ['"']), by simp, .string htext⟩
  · obtain ⟨ds, rfl, hds, rfl⟩ := readNumber_sound h
    exact ⟨ds, rfl, .number hds⟩

namespace Sound

variable {fuel : Nat} {cs rest : List Char}

theorem value_succ (hs : Sound fuel) {j : Json} (h : readValue (fuel + 1) cs = some (j, rest)) :
    ∃ ws content, cs = ws ++ (content ++ rest) ∧ IsBlank ws ∧ Denotes content (.value j) := by
  rw [readValue] at h
  split at h
  · rename_i inner hopen
    obtain ⟨ws, hws, rfl⟩ := exists_blank hopen
    split at h
    · rename_i after hclose
      obtain ⟨gap, hgap, rfl⟩ := exists_blank hclose
      cases h
      exact ⟨ws, '[' :: (gap ++ [']']), by simp, hws, .emptyArray hgap⟩
    · obtain ⟨⟨js, left⟩, hread, ⟨⟩⟩ := Option.map_eq_some_iff.1 h
      obtain ⟨content, rfl, hitems⟩ := hs.items hread
      exact ⟨ws, '[' :: (content ++ [']']), by simp, hws, .array hitems⟩
  · rename_i inner hopen
    obtain ⟨ws, hws, rfl⟩ := exists_blank hopen
    split at h
    · rename_i after hclose
      obtain ⟨gap, hgap, rfl⟩ := exists_blank hclose
      cases h
      exact ⟨ws, '{' :: (gap ++ ['}']), by simp, hws, .emptyObject hgap⟩
    · obtain ⟨⟨ms, left⟩, hread, ⟨⟩⟩ := Option.map_eq_some_iff.1 h
      obtain ⟨content, rfl, hmembers⟩ := hs.members hread
      exact ⟨ws, '{' :: (content ++ ['}']), by simp, hws, .object hmembers⟩
  · obtain ⟨ws, hws, hcs⟩ := exists_blank (rfl : skipSpace cs = _)
    obtain ⟨content, hcontent, hvalue⟩ := readLeaf_sound h
    exact ⟨ws, content, by rw [hcs, hcontent], hws, hvalue⟩

theorem item (hs : Sound fuel) {j : Json} {after : List Char}
    (h : readValue fuel cs = some (j, after)) (hrest : skipSpace after = rest) :
    ∃ content, cs = content ++ rest ∧ Denotes content (.item j) := by
  obtain ⟨before, content, rfl, hbefore, hvalue⟩ := hs.value h
  obtain ⟨gap, hgap, rfl⟩ := exists_blank hrest
  exact ⟨before ++ (content ++ gap), by simp, .item hbefore hvalue hgap⟩

theorem items_succ (hs : Sound fuel) {js : List Json}
    (h : readItems (fuel + 1) cs = some (js, rest)) :
    ∃ content, cs = content ++ ']' :: rest ∧ Denotes content (.items js) := by
  rw [readItems] at h
  split at h
  · cases h
  · rename_i j after hread
    split at h
    · rename_i more hnext
      obtain ⟨⟨js, left⟩, hmore, ⟨⟩⟩ := Option.map_eq_some_iff.1 h
      obtain ⟨content, rfl, hitem⟩ := hs.item hread hnext
      obtain ⟨content', rfl, hitems⟩ := hs.items hmore
      exact ⟨content ++ ',' :: content', by simp, .nextItem hitem hitems⟩
    · rename_i hnext
      cases h
      obtain ⟨content, rfl, hitem⟩ := hs.item hread hnext
      exact ⟨content, rfl, .lastItem hitem⟩
    · cases h

theorem members_succ (hs : Sound fuel) {ms : List (Option String × Json)}
    (h : readMembers (fuel + 1) cs = some (ms, rest)) :
    ∃ content, cs = content ++ '}' :: rest ∧ Denotes content (.members ms) := by
  rw [readMembers] at h
  split at h
  · rename_i quoted hquote
    obtain ⟨before, hbefore, rfl⟩ := exists_blank hquote
    split at h
    · cases h
    · rename_i name afterKey hkey
      obtain ⟨key, rfl, hname⟩ := readString_iff.1 hkey
      split at h
      · rename_i value hcolon
        obtain ⟨gap, hgap, rfl⟩ := exists_blank hcolon
        split at h
        · cases h
        · rename_i j after hread
          simp only at h
          split at h
          · rename_i more hnext
            obtain ⟨⟨ms, left⟩, hmore, ⟨⟩⟩ := Option.map_eq_some_iff.1 h
            obtain ⟨content, rfl, hitem⟩ := hs.item hread hnext
            obtain ⟨content', rfl, hmembers⟩ := hs.members hmore
            exact ⟨_, by simp, .nextMember (.member hbefore hname hgap hitem) hmembers⟩
          · rename_i hnext
            cases h
            obtain ⟨content, rfl, hitem⟩ := hs.item hread hnext
            exact ⟨_, by simp, .lastMember (.member hbefore hname hgap hitem)⟩
          · cases h
      · cases h
  · cases h

end Sound

theorem sound (fuel : Nat) : Sound fuel := by
  induction fuel with
  | zero => constructor <;> intros <;> contradiction
  | succ fuel ih => exact ⟨ih.value_succ, ih.items_succ, ih.members_succ⟩

/-! ## Every document is read -/

/-- The parts of a document are read with enough fuel, before what can follow them. -/
def Reads (cs : List Char) : Part → Prop
  | .value j => ∀ fuel ws rest, cs.length ≤ fuel → IsBlank ws → Ends rest →
      readValue fuel (ws ++ (cs ++ rest)) = some (j, rest)
  | .item j => ∀ fuel rest, cs.length ≤ fuel → Ends rest →
      ∃ ws, IsBlank ws ∧ readValue fuel (cs ++ rest) = some (j, ws ++ rest)
  | .items js => ∀ fuel rest, cs.length < fuel →
      readItems fuel (cs ++ ']' :: rest) = some (js, rest)
  | .member m => ∀ fuel rest, cs.length ≤ fuel →
      readMembers (fuel + 1) (cs ++ ',' :: rest) =
          (readMembers fuel rest).map (fun p => (m :: p.1, p.2)) ∧
        readMembers (fuel + 1) (cs ++ '}' :: rest) = some ([m], rest)
  | .members ms => ∀ fuel rest, cs.length < fuel →
      readMembers fuel (cs ++ '}' :: rest) = some (ms, rest)

theorem IsBlank.ends {ws rest : List Char} (hws : IsBlank ws) (hrest : Ends rest) :
    Ends (ws ++ rest) := by
  cases ws with
  | nil => exact hrest
  | cons c ws =>
    refine Ends.cons _ ?_
    rcases hws c (by simp) with rfl | rfl | rfl | rfl <;> decide

/-- The text of a value starts with a character that no white space and no bracket that closes
is taken for. -/
theorem Denotes.value_cons {cs : List Char} {j : Json} (h : Denotes cs (.value j)) :
    ∃ c rest, cs = c :: rest ∧ isSpace c = false ∧ c ≠ ']' := by
  cases h with
  | number h =>
    obtain ⟨d, rest, rfl, hd⟩ := h.exists_cons
    refine ⟨d, rest, rfl, isSpace_of_isDigit hd, ?_⟩
    rintro rfl
    revert hd
    decide
  | _ => exact ⟨_, _, rfl, by decide, by decide⟩

theorem Denotes.item_start {cs : List Char} {j : Json} (h : Denotes cs (.item j))
    (rest : List Char) : ∃ c more, skipSpace (cs ++ rest) = c :: more ∧ c ≠ ']' := by
  cases h with
  | item hbefore hvalue _ =>
    obtain ⟨c, more, rfl, hc, hclose⟩ := hvalue.value_cons
    rw [List.append_assoc, hbefore.skipSpace_append, List.cons_append, List.cons_append,
      skipSpace_cons hc]
    exact ⟨c, _, rfl, hclose⟩

theorem Denotes.items_start {cs : List Char} {js : List Json} (h : Denotes cs (.items js))
    (rest : List Char) : ∃ c more, skipSpace (cs ++ rest) = c :: more ∧ c ≠ ']' := by
  cases h with
  | lastItem h => exact h.item_start rest
  | nextItem h _ =>
    rw [List.append_assoc]
    exact h.item_start _

theorem Denotes.member_start {cs : List Char} {m : Option String × Json}
    (h : Denotes cs (.member m)) (rest : List Char) :
    ∃ more, skipSpace (cs ++ rest) = '"' :: more := by
  cases h with
  | member hbefore _ _ _ =>
    rw [List.append_assoc, hbefore.skipSpace_append, List.cons_append, skipSpace_cons (by decide)]
    exact ⟨_, rfl⟩

theorem Denotes.members_start {cs : List Char} {ms : List (Option String × Json)}
    (h : Denotes cs (.members ms)) (rest : List Char) :
    ∃ more, skipSpace (cs ++ rest) = '"' :: more := by
  cases h with
  | lastMember h => exact h.member_start rest
  | nextMember h _ =>
    rw [List.append_assoc]
    exact h.member_start _

/-- There is fuel for a text that is not empty. -/
theorem exists_fuel {fuel n : Nat} (h : n + 1 ≤ fuel) : ∃ m, fuel = m + 1 ∧ n ≤ m :=
  ⟨fuel - 1, by omega, by omega⟩

theorem readValue_leaf {fuel : Nat} {ws cs : List Char} {c : Char} (hws : IsBlank ws)
    (hc : isSpace c = false) (hopen : c ≠ '[' ∧ c ≠ '{') :
    readValue (fuel + 1) (ws ++ c :: cs) = readLeaf (c :: cs) := by
  rw [readValue, hws.skipSpace_append, skipSpace_cons hc]
  split
  · rename_i heq; exact absurd (List.cons.inj heq).1 hopen.1
  · rename_i heq; exact absurd (List.cons.inj heq).1 hopen.2
  · rfl

/-- What is read as a document without parts, and is no bracket, is read as a value. -/
theorem reads_leaf {c : Char} {cs : List Char} {j : Json} (hc : isSpace c = false)
    (hopen : c ≠ '[' ∧ c ≠ '{')
    (h : ∀ rest, Ends rest → readLeaf (c :: (cs ++ rest)) = some (j, rest)) :
    Reads (c :: cs) (.value j) := by
  intro fuel ws rest hfuel hws hrest
  obtain ⟨fuel, rfl, -⟩ := exists_fuel hfuel
  rw [List.cons_append, readValue_leaf hws hc hopen, h rest hrest]

theorem reads_number {cs : List Char} (h : IsNumber cs) : Reads cs (.value (.number cs)) := by
  have hread : ∀ rest, Ends rest → readNumber (cs ++ rest) = some (.number cs, rest) :=
    fun _ hrest => readNumber_complete h hrest
  obtain ⟨d, ds, rfl, hd⟩ := h.exists_cons
  have hne : ∀ c : Char, c.isDigit = false → c ≠ '-' → d ≠ c := by
    rintro c hc hminus rfl
    rw [hc] at hd
    exact hd.elim (fun h => by cases h) hminus
  refine reads_leaf (isSpace_of_isDigit hd)
    ⟨hne _ (by decide) (by decide), hne _ (by decide) (by decide)⟩ fun rest hrest => ?_
  rw [← List.cons_append, ← hread rest hrest]
  unfold readLeaf
  split
  all_goals first
    | rfl
    | rename_i heq; exact absurd (List.cons.inj heq).1 (hne _ (by decide) (by decide))

theorem reads_string {cs : List Char} {t : Option (List Char)} (h : SpellsText cs t) :
    Reads ('"' :: (cs ++ ['"'])) (.value (.string (t.map String.ofList))) := by
  refine reads_leaf (by decide) (by decide) fun rest _ => ?_
  have hread : readString (cs ++ '"' :: rest) = some (t, rest) := readString_iff.2 ⟨cs, rfl, h⟩
  rw [List.append_assoc, List.singleton_append, readLeaf, hread]
  rfl

theorem reads_emptyArray {gap : List Char} (h : IsBlank gap) :
    Reads ('[' :: (gap ++ [']'])) (.value (.array [])) := by
  intro fuel ws rest hfuel hws _
  obtain ⟨fuel, rfl, -⟩ := exists_fuel hfuel
  rw [List.cons_append, List.append_assoc, List.singleton_append, readValue, hws.skipSpace_append,
    skipSpace_cons (by decide)]
  simp only [h.skipSpace_append, skipSpace_cons (show isSpace ']' = false by decide)]

theorem reads_array {cs : List Char} {js : List Json} (h : Denotes cs (.items js))
    (hreads : Reads cs (.items js)) : Reads ('[' :: (cs ++ [']'])) (.value (.array js)) := by
  intro fuel ws rest hfuel hws _
  obtain ⟨fuel, rfl, hle⟩ := exists_fuel hfuel
  rw [List.length_append] at hle
  obtain ⟨c, more, hstart, hclose⟩ := h.items_start (']' :: rest)
  rw [List.cons_append, List.append_assoc, List.singleton_append, readValue, hws.skipSpace_append,
    skipSpace_cons (by decide)]
  simp only [hreads fuel rest hle, Option.map_some, hstart]
  split
  · rename_i heq; exact absurd (List.cons.inj heq).1 hclose
  · rfl

theorem reads_emptyObject {gap : List Char} (h : IsBlank gap) :
    Reads ('{' :: (gap ++ ['}'])) (.value (.object [])) := by
  intro fuel ws rest hfuel hws _
  obtain ⟨fuel, rfl, -⟩ := exists_fuel hfuel
  rw [List.cons_append, List.append_assoc, List.singleton_append, readValue, hws.skipSpace_append,
    skipSpace_cons (by decide)]
  simp only [h.skipSpace_append, skipSpace_cons (show isSpace '}' = false by decide)]

theorem reads_object {cs : List Char} {ms : List (Option String × Json)}
    (h : Denotes cs (.members ms)) (hreads : Reads cs (.members ms)) :
    Reads ('{' :: (cs ++ ['}'])) (.value (.object ms)) := by
  intro fuel ws rest hfuel hws _
  obtain ⟨fuel, rfl, hle⟩ := exists_fuel hfuel
  rw [List.length_append] at hle
  obtain ⟨more, hstart⟩ := h.members_start ('}' :: rest)
  rw [List.cons_append, List.append_assoc, List.singleton_append, readValue, hws.skipSpace_append,
    skipSpace_cons (by decide)]
  simp only [hreads fuel rest hle, Option.map_some, hstart]
  rfl

theorem reads_item {before cs after : List Char} {j : Json} (hbefore : IsBlank before)
    (hafter : IsBlank after) (hreads : Reads cs (.value j)) :
    Reads (before ++ (cs ++ after)) (.item j) := by
  intro fuel rest hfuel hrest
  rw [List.length_append, List.length_append] at hfuel
  refine ⟨after, hafter, ?_⟩
  rw [List.append_assoc, List.append_assoc]
  exact hreads fuel before (after ++ rest) (by omega) hbefore (hafter.ends hrest)

theorem reads_lastItem {cs : List Char} {j : Json} (hreads : Reads cs (.item j)) :
    Reads cs (.items [j]) := by
  intro fuel rest hfuel
  obtain ⟨fuel, rfl, hle⟩ := exists_fuel hfuel
  obtain ⟨ws, hws, hread⟩ := hreads fuel (']' :: rest) hle (Ends.cons _ (by decide))
  rw [readItems, hread]
  simp only [hws.skipSpace_append, skipSpace_cons (show isSpace ']' = false by decide)]

theorem reads_nextItem {cs more : List Char} {j : Json} {js : List Json}
    (hreads : Reads cs (.item j)) (hmore : Reads more (.items js)) :
    Reads (cs ++ ',' :: more) (.items (j :: js)) := by
  intro fuel rest hfuel
  obtain ⟨fuel, rfl, hle⟩ := exists_fuel hfuel
  rw [List.length_append, List.length_cons] at hle
  obtain ⟨ws, hws, hread⟩ := hreads fuel (',' :: (more ++ ']' :: rest)) (by omega)
    (Ends.cons _ (by decide))
  rw [List.append_assoc, List.cons_append, readItems, hread]
  simp only [hws.skipSpace_append, skipSpace_cons (show isSpace ',' = false by decide),
    hmore fuel rest (by omega), Option.map_some]

theorem reads_member {before key gap cs : List Char} {name : Option (List Char)} {j : Json}
    (hbefore : IsBlank before) (hkey : SpellsText key name) (hgap : IsBlank gap)
    (hreads : Reads cs (.item j)) :
    Reads (before ++ '"' :: (key ++ '"' :: (gap ++ ':' :: cs)))
      (.member (name.map String.ofList, j)) := by
  intro fuel rest hfuel
  simp only [List.length_append, List.length_cons] at hfuel
  have hname : ∀ more, readString (key ++ '"' :: more) = some (name, more) :=
    fun _ => readString_iff.2 ⟨key, rfl, hkey⟩
  have hcolon := skipSpace_cons (show isSpace ':' = false by decide)
  constructor
  · obtain ⟨ws, hws, hread⟩ := hreads fuel (',' :: rest) (by omega) (Ends.cons _ (by decide))
    rw [List.append_assoc, List.cons_append, List.append_assoc, List.cons_append, List.append_assoc,
      List.cons_append, readMembers, hbefore.skipSpace_append, skipSpace_cons (by decide)]
    simp only [hname, hgap.skipSpace_append, hcolon, hread, hws.skipSpace_append,
      skipSpace_cons (show isSpace ',' = false by decide)]
  · obtain ⟨ws, hws, hread⟩ := hreads fuel ('}' :: rest) (by omega) (Ends.cons _ (by decide))
    rw [List.append_assoc, List.cons_append, List.append_assoc, List.cons_append, List.append_assoc,
      List.cons_append, readMembers, hbefore.skipSpace_append, skipSpace_cons (by decide)]
    simp only [hname, hgap.skipSpace_append, hcolon, hread, hws.skipSpace_append,
      skipSpace_cons (show isSpace '}' = false by decide)]

theorem reads_lastMember {cs : List Char} {m : Option String × Json}
    (hreads : Reads cs (.member m)) : Reads cs (.members [m]) := by
  intro fuel rest hfuel
  obtain ⟨fuel, rfl, hle⟩ := exists_fuel hfuel
  exact (hreads fuel rest hle).2

theorem reads_nextMember {cs more : List Char} {m : Option String × Json}
    {ms : List (Option String × Json)} (hreads : Reads cs (.member m))
    (hmore : Reads more (.members ms)) : Reads (cs ++ ',' :: more) (.members (m :: ms)) := by
  intro fuel rest hfuel
  obtain ⟨fuel, rfl, hle⟩ := exists_fuel hfuel
  rw [List.length_append, List.length_cons] at hle
  rw [List.append_assoc, List.cons_append, (hreads fuel _ (by omega)).1,
    hmore fuel rest (by omega), Option.map_some]

/-- **Every part of a document is read.** -/
theorem Denotes.reads {cs : List Char} {p : Part} (h : Denotes cs p) : Reads cs p := by
  induction h with
  | null => exact reads_leaf (by decide) (by decide) fun _ _ => rfl
  | yes => exact reads_leaf (by decide) (by decide) fun _ _ => rfl
  | no => exact reads_leaf (by decide) (by decide) fun _ _ => rfl
  | number h => exact reads_number h
  | string h => exact reads_string h
  | emptyArray hgap => exact reads_emptyArray hgap
  | array h ih => exact reads_array h ih
  | emptyObject hgap => exact reads_emptyObject hgap
  | object h ih => exact reads_object h ih
  | item hbefore _ hafter ih => exact reads_item hbefore hafter ih
  | lastItem _ ih => exact reads_lastItem ih
  | nextItem _ _ ih ihmore => exact reads_nextItem ih ihmore
  | member hbefore hkey hgap _ ih => exact reads_member hbefore hkey hgap ih
  | lastMember _ ih => exact reads_lastMember ih
  | nextMember _ _ ih ihmore => exact reads_nextMember ih ihmore

/-- **What is read of a text is the document that it is.** -/
theorem ofString?_iff {s : String} {j : Json} : ofString? s = some j ↔ IsDocument s j := by
  rw [ofString?, parse?, IsDocument]
  constructor
  · intro h
    split at h
    · rename_i j' rest hread
      split at h
      · rename_i hempty
        cases h
        obtain ⟨content, hcs, hitem⟩ := (sound _).item hread (List.isEmpty_iff.1 hempty)
        rwa [hcs, List.append_nil]
      · cases h
    · cases h
  · intro h
    obtain ⟨ws, hws, hread⟩ := h.reads (s.toList.length + 1) [] (Nat.le_succ _) Ends.nil
    have hblank : skipSpace (ws ++ []) = [] := hws.skipSpace_append []
    rw [List.append_nil] at hread
    rw [hread]
    simp only [hblank, List.isEmpty_nil, if_true]

end Json
end RdfExport
