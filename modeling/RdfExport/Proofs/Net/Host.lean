import RdfExport.Net.Host
import RdfExport.Proofs.Net.Ipv6
import RdfExport.Proofs.Text.Normal
import RdfExport.Proofs.Text.Pieces
import RdfExport.Proofs.Text.Utf8

/-!
# RdfExport.Proofs.Net.Host

A colon in the text of a host never gets lost, so only an address between brackets holds one. To
read a name, escapes are resolved, characters are mapped and normalized, and labels go through
Punycode. Each of these steps keeps a colon, and the last one refuses it.

* `Percent.mem_decode`, `Punycode.mem_decode`, `Punycode.mem_encode`: what the steps keep.
* `Idna.colon_mem_toAscii`: all of them together.
* `Host.parse_colon`: a host with a colon ends with a bracket.
-/

namespace RdfExport

/-! ## Escapes -/

theorem Percent.mem_decode {b : UInt8} (hmark : b ≠ 0x25)
    (hdigit : Hex.value? (Char.ofUInt8 b) = none) {bytes : Bytes} (h : b ∈ bytes) :
    b ∈ decode bytes := by
  fun_induction decode bytes with
  | case1 => exact h
  | case2 x y rest m n hx hy ih =>
    have hbx : b ≠ x := by
      rintro rfl
      simp_all
    have hby : b ≠ y := by
      rintro rfl
      simp_all
    simp only [List.mem_cons, hmark, hbx, hby, false_or] at h
    exact List.mem_cons_of_mem _ (ih h)
  | case3 x y rest hx ih =>
    rcases List.mem_cons.1 h with rfl | h
    · exact absurd rfl hmark
    · exact List.mem_cons_of_mem _ (ih h)
  | case4 x rest hx ih =>
    rcases List.mem_cons.1 h with rfl | h
    · exact List.mem_cons_self
    · exact List.mem_cons_of_mem _ (ih h)

namespace Net

/-! ## Punycode -/

namespace Punycode

theorem readNumber_digits {bias k weight acc : Nat} {cs : List Char} {r : Nat × List Char}
    (h : readNumber bias k weight acc cs = some r) :
    ∀ c ∈ cs, digitValue? c = none → c ∈ r.2 := by
  fun_induction readNumber bias k weight acc cs with
  | case1 => cases h
  | case2 => cases h
  | case3 k weight acc c rest v hv hlast =>
    cases h
    intro d hd hnone
    rcases List.mem_cons.1 hd with rfl | hd
    · rw [hv] at hnone
      cases hnone
    · exact hd
  | case4 k weight acc c rest v hv _ next hnext ih =>
    intro d hd hnone
    rcases List.mem_cons.1 hd with rfl | hd
    · rw [hv] at hnone
      cases hnone
    · exact ih h d hd hnone
  | case5 => cases h

/-- Insertions leave what is there, and all of them are digits. -/
theorem insertAll_keeps {s : State} {text cs out : List Char}
    (h : insertAll s text cs = some out) :
    (∀ c ∈ text, c ∈ out) ∧ ∀ c ∈ cs, (digitValue? c).isSome = true := by
  fun_induction insertAll s text cs with
  | case1 s text cs hempty =>
    cases h
    rw [List.isEmpty_iff] at hempty
    subst hempty
    exact ⟨fun c hc => hc, by simp⟩
  | case2 => cases h
  | case3 s text cs hempty delta rest hread size place code hbounds index ih =>
    obtain ⟨hkept, hdigits⟩ := ih h
    constructor
    · intro c hc
      apply hkept
      rw [← List.take_append_drop index text, List.mem_append] at hc
      rcases hc with hc | hc
      · exact List.mem_append_left _ hc
      · exact List.mem_append_right _ (List.mem_cons_of_mem _ hc)
    · intro c hc
      cases hvalue : digitValue? c with
      | some v => rfl
      | none =>
        have := hdigits c (readNumber_digits hread c hc hvalue)
        rw [hvalue] at this
        cases this
  | case4 => cases h

theorem mem_splitLast {c : Char} (hc : c ≠ '-') {cs : List Char} (h : c ∈ cs) :
    c ∈ (splitLast cs).1 ∨ c ∈ (splitLast cs).2 := by
  have hcut := List.takeWhile_append_dropWhile (p := (· ≠ '-')) (l := cs.reverse)
  have hmem : c ∈ cs.reverse := List.mem_reverse.2 h
  simp only [splitLast]
  generalize cs.reverse.takeWhile (· ≠ '-') = tail at hcut ⊢
  cases hdrop : cs.reverse.dropWhile (· ≠ '-') with
  | nil =>
    rw [hdrop, List.append_nil] at hcut
    have hbasic : (cs.reverse.drop (tail.length + 1)).reverse = [] := by
      rw [← hcut, List.drop_of_length_le (Nat.le_succ _), List.reverse_nil]
    rw [hbasic]
    exact .inr h
  | cons d rest =>
    have hd : d = '-' := by
      have := List.head?_dropWhile_not (· ≠ '-') cs.reverse
      rw [hdrop] at this
      simpa using this
    rw [hdrop, hd] at hcut
    have hbasic : (cs.reverse.drop (tail.length + 1)).reverse = rest.reverse := by
      rw [← hcut, ← List.drop_drop, List.drop_left, List.drop_one, List.tail_cons]
    rw [hbasic]
    rw [← hcut, List.mem_append, List.mem_cons] at hmem
    rcases hmem with hmem | hmem | hmem
    · right
      split
      · exact h
      · exact List.mem_reverse.2 hmem
    · exact absurd hmem hc
    · exact .inl (List.mem_reverse.2 hmem)

theorem mem_decode {c : Char} (hyphen : c ≠ '-') (hdigit : digitValue? c = none)
    {cs text : List Char} (htext : decode? cs = some text) (h : c ∈ cs) : c ∈ text := by
  obtain ⟨hkept, hdigits⟩ := insertAll_keeps htext
  rcases mem_splitLast hyphen h with h | h
  · exact hkept c h
  · have := hdigits c h
    rw [hdigit] at this
    cases this

theorem prefix_visit (code : Nat) (w : Writing) (c : Char) : w.out <+: (w.visit code c).out := by
  unfold Writing.visit
  split
  · exact List.prefix_rfl
  · split
    · exact List.prefix_append _ _
    · exact List.prefix_rfl

theorem prefix_visitAll (text : List Char) {out : List Char} (next : Nat) (codes : List Nat)
    (w : Writing) (h : out <+: w.out) : out <+: (Writing.visitAll text next codes w).out := by
  have hfold (code : Nat) (cs : List Char) (w : Writing) :
      w.out <+: (cs.foldl (Writing.visit code) w).out := by
    induction cs generalizing w with
    | nil => exact List.prefix_rfl
    | cons c cs ih => exact (prefix_visit code w c).trans (ih _)
  induction codes generalizing next w with
  | nil => exact h
  | cons code codes ih =>
    rw [Writing.visitAll]
    have hline := hfold code text { w with delta := w.delta + (code - next) * (w.size + 1) }
    exact ih _ _ (h.trans hline)

theorem mem_encode {c : Char} (hc : c.toNat < 0x80) {text : List Char} (h : c ∈ text) :
    c ∈ encode text := by
  have hbasic : c ∈ text.filter (·.toNat < 0x80) := by
    rw [List.mem_filter]
    exact ⟨h, by simpa using hc⟩
  refine (prefix_visitAll text _ _ _ List.prefix_rfl).subset ?_
  have hne : (text.filter (·.toNat < 0x80)).isEmpty = false := by
    rw [List.isEmpty_eq_false_iff]
    exact List.ne_nil_of_mem hbasic
  simp only [hne]
  exact List.mem_append_left _ hbasic

end Punycode

/-! ## Names -/

namespace Idna

theorem colon_mem_readLabel {label text : List Char} (htext : readLabel label = some text)
    (h : ':' ∈ label) : ':' ∈ text := by
  unfold readLabel at htext
  split at htext
  · rename_i hmark
    obtain ⟨written, rfl⟩ := List.isPrefixOf_iff_prefix.1 hmark
    simp only [List.drop_left] at htext
    have hwritten : ':' ∈ written := by
      rcases List.mem_append.1 h with h | h
      · exact absurd h (by decide)
      · exact h
    split at htext
    · cases htext
    · rename_i decoded hdecoded
      have hread : Punycode.decode? written = some decoded := by
        split at hdecoded
        · exact hdecoded
        · cases hdecoded
      split at htext
      · cases htext
      · cases htext
        exact Punycode.mem_decode (by decide) (by decide) hread hwritten
  · cases htext
    exact h

theorem colon_mem_writeLabel {label : List Char} (h : ':' ∈ label) : ':' ∈ writeLabel label := by
  unfold writeLabel
  split
  · exact h
  · exact List.mem_append_right _ (Punycode.mem_encode (by decide) h)

/-- A name with a colon has an ASCII form with a colon, if it has one. -/
theorem colon_mem_toAscii {name ascii : List Char} (hascii : toAscii? name = some ascii)
    (h : ':' ∈ name) : ':' ∈ ascii := by
  have hmapped : ':' ∈ name.flatMap Mapping.chars :=
    List.mem_flatMap.2 ⟨':', h, by decide⟩
  unfold toAscii? at hascii
  split at hascii
  · cases hascii
  · rename_i labels hlabels
    split at hascii
    · cases hascii
      have hnormal := Text.isInert_colon.mem_normalize hmapped
      rcases mem_splitOn '.' hnormal with hdot | ⟨label, hlabel, hcolon⟩
      · exact absurd hdot (by decide)
      · obtain ⟨text, htext, hread⟩ := exists_of_mapM hlabels label hlabel
        refine mem_intercalate_of_mem ?_ (List.mem_map_of_mem htext)
        exact colon_mem_writeLabel (colon_mem_readLabel hread hcolon)
    · cases hascii

end Idna

namespace Host

theorem colon_not_mem_asciiName {text name : List Char} (h : asciiName text = .ok name) :
    ':' ∉ text := by
  intro hcolon
  unfold asciiName at h
  split at h
  · cases h
  · rename_i cs hdecoded
    have hoctet : octet ':' ∈ Percent.decode (Utf8.encode text) :=
      Percent.mem_decode (by decide) (by decide) ((Utf8.octet_mem_encode (by decide)).2 hcolon)
    rw [← Utf8.encode_of_decodeFrom hdecoded, Utf8.octet_mem_encode (by decide)] at hoctet
    split at h
    · cases h
    · rename_i ascii hascii
      have hforbidden : ascii.any isForbidden = true :=
        List.any_eq_true.2 ⟨':', Idna.colon_mem_toAscii hascii hoctet, by decide⟩
      rw [if_pos hforbidden] at h
      split at h <;> cases h

/-- A host that holds a colon ends with a bracket. -/
theorem parse_colon {text : List Char} {host : Host} (h : parse text = .ok host)
    (hcolon : ':' ∈ text) : text.getLast? = some ']' := by
  unfold parse at h
  split at h
  · cases h
  · rename_i rest
    unfold parseBracketed at h
    split at h
    · rename_i hlast
      rw [List.getLast?_cons, hlast]
      rfl
    · cases h
  · split at h
    · cases h
    · rename_i name hname
      exact absurd hcolon (colon_not_mem_asciiName hname)

end Host
end Net
end RdfExport
