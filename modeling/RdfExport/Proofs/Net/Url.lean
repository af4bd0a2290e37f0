import Mathlib.Data.List.Induction
import Mathlib.Tactic.FinCases
import RdfExport.Net.Url.Reader
import RdfExport.Proofs.Json.Written
import RdfExport.Proofs.Net.Host

/-!
# RdfExport.Proofs.Net.Url

Where the parts of a URL begin, for a text that ends its authority with a port.

* `clean_append`, `parse_of_clean`: what is left of the text after the scheme.
* `readAuthority_user`, `readAuthority_port`: who asks, and the port, whatever stands before it.
* `endsAuthority_of_path`: what ends the authority before the port would become part of the path.
* `withTail_parts`: question marks and number signs make up a query or a fragment.
* `readAbsolute_slash`, `withTail_query`: a path and a query below a server.
-/

namespace RdfExport

theorem isDigit_range {c : Char} (h : c.isDigit = true) : 48 ≤ c.toNat ∧ c.toNat ≤ 57 := by
  simpa [Char.isDigit, UInt32.le_iff_toNat_le] using h

namespace Net

namespace Ipv4

theorem isDigit_of_digits? {base n : Nat} {cs : List Char} (h : digits? base cs = some n) :
    ∀ c ∈ cs, Hex.isDigit c = true := by
  unfold digits? at h
  generalize 0 = acc at h
  induction cs generalizing acc with
  | nil => simp
  | cons c cs ih =>
    rw [List.foldlM_cons, Option.bind_eq_bind, Option.bind_eq_some_iff] at h
    obtain ⟨m, hm, h⟩ := h
    intro d hd
    rcases List.mem_cons.1 hd with rfl | hd
    · rw [Hex.isDigit]
      cases hv : Hex.value? d with
      | none => simp [hv] at hm
      | some v => rfl
    · exact ih m h d hd

theorem digits?_digits {cs : List Char} (h : ∀ c ∈ cs, c.isDigit = true) :
    digits? 10 cs = some (Nat.ofDigitChars 10 cs 0) := by
  unfold digits?
  generalize 0 = acc
  induction cs generalizing acc with
  | nil => rfl
  | cons c cs ih =>
    have hc := h c List.mem_cons_self
    have hvalue : Hex.value? c = some (c.toNat - '0'.toNat) :=
      if_pos (by simpa [Char.isDigit, Char.le_def] using hc)
    have hsmall : c.toNat - '0'.toNat < 10 := by
      have := (isDigit_range hc).2
      have : '0'.toNat = 48 := rfl
      omega
    rw [List.foldlM_cons, hvalue]
    simp only [if_pos hsmall, Option.bind_eq_bind, Option.bind_some]
    rw [ih fun d hd => h d (List.mem_cons_of_mem _ hd), Nat.ofDigitChars_cons, Nat.mul_comm]

theorem digits?_toDigits (n : Nat) : digits? 10 (Nat.toDigits 10 n) = some n := by
  rw [digits?_digits (Json.isDigit_of_mem_toDigits n), Nat.ofDigitChars_ten_toDigits]

end Ipv4

namespace Url

/-! ## The scheme -/

/-- Whether a character stays inside a URL. -/
def isKept (c : Char) : Bool := c != '\t' && c != '\n' && c != '\r'

theorem isKept_of_visible {c : Char} (h : 0x20 < c.toNat) : isKept c = true := by
  simp only [isKept, Bool.and_eq_true, bne_iff_ne]
  refine ⟨⟨?_, ?_⟩, ?_⟩ <;> rintro rfl <;> exact absurd h (by decide)

theorem visible_of_isDigit {d : Char} (hd : d.isDigit = true) : 0x20 < d.toNat := by
  have := isDigit_range hd
  omega

/-- A text that starts with something visible is cut back at most to something visible in it. -/
theorem clean_append (first mark : Char) (hfirst : 0x20 < first.toNat) (hmark : 0x20 < mark.toNat)
    (xs tail : List Char) :
    ∃ rest, ((∀ c ∈ tail, 0x20 < c.toNat) → rest = tail) ∧
      clean (first :: xs ++ mark :: tail) =
        (first :: xs).filter isKept ++ mark :: rest.filter isKept := by
  refine ⟨(tail.reverse.dropWhile (fun c => c.toNat ≤ 0x20)).reverse, ?_, ?_⟩
  · intro hvisible
    rw [List.dropWhile_eq_self_iff.2, List.reverse_reverse]
    intro hpos
    have := hvisible _ (List.mem_reverse.1 (List.getElem_mem hpos))
    simpa using this
  · have hstart : (first :: xs ++ mark :: tail).dropWhile (fun c => c.toNat ≤ 0x20) =
        first :: xs ++ mark :: tail := by
      rw [List.cons_append, List.dropWhile_cons_of_neg (by simpa using hfirst)]
    have hend : (first :: xs ++ mark :: tail).reverse.dropWhile (fun c => c.toNat ≤ 0x20) =
        tail.reverse.dropWhile (fun c => c.toNat ≤ 0x20) ++ mark :: (first :: xs).reverse := by
      rw [List.reverse_append, List.reverse_cons, List.append_assoc, List.singleton_append,
        List.dropWhile_append, List.dropWhile_cons_of_neg (by simpa using hmark)]
      split
      · rename_i hempty
        rw [List.isEmpty_iff.1 hempty, List.nil_append]
      · rfl
    have hkept := List.filter_cons_of_pos (l := (tail.reverse.dropWhile (·.toNat ≤ 0x20)).reverse)
      (isKept_of_visible hmark)
    rw [clean, hstart, hend, List.reverse_append, List.reverse_cons, List.reverse_reverse,
      List.append_assoc, List.singleton_append, ← hkept]
    exact List.filter_append ..

/-- The text of a URL from the scheme to some mark in it, such as the colon before the port. -/
theorem clean_scheme (scheme : Scheme) (host : List Char) (mark : Char)
    (hmark : 0x20 < mark.toNat) (tail : List Char) :
    ∃ rest, ((∀ c ∈ tail, 0x20 < c.toNat) → rest = tail) ∧
      clean (scheme.name.toList ++ "://".toList ++ host ++ mark :: tail) =
        scheme.name.toList ++ "://".toList ++ (host.filter isKept ++
          mark :: rest.filter isKept) := by
  have hname : ∃ name, scheme.name.toList = 'h' :: name ∧ name.filter isKept = name := by
    cases scheme
    · exact ⟨"ttp".toList, by decide, by decide⟩
    · exact ⟨"ttps".toList, by decide, by decide⟩
  obtain ⟨name, hname, hkept⟩ := hname
  obtain ⟨rest, hvisible, hclean⟩ := clean_append 'h' mark (by decide) hmark
    (name ++ "://".toList ++ host) tail
  refine ⟨rest, hvisible, ?_⟩
  have hmarks : "://".toList.filter isKept = "://".toList := by decide
  have hfirst : isKept 'h' = true := by decide
  rw [hname]
  simp only [List.cons_append] at hclean ⊢
  rw [hclean, List.filter_cons_of_pos hfirst, List.filter_append, List.filter_append, hkept, hmarks,
    List.cons_append, List.append_assoc]

theorem parse_of_clean {text : String} {scheme : Scheme} {cs : List Char}
    (h : clean text.toList = scheme.name.toList ++ "://".toList ++ cs) :
    parse text = readAbsolute scheme (cs.dropWhile isSlash) := by
  have hsplit : splitScheme (scheme.name.toList ++ "://".toList ++ cs) =
      some (scheme.name.toList, '/' :: '/' :: cs) := by
    cases scheme <;> rfl
  have hscheme : scheme? scheme.name.toList = some scheme := by
    cases scheme <;> decide
  rw [parse, h, hsplit]
  simp only [hscheme]
  rfl

/-! ## The authority -/

theorem not_mem_port {c : Char} (hcolon : c ≠ ':') (hdigit : c.isDigit = false) (n : Nat) :
    c ∉ ':' :: Nat.toDigits 10 n := by
  intro hmem
  rcases List.mem_cons.1 hmem with heq | hmem
  · exact hcolon heq
  · have := Json.isDigit_of_mem_toDigits n c hmem
    rw [hdigit] at this
    cases this

theorem splitUser_of_not_mem {cs : List Char} (h : '@' ∉ cs) : splitUser cs = (none, cs) := by
  have hall : cs.reverse.takeWhile (· ≠ '@') = cs.reverse := by
    rw [List.takeWhile_eq_self_iff]
    intro c hc
    have : c ≠ '@' := fun heq => h (heq ▸ List.mem_reverse.1 hc)
    simpa using this
  simp only [splitUser, hall, List.reverse_reverse, if_true]

theorem splitUser_append (cs : List Char) {tail : List Char} (h : '@' ∉ tail) :
    splitUser (cs ++ tail) = ((splitUser cs).1, (splitUser cs).2 ++ tail) := by
  have hall : (cs ++ tail).reverse.takeWhile (· ≠ '@') =
      tail.reverse ++ cs.reverse.takeWhile (· ≠ '@') := by
    rw [List.reverse_append, List.takeWhile_append_of_pos]
    intro c hc
    have : c ≠ '@' := fun heq => h (heq ▸ List.mem_reverse.1 hc)
    simpa using this
  simp only [splitUser]
  rw [hall, List.reverse_append, List.reverse_reverse]
  generalize (cs.reverse.takeWhile (· ≠ '@')).reverse = own
  rw [List.length_append, List.length_append]
  by_cases hown : own.length = cs.length
  · rw [if_pos hown, if_pos (by omega)]
  · have hlength : cs.length + tail.length - (own.length + tail.length) - 1 =
        cs.length - own.length - 1 := by omega
    rw [if_neg hown, if_neg (by omega), hlength, List.take_append_of_le_length (by omega)]

/-- Inside brackets nothing ends a host. -/
theorem splitHost_bracketed {cs : List Char} (h : ']' ∉ cs) : splitHost true cs = (cs, []) := by
  induction cs with
  | nil => rfl
  | cons c rest ih =>
    rw [List.mem_cons, not_or] at h
    rw [splitHost, if_neg (by simp)]
    have hstill : (if c = '[' then true else if c = ']' then false else true) = true := by
      rw [if_neg (Ne.symm h.1)]
      split <;> rfl
    simp only [hstill, ih h.2]

/-- Where a host ends that has a port after it: before the port, nowhere, or at a colon before. -/
theorem splitHost_port (cs : List Char) {digits : List Char} (h : ']' ∉ ':' :: digits)
    (bracketed : Bool) :
    splitHost bracketed (cs ++ ':' :: digits) = (cs, ':' :: digits) ∨
      splitHost bracketed (cs ++ ':' :: digits) = (cs ++ ':' :: digits, []) ∨
      ∃ before after,
        splitHost bracketed (cs ++ ':' :: digits) = (before, ':' :: after ++ ':' :: digits) := by
  induction cs generalizing bracketed with
  | nil =>
    cases bracketed with
    | false => exact .inl (by simp [splitHost])
    | true =>
      right
      left
      exact splitHost_bracketed h
  | cons c cs ih =>
    by_cases hc : c = ':' ∧ !bracketed
    · right
      right
      exact ⟨[], cs, by rw [List.cons_append, splitHost, if_pos hc, hc.1, List.cons_append]⟩
    · rw [List.cons_append, splitHost, if_neg hc]
      rcases ih (if c = '[' then true else if c = ']' then false else bracketed)
        with hport | hnone | ⟨before, after, hcolon⟩
      · exact .inl (by simp only [hport])
      · exact .inr (.inl (by simp only [hnone]))
      · exact .inr (.inr ⟨c :: before, after, by simp only [hcolon]⟩)

theorem readPort_digits {scheme : Scheme} {n : Nat} {port : Option Nat}
    (h : readPort scheme (':' :: Nat.toDigits 10 n) = .ok port) :
    port.getD scheme.defaultPort = n := by
  have hdigits := Ipv4.digits?_toDigits n
  cases hn : Nat.toDigits 10 n with
  | nil => exact absurd hn Nat.toDigits_ne_nil
  | cons c rest =>
    rw [hn] at h hdigits
    simp only [readPort, hdigits] at h
    split at h
    · cases h
    · cases h
      split
      · rename_i heq
        exact heq.symm
      · rfl

theorem readPort_colon (scheme : Scheme) (before after : List Char) :
    readPort scheme (':' :: before ++ ':' :: after) = .error .badPort := by
  have hnone : Ipv4.digits? 10 (before ++ ':' :: after) = none := by
    cases hd : Ipv4.digits? 10 (before ++ ':' :: after) with
    | none => rfl
    | some n => exact absurd (Ipv4.isDigit_of_digits? hd ':' (by simp)) (by decide)
  cases hb : before ++ ':' :: after with
  | nil => simp at hb
  | cons c rest =>
    rw [hb] at hnone
    rw [List.cons_append, hb, readPort, hnone]

/-- What stands before the last `@` of an authority says who asks. -/
theorem readAuthority_user {scheme : Scheme} {text : List Char} {a : Authority}
    (h : readAuthority scheme text = .ok a) :
    a.user = ((splitUser text).1.map readUser).getD ⟨[], none⟩ := by
  simp only [readAuthority] at h
  split at h
  · cases h
  · split at h
    · cases h
    · cases h
      rfl

theorem encodeFor_eq_nil {extra : String} {cs : List Char} : encodeFor extra cs = [] ↔ cs = [] := by
  constructor
  · intro h
    by_contra hne
    cases hbytes : Utf8.encode cs with
    | nil => exact Utf8.encode_ne_nil hne hbytes
    | cons b rest =>
      rw [encodeFor, hbytes, Percent.encodeUnless, List.flatMap_cons, List.append_eq_nil_iff] at h
      have hfirst := h.1
      split at hfirst <;> cases hfirst
  · rintro rfl
    rfl

theorem readUser_nobody {cs : List Char} : readUser cs = ⟨[], none⟩ ↔ cs = [] ∨ cs = [':'] := by
  cases cs with
  | nil => simp [readUser, encodeUser, encodeFor_eq_nil]
  | cons c rest =>
    by_cases hc : c = ':'
    · subst hc
      cases rest <;> simp [readUser, encodeUser, encodeFor_eq_nil]
    · have hname : encodeUser ((c :: rest).takeWhile (· ≠ ':')) ≠ [] := by
        rw [encodeUser, Ne, encodeFor_eq_nil]
        simp [hc]
      have hcolon : ¬(c :: rest = [] ∨ c :: rest = [':']) := by simp [hc]
      refine iff_of_false ?_ hcolon
      intro h
      unfold readUser at h
      split at h <;> exact hname (congrArg UserInfo.name h)

/-- In an authority that ends with a port, all before the port is the host and who asks. A colon or
an open bracket there cannot change that without fault. -/
theorem readAuthority_port {scheme : Scheme} {cs : List Char} {n : Nat} {a : Authority}
    (h : readAuthority scheme (cs ++ ':' :: Nat.toDigits 10 n) = .ok a) :
    a.user = ((splitUser cs).1.map readUser).getD ⟨[], none⟩ ∧
      Host.parse (splitUser cs).2 = .ok a.host ∧ a.port.getD scheme.defaultPort = n := by
  have huser : '@' ∉ ':' :: Nat.toDigits 10 n := not_mem_port (by decide) (by decide) n
  have hbracket : ']' ∉ ':' :: Nat.toDigits 10 n := not_mem_port (by decide) (by decide) n
  have hasks := readAuthority_user h
  rw [splitUser_append cs huser] at hasks
  refine ⟨hasks, ?_⟩
  rw [readAuthority, splitUser_append cs huser] at h
  rcases splitHost_port (splitUser cs).2 hbracket false with hport | hnone | ⟨before, after, hcolon⟩
  · simp only [hport] at h
    cases hhost : Host.parse (splitUser cs).2 with
    | error f => simp [hhost] at h
    | ok host =>
      cases hread : readPort scheme (':' :: Nat.toDigits 10 n) with
      | error f => simp [hhost, hread] at h
      | ok port =>
        simp only [hhost, hread] at h
        cases h
        exact ⟨rfl, readPort_digits hread⟩
  · simp only [hnone] at h
    cases hhost : Host.parse ((splitUser cs).2 ++ ':' :: Nat.toDigits 10 n) with
    | error f => simp [hhost] at h
    | ok host =>
      -- A bracket that stays open takes the port into the host, which then ends with a digit.
      have hlast := Host.parse_colon hhost (by simp)
      rw [List.getLast?_append_of_ne_nil _ (List.cons_ne_nil _ _)] at hlast
      exact absurd (List.mem_of_getLast? hlast) hbracket
  · simp only [hcolon] at h
    cases hhost : Host.parse before with
    | error f => simp [hhost] at h
    | ok host =>
      simp only [hhost, readPort_colon] at h
      cases h

/-! ## What follows the authority -/

@[simp] theorem withTail_scheme (scheme : Scheme) (a : Authority) (text : List Char) :
    (withTail scheme a text).scheme = scheme := rfl

@[simp] theorem withTail_authority (scheme : Scheme) (a : Authority) (text : List Char) :
    (withTail scheme a text).authority = a := rfl

theorem readAbsolute_ok {scheme : Scheme} {text : List Char} {url : Url}
    (h : readAbsolute scheme text = .ok url) :
    ∃ a, readAuthority scheme (text.takeWhile (!endsAuthority ·)) = .ok a ∧
      url = withTail scheme a (text.dropWhile (!endsAuthority ·)) := by
  rw [readAbsolute] at h
  split at h
  · rename_i a ha
    cases h
    exact ⟨a, ha, rfl⟩
  · cases h

/-- Without question marks and number signs, there is neither a query nor a fragment. -/
theorem withTail_parts (scheme : Scheme) (a : Authority) (text : List Char) :
    (withTail scheme a text).query = none ∧ (withTail scheme a text).fragment = none ↔
      '?' ∉ text ∧ '#' ∉ text := by
  have hnone (mark : Char) (cs : List Char) :
      (cs.dropWhile (· ≠ mark)).tail? = none ↔ mark ∉ cs := by
    rw [← mem_dropWhile_of_not (p := (· ≠ mark)) (by simp)]
    cases hd : cs.dropWhile (· ≠ mark) with
    | nil => simp
    | cons c rest =>
      have := List.head?_dropWhile_not (· ≠ mark) cs
      rw [hd] at this
      simp_all
  simp only [withTail, splitTail, Option.map_eq_none_iff, hnone]
  constructor
  · rintro ⟨hquery, hfragment⟩
    rw [List.takeWhile_eq_self_iff.2 (by grind)] at hquery
    exact ⟨hquery, hfragment⟩
  · rintro ⟨hquery, hfragment⟩
    exact ⟨fun hmem => hquery ((List.takeWhile_prefix _).subset hmem), hfragment⟩

theorem isSlash_digit {d : Char} (hd : d.isDigit = true) : isSlash d = false := by
  rw [Bool.eq_false_iff]
  intro hslash
  simp only [isSlash, Bool.or_eq_true, beq_iff_eq] at hslash
  rcases hslash with rfl | rfl <;> exact absurd hd (by decide)

theorem plainDots_getLast? {cs : List Char} {d : Char} (hd : d.isDigit = true)
    (h : cs.getLast? = some d) : (plainDots cs).getLast? = some d := by
  fun_induction plainDots cs with
  | case1 c rest hc ih =>
    cases rest with
    | nil =>
      have : c = d := by simpa using h
      subst this
      rcases hc with rfl | rfl <;> exact absurd hd (by decide)
    | cons e rest =>
      rw [List.getLast?_cons_cons, List.getLast?_cons_cons, List.getLast?_cons_cons] at h
      rw [List.getLast?_cons, ih h]
      rfl
  | case2 => exact h
  | case3 rest ih =>
    cases rest with
    | nil =>
      have : '.' = d := by simpa using h
      subst this
      exact absurd hd (by decide)
    | cons e rest =>
      rw [List.getLast?_cons_cons] at h
      rw [List.getLast?_cons, ih h]
      rfl
  | case4 => exact h

theorem resolve_concat {last : List Char} (hone : plainDots last ≠ ['.'])
    (htwo : plainDots last ≠ ['.', '.']) (before segments : List (List Char)) :
    ∃ front, resolve before (segments ++ [last]) = front ++ [last] := by
  induction segments generalizing before with
  | nil => exact ⟨before, by rw [List.nil_append, resolve, if_neg htwo, if_neg hone]⟩
  | cons s segments ih =>
    cases hmore : segments ++ [last] with
    | nil => simp at hmore
    | cons next more =>
      rw [List.cons_append, hmore, resolve, ← hmore]
      · split
        · exact ih _
        · split
          · exact ih _
          · exact ih _
      · exact List.cons_ne_nil _ _

theorem splitOnP_concat {p : Char → Bool} {d : Char} (hd : p d = false) (cs : List Char) :
    ∃ front piece, (cs ++ [d]).splitOnP p = front ++ [piece ++ [d]] := by
  induction cs with
  | nil => exact ⟨[], [], by simp [List.splitOnP_cons_eq_if_modifyHead, hd]⟩
  | cons c cs ih =>
    obtain ⟨front, piece, hpieces⟩ := ih
    rw [List.cons_append, List.splitOnP_cons_eq_if_modifyHead, hpieces]
    split
    · exact ⟨[] :: front, piece, rfl⟩
    · cases front with
      | nil => exact ⟨[], c :: piece, rfl⟩
      | cons first front => exact ⟨(c :: first) :: front, piece, rfl⟩

theorem encodeFor_eq_self {extra : String} {cs : List Char}
    (h : ∀ c ∈ cs, (0x20 < c.toNat ∧ c.toNat < 0x7F) ∧ c ∉ extra.toList) :
    encodeFor extra cs = cs := by
  induction cs with
  | nil => rfl
  | cons c cs ih =>
    obtain ⟨⟨hlow, hhigh⟩, hplain⟩ := h c List.mem_cons_self
    have hascii : c.toNat < 0x80 := by omega
    have hkept : 0x20 < octet c ∧ octet c < 0x7F := by
      simp only [UInt8.lt_iff_toNat_lt, Utf8.octet_toNat hascii, UInt8.reduceToNat]
      exact ⟨hlow, hhigh⟩
    have htail := ih fun x hx => h x (List.mem_cons_of_mem c hx)
    rw [encodeFor, Percent.encodeUnless] at htail ⊢
    rw [Utf8.encode_cons_ascii hascii, List.flatMap_cons, htail, Utf8.ofUInt8_octet hascii,
      if_pos, List.singleton_append]
    simp only [hkept, decide_true, Bool.true_and, Bool.not_eq_true', Bool.eq_false_iff, ne_eq,
      List.contains_iff_mem]
    exact hplain

theorem encodeSegment_concat {d : Char} (hd : d.isDigit = true) (cs : List Char) :
    encodeSegment (cs ++ [d]) = encodeSegment cs ++ [d] := by
  have hsingle : encodeSegment [d] = [d] := by
    refine encodeFor_eq_self fun c hc => ?_
    rw [List.mem_singleton.1 hc]
    have hrange := isDigit_range hd
    refine ⟨⟨by omega, by omega⟩, ?_⟩
    intro hmem
    fin_cases hmem <;> exact absurd hd (by decide)
  calc encodeSegment (cs ++ [d]) = encodeSegment cs ++ encodeSegment [d] := by
        simp only [encodeSegment, encodeFor, Utf8.encode_append, Percent.encodeUnless,
          List.flatMap_append]
    _ = encodeSegment cs ++ [d] := by rw [hsingle]

theorem withTail_path_ne {scheme : Scheme} {a : Authority} {c d : Char} {cs : List Char}
    (hc : isSlash c = true) (hd : d.isDigit = true)
    (hmarks : ∀ x ∈ c :: cs ++ [d], x ≠ '?' ∧ x ≠ '#') :
    (withTail scheme a (c :: (cs ++ [d]))).path ≠ [[]] := by
  have hmain : (c :: (cs ++ [d])).takeWhile (· ≠ '#') = c :: (cs ++ [d]) :=
    List.takeWhile_eq_self_iff.2 fun x hx => by simpa using (hmarks x hx).2
  have hpath : (splitTail (c :: (cs ++ [d]))).path = c :: (cs ++ [d]) := by
    simp only [splitTail, hmain]
    exact List.takeWhile_eq_self_iff.2 fun x hx => by simpa using (hmarks x hx).1
  obtain ⟨front, piece, hpieces⟩ := splitOnP_concat (isSlash_digit hd) cs
  have hdots : (plainDots (encodeSegment piece ++ [d])).getLast? = some d :=
    plainDots_getLast? hd (by simp)
  have hnot (dots : List Char) (h : plainDots (encodeSegment piece ++ [d]) = dots)
      (hlast : dots.getLast? = some '.') : False := by
    rw [h, hlast, Option.some.injEq] at hdots
    rw [← hdots] at hd
    exact absurd hd (by decide)
  obtain ⟨before, hresolved⟩ := resolve_concat (fun h => hnot _ h rfl) (fun h => hnot _ h rfl) []
    (front.map encodeSegment)
  have hsegments : segments (cs ++ [d]) =
      front.map encodeSegment ++ [encodeSegment piece ++ [d]] := by
    rw [segments, hpieces, List.map_append, List.map_singleton, encodeSegment_concat hd]
  simp only [withTail, hpath, hc, if_true, hsegments, hresolved]
  intro h
  have := congrArg List.getLast? h
  simp at this

/-- Where a URL has no path, nothing ends its authority before the port. -/
theorem endsAuthority_of_path {scheme : Scheme} {cs : List Char} {n : Nat} {url : Url}
    (h : readAbsolute scheme (cs ++ ':' :: Nat.toDigits 10 n) = .ok url) (hpath : url.path = [[]])
    (hquery : '?' ∉ cs) (hfragment : '#' ∉ cs) :
    ∀ c ∈ cs ++ ':' :: Nat.toDigits 10 n, endsAuthority c = false := by
  have hdigits := Json.isDigit_of_mem_toDigits n
  have hmarks : ∀ c ∈ cs ++ ':' :: Nat.toDigits 10 n, c ≠ '?' ∧ c ≠ '#' := by
    intro c hc
    rcases List.mem_append.1 hc with hc | hc
    · exact ⟨fun heq => hquery (heq ▸ hc), fun heq => hfragment (heq ▸ hc)⟩
    · constructor <;> rintro rfl <;> exact not_mem_port (by decide) (by decide) n hc
  obtain ⟨ds, d, hlast⟩ : ∃ ds d, Nat.toDigits 10 n = ds ++ [d] :=
    ⟨_, _, (List.dropLast_append_getLast Nat.toDigits_ne_nil).symm⟩
  have hd : d.isDigit = true := hdigits d (by simp [hlast])
  rw [hlast] at h hmarks ⊢
  generalize htext : cs ++ ':' :: (ds ++ [d]) = text at h hmarks ⊢
  have hend : text.getLast? = some d := by
    rw [← htext, ← List.cons_append, ← List.append_assoc, List.getLast?_concat]
  have hcut := List.takeWhile_append_dropWhile (p := (!endsAuthority ·)) (l := text)
  cases hdrop : text.dropWhile (!endsAuthority ·) with
  | nil =>
    intro c hc
    simpa using List.dropWhile_eq_nil_iff.1 hdrop c hc
  | cons c rest =>
    exfalso
    have hc : endsAuthority c = true := by
      have := List.head?_dropWhile_not (!endsAuthority ·) text
      simpa [hdrop] using this
    rw [hdrop] at hcut
    have hmem : ∀ x ∈ c :: rest, x ∈ text := fun x hx => by
      rw [← hcut]
      exact List.mem_append_right _ hx
    have hslash : isSlash c = true := by
      have := hmarks c (hmem c List.mem_cons_self)
      simpa [endsAuthority, this] using hc
    obtain ⟨a, -, rfl⟩ := readAbsolute_ok h
    rw [hdrop] at hpath
    cases rest using List.reverseRecOn with
    | nil =>
      rw [← hcut, List.getLast?_concat, Option.some.injEq] at hend
      rw [hend, isSlash_digit hd] at hslash
      cases hslash
    | append_singleton rest e _ =>
      rw [← hcut, ← List.cons_append, ← List.append_assoc, List.getLast?_concat,
        Option.some.injEq] at hend
      subst hend
      exact withTail_path_ne hslash hd (fun x hx => hmarks x (hmem x hx)) hpath

/-- Below a server everything after the slash is its path, its query and its fragment. -/
theorem readAbsolute_slash {scheme : Scheme} {text : List Char} {url : Url}
    (hurl : readAbsolute scheme text = .ok url)
    (htext : ∀ c ∈ text, endsAuthority c = false) (rest : List Char) :
    readAbsolute scheme (text ++ '/' :: rest) =
      .ok (withTail scheme url.authority ('/' :: rest)) := by
  have hplain : ∀ c ∈ text, (!endsAuthority c) = true := fun c hc => by rw [htext c hc]; rfl
  obtain ⟨a, ha, rfl⟩ := readAbsolute_ok hurl
  rw [List.takeWhile_eq_self_iff.2 hplain] at ha
  rw [readAbsolute, takeWhile_before hplain (by decide), dropWhile_before hplain (by decide), ha,
    withTail_authority]

theorem readAbsolute_below {scheme : Scheme} {text : List Char} {url : Url}
    (hurl : readAbsolute scheme text = .ok url)
    (htext : ∀ c ∈ text, endsAuthority c = false) (rest : List Char) :
    ∃ u, readAbsolute scheme (text ++ '/' :: rest) = .ok u ∧ u.scheme = url.scheme ∧
      u.authority = url.authority := by
  refine ⟨_, readAbsolute_slash hurl htext rest, ?_, withTail_authority ..⟩
  obtain ⟨a, -, rfl⟩ := readAbsolute_ok hurl
  rfl

theorem withTail_query (scheme : Scheme) (a : Authority) {path query : List Char}
    (hpath : ∀ c ∈ path, c ≠ '?' ∧ c ≠ '#') (hquery : '#' ∉ query) :
    withTail scheme a ('/' :: path ++ '?' :: query) =
      ⟨scheme, a, resolve [] (segments path), some (encodeQuery query), none⟩ := by
  have hbefore : ∀ c ∈ '/' :: path, c ≠ '?' ∧ c ≠ '#' :=
    List.forall_mem_cons.2 ⟨by decide, hpath⟩
  have hmain : '#' ∉ '/' :: path ++ '?' :: query := by
    intro hmem
    rcases List.mem_append.1 hmem with hmem | hmem
    · exact (hbefore _ hmem).2 rfl
    · exact hquery (List.mem_of_ne_of_mem (by decide) hmem)
  have hwhole : ('/' :: path ++ '?' :: query).takeWhile (· ≠ '#') = '/' :: path ++ '?' :: query :=
    List.takeWhile_eq_self_iff.2 fun c hc => decide_eq_true fun heq => hmain (heq ▸ hc)
  have hrest : ('/' :: path ++ '?' :: query).dropWhile (· ≠ '#') = [] :=
    List.dropWhile_eq_nil_iff.2 fun c hc => decide_eq_true fun heq => hmain (heq ▸ hc)
  have hplain : ∀ c ∈ '/' :: path, decide (c ≠ '?') = true := fun c hc =>
    decide_eq_true (hbefore c hc).1
  have htake : ('/' :: path ++ '?' :: query).takeWhile (· ≠ '?') = '/' :: path :=
    takeWhile_before hplain (by decide)
  have hdrop : ('/' :: path ++ '?' :: query).dropWhile (· ≠ '?') = '?' :: query :=
    dropWhile_before hplain (by decide)
  simp only [withTail, splitTail, hwhole, hrest, htake, hdrop]
  rfl

end Url
end Net
end RdfExport
