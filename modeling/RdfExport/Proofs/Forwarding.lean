import Mathlib.Data.List.Basic
import RdfExport.Proofs.Delivery
import RdfExport.Proofs.Rows

/-!
# RdfExport.Proofs.Forwarding

Rows go to the sink as soon as their line is complete. After each chunk that a fresh decoder of
result tables takes in without a failure, the sink has got the rows of the lines that have ended so
far, no more and no fewer, and the decoder holds what follows the last LF.

* `Table.readLine`, `Table.readLines`: the reference, which reads complete lines without any sink.
* `search?`: the search for the ends of lines by places in the octets at hand. `search?_eq` says
  what it finds and where it looks.
* `Forwarded`: what is true after octets without a failure.
* `forwards_line_by_line`: every run of chunks.
-/

namespace RdfExport

open Rdf

namespace Table

/-- What line number `n` says: the variables, unless they were known before, or perhaps a row. -/
def readLine (header : Option (List Variable)) (n : Nat) (raw : Bytes) :
    Except ProtocolFault (List Variable × Option Bindings) :=
  match readText n raw with
  | .error f => .error f
  | .ok text =>
    match header with
    | none => (readHeader text).map fun vars => (vars, none)
    | some vars => (readRow vars n text).map fun row => (vars, row)

def readLines : Option (List Variable) → Nat → List Bytes →
    Except ProtocolFault (Option (List Variable) × List Bindings)
  | header, _, [] => .ok (header, [])
  | header, n, raw :: rest =>
    match readLine header n raw with
    | .error f => .error f
    | .ok (vars, row) =>
      (readLines (some vars) (n + 1) rest).map fun t => (t.1, row.toList ++ t.2)

theorem readLines_append {header header' header'' : Option (List Variable)} {n : Nat}
    {a b : List Bytes} {rows rows' : List Bindings}
    (ha : readLines header n a = .ok (header', rows))
    (hb : readLines header' (n + a.length) b = .ok (header'', rows')) :
    readLines header n (a ++ b) = .ok (header'', rows ++ rows') := by
  induction a generalizing header n rows with
  | nil =>
    cases ha
    exact hb
  | cons raw rest ih =>
    rw [List.length_cons, ← Nat.add_assoc, Nat.add_right_comm] at hb
    simp only [List.cons_append, readLines] at ha ⊢
    cases hline : readLine header n raw with
    | error f => simp [hline] at ha
    | ok line =>
      obtain ⟨vars, row⟩ := line
      simp only [hline] at ha ⊢
      cases hrest : readLines (some vars) (n + 1) rest with
      | error f =>
        rw [hrest] at ha
        cases ha
      | ok t =>
        rw [hrest] at ha
        cases ha
        rw [ih hrest hb]
        simp [Except.map]

end Table

namespace TupleDecoder

variable {σ : Type}

/-! ## Lines -/

theorem count_endsLine (bytes : Bytes) : bytes.count endsLine = (splitLines bytes).1.length := by
  induction bytes with
  | nil => rfl
  | cons b rest ih =>
    by_cases hb : b = endsLine
    · subst hb
      rw [List.count_cons_self, splitLines_end, ih, List.length_cons]
    · rw [List.count_cons_of_ne hb, splitLines_cons hb, ih]
      cases splitLines rest with
      | mk lines tail => cases lines <;> rfl

theorem splitLines_tail_length (bytes : Bytes) : (splitLines bytes).2.length ≤ bytes.length := by
  induction bytes with
  | nil => exact Nat.le_refl 0
  | cons b rest ih =>
    by_cases hb : b = endsLine
    · subst hb
      rw [splitLines_end]
      exact Nat.le_succ_of_le ih
    · rw [splitLines_cons hb]
      cases h : splitLines rest with
      | mk lines tail =>
        rw [h] at ih
        cases lines with
        | nil => exact Nat.succ_le_succ ih
        | cons line more => exact Nat.le_succ_of_le ih

theorem takeLine_eq (sink : Sink σ) (raw : Bytes) (d : TupleDecoder) (w : σ) :
    takeLine sink raw (d, w) =
      match Table.readLine d.header (d.line + 1) raw with
      | .error f => (.error (.protocol f), { d with line := d.line + 1 }, w)
      | .ok (vars, none) => (.ok (), { d with line := d.line + 1, header := some vars }, w)
      | .ok (vars, some row) =>
        deliver sink row ({ d with line := d.line + 1, header := some vars }, w) := by
  obtain ⟨p, k, header, n, count⟩ := d
  simp only [takeLine, Table.readLine]
  cases readText (n + 1) raw with
  | error f => rfl
  | ok text =>
    cases header with
    | none => cases h : readHeader text <;> simp [h, Except.map]
    | some vars =>
      cases h : readRow vars (n + 1) text with
      | error f => simp [h, Except.map]
      | ok row => cases row <;> simp [h, Except.map]

theorem takeLines_ok {sink : Sink σ} {lines : List Bytes} {d d' : TupleDecoder} {w w' : σ}
    (h : takeLines sink lines (d, w) = (.ok (), d', w')) :
    ∃ rows, Table.readLines d.header (d.line + 1) lines = .ok (d'.header, rows) ∧
      sink.offer (rows.map .row) w = (.ok (), w') ∧ d'.line = d.line + lines.length ∧
      d'.rows = d.rows + rows.length := by
  induction lines generalizing d w with
  | nil =>
    cases h
    exact ⟨[], rfl, rfl, rfl, rfl⟩
  | cons raw rest ih =>
    simp only [takeLines, takeLine_eq] at h
    cases hread : Table.readLine d.header (d.line + 1) raw with
    | error f => simp [hread] at h
    | ok line =>
      obtain ⟨vars, row⟩ := line
      cases row with
      | none =>
        simp only [hread] at h
        obtain ⟨rows, hrest, hoffer, hline, hrows⟩ := ih h
        refine ⟨rows, ?_, hoffer, ?_, hrows⟩
        · simp only [Table.readLines, hread, hrest]
          rfl
        · rw [hline, List.length_cons, Nat.add_assoc, Nat.add_comm 1]
      | some row =>
        simp only [hread, deliver] at h
        cases haccept : sink.accept (.row row) w with
        | mk r w₁ =>
          rw [haccept] at h
          cases r with
          | error e => simp at h
          | ok u =>
            obtain ⟨rows, hrest, hoffer, hline, hrows⟩ := ih h
            refine ⟨row :: rows, ?_, ?_, ?_, ?_⟩
            · simp only [Table.readLines, hread, hrest]
              rfl
            · simp only [List.map_cons, Sink.offer, haccept]
              exact hoffer
            · rw [hline, List.length_cons, Nat.add_assoc, Nat.add_comm 1]
            · rw [hrows, List.length_cons, Nat.add_assoc, Nat.add_comm 1]

/-! ## The search -/

/-- The octets from place `start` to place `stop`, if these are places in order. -/
def slice? (bytes : Bytes) (start stop : Nat) : Option Bytes :=
  if start ≤ stop ∧ stop ≤ bytes.length then some ((bytes.take stop).drop start) else none

/-- What a search finds, and the places that it looks at, in order. -/
structure Search where
  lines : List Bytes
  rest : Bytes
  visited : List Nat

/-- Searches octets from `place` on for the ends of lines, of which the first begins at `start`.
There is no answer where a slice would lie outside of the octets. -/
def search? (bytes : Bytes) (start place : Nat) : Option Search :=
  match _h : slice? bytes place bytes.length with
  | none => none
  | some ahead =>
    match ahead.findIdx? (· = endsLine) with
    | none => some ⟨[], bytes.drop start, List.range' place ahead.length⟩
    | some offset =>
      match slice? bytes start (place + offset) with
      | none => none
      | some line =>
        (search? bytes (place + offset + 1) (place + offset + 1)).map fun s =>
          ⟨line :: s.lines, s.rest, List.range' place (offset + 1) ++ s.visited⟩
  termination_by bytes.length + 1 - place
  decreasing_by
    simp only [slice?] at _h
    split at _h
    · omega
    · cases _h

theorem slice?_append (a b c : Bytes) :
    slice? (a ++ b ++ c) a.length (a.length + b.length) = some b := by
  have hstop : a.length + b.length = (a ++ b).length := by simp
  rw [slice?, if_pos ⟨by omega, by simp⟩, hstop, List.take_left, List.drop_left]

theorem slice?_rest (a b : Bytes) : slice? (a ++ b) a.length (a ++ b).length = some b := by
  have h := slice?_append a b []
  rwa [List.append_nil, ← List.length_append] at h

def startLines (p : Bytes) : List Bytes × Bytes → List Bytes × Bytes
  | ([], tail) => ([], p ++ tail)
  | (line :: more, tail) => ((p ++ line) :: more, tail)

theorem startLines_nil (cut : List Bytes × Bytes) : startLines [] cut = cut := by
  obtain ⟨lines, tail⟩ := cut
  cases lines <;> rfl

/-- A search finds the lines, and looks at each place from the first to the last once. The octets
`p` of the first line are passed over. -/
theorem search?_append (before p ahead : Bytes) :
    search? (before ++ p ++ ahead) before.length (before ++ p).length =
      some ⟨(startLines p (splitLines ahead)).1, (startLines p (splitLines ahead)).2,
        List.range' (before ++ p).length ahead.length⟩ := by
  induction hn : ahead.length using Nat.strongRecOn generalizing before p ahead with
  | _ n ih =>
    rw [search?, slice?_rest]
    by_cases hmem : endsLine ∈ ahead
    · obtain ⟨line, more, rfl, hline⟩ := List.eq_append_cons_of_mem hmem
      have hfind : (line ++ endsLine :: more).findIdx? (· = endsLine) = some line.length := by
        have hnone : line.findIdx? (· = endsLine) = none := by
          rw [List.findIdx?_eq_none_iff]
          intro b hb
          exact decide_eq_false fun e => hline (e ▸ hb)
        rw [List.findIdx?_append, hnone, List.findIdx?_cons, decide_eq_true rfl]
        simp
      have hslice : slice? (before ++ p ++ (line ++ endsLine :: more)) before.length
          ((before ++ p).length + line.length) = some (p ++ line) := by
        have h := slice?_append before (p ++ line) (endsLine :: more)
        rw [List.length_append, ← Nat.add_assoc, ← List.length_append] at h
        simpa only [List.append_assoc] using h
      -- the search goes on after the LF, where the next line begins
      have hrest := ih more.length (by simp at hn; omega)
        (before ++ p ++ (line ++ [endsLine])) [] more rfl
      have hplace : (before ++ p ++ (line ++ [endsLine])).length =
          (before ++ p).length + line.length + 1 := by simp; omega
      have hbytes : before ++ p ++ (line ++ [endsLine]) ++ more =
          before ++ p ++ (line ++ endsLine :: more) := by simp
      rw [List.append_nil, hbytes, hplace] at hrest
      have hvisited : List.range' (before ++ p).length (line.length + 1) ++
          List.range' ((before ++ p).length + line.length + 1) more.length =
            List.range' (before ++ p).length n := by
        rw [Nat.add_assoc, List.range'_append_1, ← hn]
        congr 1
        simp
        omega
      rw [startLines_nil] at hrest
      simp only [hfind, hslice, hrest, Option.map_some, splitLines_line hline, startLines,
        hvisited]
    · have hfind : ahead.findIdx? (· = endsLine) = none := by
        rw [List.findIdx?_eq_none_iff]
        intro b hb
        exact decide_eq_false fun e => hmem (e ▸ hb)
      simp only [hfind, splitLines_eq_self hmem, startLines, hn]
      rw [List.append_assoc, List.drop_left]

/-- A search of the octets at hand finds the lines that a decoder cuts them into. It has no answer
exactly if it would begin beyond them. -/
theorem search?_eq (bytes : Bytes) (k : Nat) :
    search? bytes 0 k =
      if k ≤ bytes.length then
        some ⟨(splitLinesFrom k bytes).1, (splitLinesFrom k bytes).2,
          List.range' k (bytes.length - k)⟩
      else none := by
  by_cases hk : k ≤ bytes.length
  · have h := search?_append [] (bytes.take k) (bytes.drop k)
    rw [List.nil_append, List.take_append_drop, List.length_take_of_le hk, List.length_drop] at h
    rw [if_pos hk]
    exact h
  · rw [if_neg hk, search?, slice?, if_neg fun h => hk h.1]

/-- The places, among all octets, that chunks make a decoder look at for the end of a line. Before
them came `received` octets. There is no answer where one of the searches has none. -/
def places? (sink : Sink σ) : Nat → List Bytes → TupleDecoder × σ → Option (List Nat)
  | _, [], _ => some []
  | received, chunk :: rest, s =>
    match search? (s.1.pending ++ chunk) 0 s.1.scanned with
    | none => none
    | some found =>
      (places? sink (received + chunk.length) rest (feed sink chunk s).2).map fun places =>
        found.visited.map (received - s.1.pending.length + ·) ++ places

/-! ## Runs -/

/-- What is true after the octets `body`, of which none failed, of a decoder and a sink that were
fresh and `w` before. -/
structure Forwarded (sink : Sink σ) (w : σ) (body : Bytes) (s : TupleDecoder × σ) : Prop where
  /-- The sink took the rows of the lines that have ended, one after the other. -/
  rows : ∃ rows,
    Table.readLines none 1 (body.splitOn endsLine).dropLast = .ok (s.1.header, rows) ∧
      sink.offer (rows.map .row) w = (.ok (), s.2) ∧ s.1.rows = rows.length
  pending : (body.splitOn endsLine).getLast? = some s.1.pending
  unended : endsLine ∉ s.1.pending
  scanned : s.1.scanned = s.1.pending.length
  line : s.1.line = body.count endsLine

theorem forwarded_initial (sink : Sink σ) (w : σ) : Forwarded sink w [] (initial, w) where
  rows := ⟨[], rfl, rfl, rfl⟩
  pending := rfl
  unended := by simp [initial]
  scanned := rfl
  line := rfl

variable {sink : Sink σ} {w : σ} {body : Bytes} {s : TupleDecoder × σ}

theorem Forwarded.pending_eq (h : Forwarded sink w body s) :
    s.1.pending = (splitLines body).2 := by
  have hlast := h.pending
  rw [splitLines_eq_splitOn, List.getLast?_concat] at hlast
  exact (Option.some.inj hlast).symm

/-- The next search looks at the octets of the chunk, each once, whatever the chunk is. -/
theorem Forwarded.search (h : Forwarded sink w body s) (chunk : Bytes) :
    search? (s.1.pending ++ chunk) 0 s.1.scanned =
      some ⟨(splitLinesFrom s.1.scanned (s.1.pending ++ chunk)).1,
        (splitLinesFrom s.1.scanned (s.1.pending ++ chunk)).2,
        List.range' s.1.pending.length chunk.length⟩ := by
  rw [search?_eq, if_pos (by simp [h.scanned]), h.scanned, List.length_append,
    Nat.add_sub_cancel_left]

/-- A chunk that does not fail completes lines. -/
theorem Forwarded.feed {s' : TupleDecoder × σ} {chunk : Bytes} (h : Forwarded sink w body s)
    (hfeed : feed sink chunk s = (.ok (), s')) : Forwarded sink w (body ++ chunk) s' := by
  obtain ⟨d, w₁⟩ := s
  obtain ⟨rows, hread, hoffer, hcount⟩ := h.rows
  have hready : d.Ready := ⟨h.unended, h.scanned⟩
  have hpending : d.pending = (splitLines body).2 := h.pending_eq
  have hline : d.line = (splitLines body).1.length := by rw [h.line, count_endsLine]
  rw [hready.eq_hold, feed_hold sink hready.1] at hfeed
  cases htake : takeLines sink (splitLines (d.pending ++ chunk)).1 (d, w₁) with
  | mk r t =>
    obtain ⟨d', w₂⟩ := t
    cases r with
    | error e => simp [htake] at hfeed
    | ok u =>
      simp only [htake, Prod.mk.injEq, true_and] at hfeed
      subst hfeed
      obtain ⟨rows', hread', hoffer', hline', hcount'⟩ := takeLines_ok htake
      have hcut := splitLines_append body chunk
      rw [← hpending] at hcut
      rw [splitLines_eq_splitOn, List.dropLast_concat] at hread
      refine ⟨⟨rows ++ rows', ?_, ?_, ?_⟩, ?_, ?_, rfl, ?_⟩
      · rw [splitLines_eq_splitOn, List.dropLast_concat, hcut]
        refine Table.readLines_append hread ?_
        rw [Nat.add_comm 1, ← hline]
        exact hread'
      · rw [List.map_append, Sink.offer_append, hoffer]
        exact hoffer'
      · have hsum : d'.rows = (rows ++ rows').length := by
          rw [hcount', hcount, List.length_append]
        exact hsum
      · rw [splitLines_eq_splitOn, List.getLast?_concat, hcut]
        rfl
      · exact splitLines_tail_not_mem _
      · rw [count_endsLine, hcut, List.length_append, ← hline]
        exact hline'

theorem Forwarded.feedAll {chunks : List Bytes} {s' : TupleDecoder × σ}
    (h : Forwarded sink w body s) (hfeed : Decoder.feedAll sink chunks s = (.ok (), s')) :
    Forwarded sink w (body ++ chunks.flatten) s' := by
  induction chunks generalizing body s with
  | nil =>
    cases hfeed
    rw [List.flatten_nil, List.append_nil]
    exact h
  | cons chunk rest ih =>
    simp only [Decoder.feedAll] at hfeed
    cases hchunk : Decoder.feed sink chunk s with
    | mk r t =>
      rw [hchunk] at hfeed
      cases r with
      | error e => cases hfeed
      | ok u =>
        rw [List.flatten_cons, ← List.append_assoc]
        exact ih (h.feed hchunk) hfeed

theorem Forwarded.places {chunks : List Bytes} {s' : TupleDecoder × σ}
    (h : Forwarded sink w body s) (hfeed : Decoder.feedAll sink chunks s = (.ok (), s')) :
    places? sink body.length chunks s =
      some (List.range' body.length chunks.flatten.length) := by
  induction chunks generalizing body s with
  | nil => rfl
  | cons chunk rest ih =>
    simp only [Decoder.feedAll] at hfeed
    cases hchunk : Decoder.feed sink chunk s with
    | mk r t =>
      rw [hchunk] at hfeed
      cases r with
      | error e => cases hfeed
      | ok u =>
        have hfed : TupleDecoder.feed sink chunk s = (.ok (), t) := hchunk
        have hrest := ih (h.feed hchunk) hfeed
        have hheld : s.1.pending.length ≤ body.length := by
          rw [h.pending_eq]
          exact splitLines_tail_length body
        rw [List.length_append] at hrest
        simp only [places?, h.search, hfed, hrest, Option.map_some]
        rw [List.map_add_range', Nat.sub_add_cancel hheld, List.range'_append_1,
          List.flatten_cons, List.length_append]

/-- **Rows are forwarded line by line.** After each chunk of a run without a failure, a fresh
decoder has counted the lines that have ended and handed over their rows, and holds what follows
the last LF, all of which was searched. The next search begins within the octets at hand, and from
the first chunk to the last each octet is looked at once. -/
theorem forwards_line_by_line (sink : Sink σ) (w : σ) {chunks : List Bytes}
    (h : (Decoder.feedAll sink chunks (initial, w)).1 = .ok ()) :
    (∀ n, ∃ s', Decoder.feedAll sink (chunks.take n) (initial, w) = (.ok (), s') ∧
      Forwarded sink w (chunks.take n).flatten s' ∧
      ∀ chunk, feed? sink chunk s' = some (feed sink chunk s') ∧
        search? (s'.1.pending ++ chunk) 0 s'.1.scanned =
          some ⟨(splitLinesFrom s'.1.scanned (s'.1.pending ++ chunk)).1,
            (splitLinesFrom s'.1.scanned (s'.1.pending ++ chunk)).2,
            List.range' s'.1.pending.length chunk.length⟩) ∧
      places? sink 0 chunks (initial, w) = some (List.range chunks.flatten.length) := by
  obtain ⟨s, hs⟩ : ∃ s, Decoder.feedAll sink chunks (initial, w) = (.ok (), s) :=
    ⟨_, Prod.ext h rfl⟩
  refine ⟨fun n => ?_, ?_⟩
  · have hsplit := Decoder.feedAll_append sink (chunks.take n) (chunks.drop n) (initial, w)
    rw [List.take_append_drop, hs] at hsplit
    cases hfirst : Decoder.feedAll sink (chunks.take n) (initial, w) with
    | mk r s' =>
      rw [hfirst] at hsplit
      cases r with
      | error e => cases hsplit
      | ok u =>
        have hs' := (forwarded_initial sink w).feedAll hfirst
        rw [List.nil_append] at hs'
        refine ⟨s', rfl, hs', fun chunk => ⟨?_, hs'.search chunk⟩⟩
        have hready : s'.1.Ready := ⟨hs'.unended, hs'.scanned⟩
        have hhold := feed?_hold sink s'.1.pending chunk s'.1 s'.2
        rwa [← hready.eq_hold] at hhold
  · have hplaces := (forwarded_initial sink w).places hs
    rwa [List.length_nil, ← List.range_eq_range'] at hplaces

/-- A row whose line is cut inside its value, and an unbound one. -/
theorem forwards_cut_row :
    let chunks : List Bytes :=
      [Utf8.ofString "?s\n<urn:a>\n<urn:", [], Utf8.ofString "b>\r\n\n\"c"]
    (Decoder.feedAll Sink.collect chunks (initial, [])).1 = .ok () ∧
      (∀ n, ∃ s', Decoder.feedAll Sink.collect (chunks.take n) (initial, []) = (.ok (), s') ∧
        Forwarded Sink.collect [] (chunks.take n).flatten s' ∧
        ∀ chunk, feed? Sink.collect chunk s' = some (feed Sink.collect chunk s') ∧
          search? (s'.1.pending ++ chunk) 0 s'.1.scanned =
            some ⟨(splitLinesFrom s'.1.scanned (s'.1.pending ++ chunk)).1,
              (splitLinesFrom s'.1.scanned (s'.1.pending ++ chunk)).2,
              List.range' s'.1.pending.length chunk.length⟩) ∧
        places? Sink.collect 0 chunks (initial, []) =
          some (List.range chunks.flatten.length) := by
  intro chunks
  have h : (Decoder.feedAll Sink.collect chunks (initial, [])).1 = .ok () := by decide +kernel
  exact ⟨h, forwards_line_by_line Sink.collect [] h⟩

end TupleDecoder
end RdfExport
