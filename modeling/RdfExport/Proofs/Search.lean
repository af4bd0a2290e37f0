import RdfExport.Proofs.Rows

/-!
# RdfExport.Proofs.Search

How far a decoder of result tables has searched the octets that it holds. It goes on after a
failure, and a chunk that fails takes with it the octets held, but not the count of those that were
searched. So the search stays sound through a history of chunks and ends exactly if no chunk fails
in it while octets of an incomplete line are held.

* `Arrival`, `TupleDecoder.history?`: what comes to a decoder, and what is left after all of it.
* `Searched`: that the octets searched are held and hold no LF.
* `searched_throughout_iff`: in which histories that stays true.
* `search_outruns_chunk`: a history in which it does not.
-/

namespace RdfExport

inductive Arrival where
  | chunk (bytes : Bytes)
  | ending

namespace TupleDecoder

variable {σ : Type} (sink : Sink σ)

/-- The octets searched are among those held, and no LF is among them. -/
def Searched (d : TupleDecoder) : Prop :=
  d.scanned ≤ d.pending.length ∧ endsLine ∉ d.pending.take d.scanned

/-- What comes of an arrival, if there is an answer to it. -/
def arrive? (s : TupleDecoder × σ) : Arrival → Option (Outcome (TupleDecoder × σ))
  | .chunk bytes => feed? sink bytes s
  | .ending => some (close sink s)

def history? : List Arrival → TupleDecoder × σ → Option (TupleDecoder × σ)
  | [], s => some s
  | a :: rest, s => (arrive? sink s a).bind fun o => history? rest o.2

/-- That the search is sound: what was searched is held and holds no LF, there is an answer to every
chunk that may come next, and every LF in it ends a line. -/
def SearchesAll (s : TupleDecoder × σ) : Prop :=
  s.1.Searched ∧ ∀ chunk,
    feed? sink chunk s = some (feed sink chunk s) ∧
    (splitLinesFrom s.1.scanned (s.1.pending ++ chunk)).1 ++
        [(splitLinesFrom s.1.scanned (s.1.pending ++ chunk)).2] =
      (s.1.pending ++ chunk).splitOn endsLine

/-- That something is true before the first arrival and after each. -/
def Throughout (P : TupleDecoder × σ → Prop) (arrivals : List Arrival) (s : TupleDecoder × σ) :
    Prop :=
  ∀ before, before <+: arrivals → ∃ s', history? sink before s = some s' ∧ P s'

/-- That no chunk fails while octets of an incomplete line are held. -/
def FailsBetweenLines : List Arrival → TupleDecoder × σ → Prop
  | [], _ => True
  | .chunk bytes :: rest, s =>
    ((feed sink bytes s).1 = .ok () ∨ s.1.pending = []) ∧
      FailsBetweenLines rest (feed sink bytes s).2
  | .ending :: rest, s => FailsBetweenLines rest (close sink s).2

theorem throughout_nil {P : TupleDecoder × σ → Prop} {s : TupleDecoder × σ} :
    Throughout sink P [] s ↔ P s := by
  constructor
  · intro h
    obtain ⟨s', hs', hp⟩ := h [] List.prefix_rfl
    cases hs'
    exact hp
  · intro hp before hbefore
    rw [List.prefix_nil] at hbefore
    subst hbefore
    exact ⟨s, rfl, hp⟩

theorem throughout_cons {P : TupleDecoder × σ → Prop} {s : TupleDecoder × σ} {a : Arrival}
    {o : Outcome (TupleDecoder × σ)} (ho : arrive? sink s a = some o) (rest : List Arrival) :
    Throughout sink P (a :: rest) s ↔ P s ∧ Throughout sink P rest o.2 := by
  have hstep : ∀ before, history? sink (a :: before) s = history? sink before o.2 := by
    intro before
    simp only [history?, ho, Option.bind_some]
  constructor
  · intro h
    refine ⟨?_, fun before hbefore => ?_⟩
    · obtain ⟨s', hs', hp⟩ := h [] List.nil_prefix
      cases hs'
      exact hp
    · rw [← hstep]
      exact h (a :: before) (List.cons_prefix_cons.2 ⟨rfl, hbefore⟩)
  · rintro ⟨hp, h⟩ before hbefore
    rcases List.prefix_cons_iff.1 hbefore with rfl | ⟨before, rfl, hrest⟩
    · exact ⟨s, rfl, hp⟩
    · rw [hstep]
      exact h before hrest

theorem Searched.searchesAll {d : TupleDecoder} (hd : d.Searched) (w : σ) :
    SearchesAll sink (d, w) := by
  refine ⟨hd, fun chunk => ⟨?_, ?_⟩⟩
  · have hrange : d.inRange chunk = true := by
      simpa [inRange] using Nat.le_add_right_of_le hd.1
    simp only [feed?, hrange, if_true]
  · have hsearched : endsLine ∉ (d.pending ++ chunk).take d.scanned := by
      rw [List.take_append_of_le_length hd.1]
      exact hd.2
    rw [splitLinesFrom_eq hsearched, splitLines_eq_splitOn]

theorem Ready.searchesAll {d : TupleDecoder} (hd : d.Ready) (w : σ) : SearchesAll sink (d, w) := by
  refine Searched.searchesAll sink ⟨Nat.le_of_eq hd.2, ?_⟩ w
  rw [hd.2, List.take_length]
  exact hd.1

section Steps

variable {d : TupleDecoder} (hd : d.Ready) (w : σ)
include hd

/-- A chunk leaves a state between two chunks, or fails. Then nothing is held any more, but what was
held still counts as searched. -/
theorem feed_cases (chunk : Bytes) :
    (∃ d' w', feed sink chunk (d, w) = (.ok (), d', w') ∧ d'.Ready) ∨
      ∃ e d' w', feed sink chunk (d, w) = (.error e, d', w') ∧ d'.pending = [] ∧
        d'.scanned = d.pending.length := by
  rw [hd.eq_hold, feed_hold sink hd.1]
  cases takeLines sink (splitLines (d.pending ++ chunk)).1 (d, w) with
  | mk r s =>
    cases r with
    | ok u =>
      exact .inl ⟨_, s.2, rfl, ready_hold (splitLines_tail_not_mem (d.pending ++ chunk)) s.1⟩
    | error e => exact .inr ⟨e, _, s.2, rfl, rfl, rfl⟩

theorem close_ready : (close sink (d, w)).2.1.Ready := by
  rw [hd.eq_hold, close_hold]
  exact ready_hold (p := []) (by simp) _

/-- From a state between two chunks the search stays sound exactly if no chunk fails while octets
are held. -/
theorem searchesAll_throughout_iff (arrivals : List Arrival) :
    Throughout sink (SearchesAll sink) arrivals (d, w) ↔
      FailsBetweenLines sink arrivals (d, w) := by
  induction arrivals generalizing d w with
  | nil =>
    rw [throughout_nil]
    exact iff_of_true (hd.searchesAll sink w) trivial
  | cons a rest ih =>
    have hnow : SearchesAll sink (d, w) := hd.searchesAll sink w
    cases a with
    | ending =>
      have harrive : arrive? sink (d, w) .ending = some (close sink (d, w)) := rfl
      rw [throughout_cons sink harrive, and_iff_right hnow]
      exact ih (close_ready sink hd w) _
    | chunk bytes =>
      have harrive : arrive? sink (d, w) (.chunk bytes) = some (feed sink bytes (d, w)) :=
        (hnow.2 bytes).1
      rw [throughout_cons sink harrive, and_iff_right hnow, FailsBetweenLines]
      rcases feed_cases sink hd w bytes with ⟨d', w', hfeed, hready⟩ | ⟨e, d', w', hfeed, hp, hk⟩
      · rw [hfeed, and_iff_right (.inl rfl)]
        exact ih hready w'
      · rw [hfeed]
        by_cases hheld : d.pending = []
        · -- nothing was held, so nothing counts as searched
          have hready : d'.Ready := ⟨by simp [hp], by simp [hp, hk, hheld]⟩
          rw [and_iff_right (.inr hheld)]
          exact ih hready w'
        · have hfails :
              ¬((Except.error e : Except ExportError Unit) = .ok () ∨ d.pending = []) := by
            simp [hheld]
          refine iff_of_false (fun h => ?_) fun h => hfails h.1
          obtain ⟨s, hs, hsearched, -⟩ := h [] List.nil_prefix
          cases hs
          have hle := hsearched.1
          simp only [hp, hk, List.length_nil, Nat.le_zero, List.length_eq_zero_iff] at hle
          exact hheld hle

end Steps

/-- **When the search stays sound.** Throughout a history of chunks and ends on a fresh decoder,
failures included, what was searched is held and holds no LF, each chunk has an answer and every LF
in it ends a line, exactly if no chunk of the history fails while octets of an incomplete line are
held. -/
theorem searched_throughout_iff (arrivals : List Arrival) (w : σ) :
    Throughout sink (SearchesAll sink) arrivals (initial, w) ↔
      FailsBetweenLines sink arrivals (initial, w) :=
  searchesAll_throughout_iff sink initial_ready w arrivals

def strayArrivals : List Arrival :=
  [.chunk (Utf8.encode ['?', 's']), .chunk (Utf8.encode ['?', '\n']), .chunk (Utf8.encode ['x'])]

/-- A chunk that fails while octets are held leaves a search that begins beyond what comes next:
the next chunk has no answer. -/
theorem search_outruns_chunk :
    ((history? Sink.collect (strayArrivals.take 2) (initial, [])).map fun s =>
        (s.1.pending, s.1.scanned)) = some ([], 2) ∧
      (history? Sink.collect strayArrivals (initial, [])).isNone ∧
      ¬Throughout Sink.collect (SearchesAll Sink.collect) strayArrivals (initial, []) := by
  have hnone : (history? Sink.collect strayArrivals (initial, [])).isNone := by decide +kernel
  refine ⟨by decide +kernel, hnone, fun h => ?_⟩
  obtain ⟨s, hs, -⟩ := h strayArrivals List.prefix_rfl
  simp [hs] at hnone

end TupleDecoder
end RdfExport
