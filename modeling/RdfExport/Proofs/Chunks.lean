import RdfExport.Proofs.Lines

/-!
# RdfExport.Proofs.Chunks

A decoder of result tables chunk by chunk. What it knows splits in two: what the lines so far said
and the octets of the incomplete line, which no line looks at (`takeLines_hold`). So long as
nothing fails, the octets held contain no LF and all of them were searched for one; from such a
state a chunk completes the lines that the octets held and the chunk make up together
(`feed_hold`), and the search never starts beyond them (`feed?_hold`).

* `Outcome.view`: an outcome of which only something made of the decoder is looked at.
* `hold`: a decoder that holds other octets.
* `readOn?`: takes in the chunks one by one and then the end, up to the first failure.
-/

namespace RdfExport

/-- An outcome of which only something made of the decoder is looked at. -/
def Outcome.view {α β σ : Type} (f : α → β) (o : Outcome (α × σ)) : Outcome (β × σ) :=
  (o.1, f o.2.1, o.2.2)

namespace TupleDecoder

open Rdf

variable {σ : Type} (sink : Sink σ)

/-- The decoder that holds the octets `p` of an incomplete line, of which `k` were searched. -/
def hold (d : TupleDecoder) (p : Bytes) (k : Nat) : TupleDecoder :=
  { d with pending := p, scanned := k }

@[simp] theorem hold_pending (d : TupleDecoder) (p : Bytes) (k : Nat) :
    (d.hold p k).pending = p := rfl
@[simp] theorem hold_scanned (d : TupleDecoder) (p : Bytes) (k : Nat) :
    (d.hold p k).scanned = k := rfl
@[simp] theorem hold_header (d : TupleDecoder) (p : Bytes) (k : Nat) :
    (d.hold p k).header = d.header := rfl
@[simp] theorem hold_line (d : TupleDecoder) (p : Bytes) (k : Nat) :
    (d.hold p k).line = d.line := rfl

theorem takeLine_hold (raw p : Bytes) (k : Nat) (d : TupleDecoder) (w : σ) :
    takeLine sink raw (d.hold p k, w) = (takeLine sink raw (d, w)).view (·.hold p k) := by
  simp only [takeLine, hold_line, hold_header]
  cases readText (d.line + 1) raw with
  | error f => rfl
  | ok text =>
    cases d.header with
    | none => cases h : readHeader text <;> simp [h] <;> rfl
    | some vars =>
      cases h : readRow vars (d.line + 1) text with
      | error f => simp [h]; rfl
      | ok row =>
        cases row with
        | none => simp [h]; rfl
        | some row =>
          simp only [h, deliver]
          cases h' : sink.accept (.row row) w with
          | mk r w' => cases r <;> rfl

theorem takeLines_hold (lines : List Bytes) (p : Bytes) (k : Nat) (d : TupleDecoder) (w : σ) :
    takeLines sink lines (d.hold p k, w) = (takeLines sink lines (d, w)).view (·.hold p k) := by
  induction lines generalizing d w with
  | nil => rfl
  | cons raw rest ih =>
    simp only [takeLines, takeLine_hold]
    cases h : takeLine sink raw (d, w) with
    | mk r s =>
      cases r with
      | error e => rfl
      | ok u => exact ih s.1 s.2

theorem takeLines_append (a b : List Bytes) (s : TupleDecoder × σ) :
    takeLines sink (a ++ b) s =
      match takeLines sink a s with
      | (.ok (), s) => takeLines sink b s
      | failed => failed := by
  induction a generalizing s with
  | nil => rfl
  | cons raw rest ih =>
    simp only [List.cons_append, takeLines]
    cases h : takeLine sink raw s with
    | mk r s' =>
      cases r with
      | error e => rfl
      | ok u => exact ih s'

/-- A chunk completes the lines that the octets held and the chunk make up. What is left is held
and counts as searched. -/
theorem feed_hold {p : Bytes} (hp : endsLine ∉ p) (chunk : Bytes) (d : TupleDecoder) (w : σ) :
    feed sink chunk (d.hold p p.length, w) =
      match takeLines sink (splitLines (p ++ chunk)).1 (d, w) with
      | (.ok (), d, w) =>
        (.ok (), d.hold (splitLines (p ++ chunk)).2 (splitLines (p ++ chunk)).2.length, w)
      | (.error e, d, w) => (.error e, d.hold [] p.length, w) := by
  have hsearched : endsLine ∉ (p ++ chunk).take p.length := by simpa using hp
  have hsplit : splitLinesFrom (d.hold p p.length).scanned ((d.hold p p.length).pending ++ chunk) =
      splitLines (p ++ chunk) := splitLinesFrom_eq hsearched
  have hemptied : { d.hold p p.length with pending := [] } = d.hold [] p.length := rfl
  simp only [feed, hsplit, hemptied, takeLines_hold]
  cases h : takeLines sink (splitLines (p ++ chunk)).1 (d, w) with
  | mk r s => cases r <;> rfl

/-- The search for the end of a line never starts beyond the octets at hand. -/
theorem feed?_hold (p chunk : Bytes) (d : TupleDecoder) (w : σ) :
    feed? sink chunk (d.hold p p.length, w) = some (feed sink chunk (d.hold p p.length, w)) := by
  simp [feed?, inRange]

theorem takeTail_hold (p : Bytes) (d : TupleDecoder) (w : σ) :
    takeTail sink (d.hold p p.length, w) =
      (takeLines sink (if p.isEmpty then [] else [p]) (d, w)).view (·.hold [] 0) := by
  cases p with
  | nil => rfl
  | cons b p =>
    have htail : takeTail sink (d.hold (b :: p) (b :: p).length, w) =
        takeLine sink (b :: p) (d.hold [] 0, w) := rfl
    rw [htail, takeLine_hold]
    simp only [List.isEmpty_cons, Bool.false_eq_true, if_false, takeLines]
    cases h : takeLine sink (b :: p) (d, w) with
    | mk r s => cases r <;> rfl

/-- Takes in all lines of a table. One without a header is no table. -/
def takeTable (lines : List Bytes) (s : TupleDecoder × σ) : Outcome (TupleDecoder × σ) :=
  match takeLines sink lines s with
  | (.ok (), s) =>
    if s.1.header.isNone then (.error (.protocol .missingHeader), s) else (.ok (), s)
  | failed => failed

theorem takeTable_append (a b : List Bytes) (s : TupleDecoder × σ) :
    takeTable sink (a ++ b) s =
      match takeLines sink a s with
      | (.ok (), s) => takeTable sink b s
      | failed => failed := by
  unfold takeTable
  rw [takeLines_append]
  cases h : takeLines sink a s with
  | mk r s' => cases r <;> rfl

theorem close_hold (p : Bytes) (d : TupleDecoder) (w : σ) :
    close sink (d.hold p p.length, w) =
      (takeTable sink (if p.isEmpty then [] else [p]) (d, w)).view (·.hold [] 0) := by
  unfold close takeTable
  rw [takeTail_hold]
  cases h : takeLines sink (if p.isEmpty then [] else [p]) (d, w) with
  | mk r s =>
    cases r with
    | error e => rfl
    | ok u =>
      simp only [Outcome.view, hold_header]
      by_cases hv : s.1.header.isNone <;> simp [hv]

/-- Takes in chunks one by one and then the end, up to the first failure. There is no answer where
one of the chunks has none. -/
def readOn? : List Bytes → TupleDecoder × σ → Option (Outcome (TupleDecoder × σ))
  | [], s => some (close sink s)
  | chunk :: rest, s =>
    match feed? sink chunk s with
    | none => none
    | some (.ok (), s) => readOn? rest s
    | some failed => some failed

/-- However octets are cut into chunks, what they say is what their lines say. -/
theorem readOn?_hold {α : Type} {f : TupleDecoder → α} (hf : ∀ d p k, f (d.hold p k) = f d)
    (chunks : List Bytes) {p : Bytes} (hp : endsLine ∉ p) (d : TupleDecoder) (w : σ) :
    (readOn? sink chunks (d.hold p p.length, w)).map (·.view f) =
      some ((takeTable sink (tableLines (p ++ chunks.flatten)) (d, w)).view f) := by
  induction chunks generalizing p d w with
  | nil =>
    rw [readOn?, close_hold, List.flatten_nil, List.append_nil, tableLines_eq_self hp]
    simp [Outcome.view, hf]
  | cons chunk rest ih =>
    rw [readOn?, feed?_hold, feed_hold sink hp, List.flatten_cons, ← List.append_assoc,
      tableLines_append, takeTable_append]
    cases h : takeLines sink (splitLines (p ++ chunk)).1 (d, w) with
    | mk r s =>
      cases r with
      | error e => simp [Outcome.view, hf]
      -- the octets that are held now hold no LF either
      | ok u => exact ih (splitLines_tail_not_mem (p ++ chunk)) s.1 s.2

end TupleDecoder
end RdfExport
