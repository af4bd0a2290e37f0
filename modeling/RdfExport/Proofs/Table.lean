import RdfExport.Proofs.Chunks

/-!
# RdfExport.Proofs.Table

Decoding a result table as a whole. The reference sees all octets at once: it cuts them at the LFs,
reads the first line as the header and each further line as a row, counts the lines from one, and
stops at the first that fails. The incremental decoder does the same however the octets are cut
into chunks (`chunks_decode_as_whole`): the records that the sink is offered, the variables, the
count of rows and the failure with its text and line number are those of the reference.

* `Table`: what is known of a table when reading it stops.
* `Table.decode`: the reference.
-/

namespace RdfExport

open Rdf

/-- What is known of a table when reading it stops: the variables, if there was a header, and how
many rows the sink has accepted. -/
structure Table where
  header : Option (List Variable)
  rows : Nat
  deriving DecidableEq

namespace Table

variable {σ : Type} (sink : Sink σ)

/-- Reads the lines from number `n` on as rows, of which `rows` were accepted before. -/
def decodeRows (vars : List Variable) : Nat → List Bytes → Nat → σ → Outcome (Nat × σ)
  | _, [], rows, w => (.ok (), rows, w)
  | n, raw :: rest, rows, w =>
    match readText n raw with
    | .error f => (.error (.protocol f), rows, w)
    | .ok text =>
      match readRow vars n text with
      | .error f => (.error (.protocol f), rows, w)
      | .ok none => decodeRows vars (n + 1) rest rows w
      | .ok (some row) =>
        match sink.accept (.row row) w with
        | (.ok (), w) => decodeRows vars (n + 1) rest (rows + 1) w
        | (.error e, w) => (.error e, rows, w)

/-- Reads a whole table: the header, then the rows. -/
def decode (body : Bytes) (w : σ) : Outcome (Table × σ) :=
  match tableLines body with
  | [] => (.error (.protocol .missingHeader), ⟨none, 0⟩, w)
  | header :: lines =>
    match readText 1 header with
    | .error f => (.error (.protocol f), ⟨none, 0⟩, w)
    | .ok text =>
      match readHeader text with
      | .error f => (.error (.protocol f), ⟨none, 0⟩, w)
      | .ok vars => (decodeRows sink vars 2 lines 0 w).view fun rows => ⟨some vars, rows⟩

end Table

namespace TupleDecoder

variable {σ : Type} (sink : Sink σ)

def table (d : TupleDecoder) : Table := ⟨d.header, d.rows⟩

theorem takeLines_eq_decodeRows (vars : List Variable) (lines : List Bytes) (d : TupleDecoder)
    (hd : d.header = some vars) (w : σ) :
    (takeLines sink lines (d, w)).view table =
      (Table.decodeRows sink vars (d.line + 1) lines d.rows w).view fun rows =>
        ⟨some vars, rows⟩ := by
  induction lines generalizing d w with
  | nil => simp [takeLines, Table.decodeRows, Outcome.view, table, hd]
  | cons raw rest ih =>
    obtain ⟨p, k, _, n, rows⟩ := d
    cases hd
    simp only [takeLines, takeLine, Table.decodeRows]
    cases readText (n + 1) raw with
    | error f => rfl
    | ok text =>
      cases h : readRow vars (n + 1) text with
      | error f => simp [h]; rfl
      | ok row =>
        cases row with
        | none => simpa [h] using ih ⟨p, k, some vars, n + 1, rows⟩ rfl w
        | some row =>
          simp only [h, deliver]
          cases h' : sink.accept (.row row) w with
          | mk r w' =>
            cases r with
            | error e => rfl
            | ok u => simpa using ih ⟨p, k, some vars, n + 1, rows + 1⟩ rfl w'

/-- The lines of a table say what the reference reads in them. -/
theorem takeTable_eq_decode (body : Bytes) (w : σ) :
    (takeTable sink (tableLines body) (initial, w)).view table = Table.decode sink body w := by
  unfold takeTable Table.decode
  cases tableLines body with
  | nil => rfl
  | cons header lines =>
    simp only [takeLines, takeLine, initial, Nat.zero_add]
    cases readText 1 header with
    | error f => rfl
    | ok text =>
      cases h : readHeader text with
      | error f => simp [h]; rfl
      | ok vars =>
        have hrows := takeLines_eq_decodeRows sink vars lines ⟨[], 0, some vars, 1, 0⟩ rfl w
        simp only [h]
        rw [← hrows]
        cases h' : takeLines sink lines (⟨[], 0, some vars, 1, 0⟩, w) with
        | mk r s =>
          cases r with
          | error e => rfl
          | ok u =>
            -- the variables are still there after the rows
            have hvars : s.1.header = some vars := by
              have := congrArg (fun o : Outcome (Table × σ) => o.2.1.header) hrows
              simpa [h', Outcome.view, table] using this
            simp [hvars]

/-- A fresh decoder has an answer to each chunk, and leaves what the reference leaves. -/
theorem readOn?_view (chunks : List Bytes) (w : σ) :
    ∃ o, readOn? sink chunks (initial, w) = some o ∧
      o.view table = Table.decode sink chunks.flatten w := by
  have h := readOn?_hold sink (f := table) (fun _ _ _ => rfl) chunks (p := []) (by simp) initial w
  rw [List.nil_append, takeTable_eq_decode] at h
  exact Option.map_eq_some_iff.1 h

/-- **Chunks do not show.** However the octets of a table are cut into chunks, a fresh decoder has
an answer to each of them, and leaves what the reference leaves on all octets at once: the outcome,
the variables and the count of rows, and a sink that was offered the same records. -/
theorem chunks_decode_as_whole (chunks : List Bytes) (w : σ) :
    (readOn? sink chunks (initial, w)).map (·.view table) =
      some (Table.decode sink chunks.flatten w) := by
  have h := readOn?_hold sink (f := table) (fun _ _ _ => rfl) chunks (p := []) (by simp) initial w
  rw [List.nil_append, takeTable_eq_decode] at h
  exact h

end TupleDecoder
end RdfExport
