import RdfExport.Sink
import RdfExport.Text.Utf8

/-!
# RdfExport.Output

Where octets go: a file, a pipe, an upload. An output may take fewer octets than it is offered,
and may fail.

* `Output`: what a destination does with octets.
* `Output.writeAll`: offers octets until all are taken.
* `Output.nquads`: the sink that writes records as N-Quads lines.
-/

namespace RdfExport

/-- The outcome of an action of an output with state `ω`, and the state after it. -/
abbrev IoOutcome (ω : Type) := Except IoError Unit × ω

/-- A failed output as a failure of the export. -/
def IoOutcome.reported {ω : Type} : IoOutcome ω → Outcome ω
  | (.ok (), w) => (.ok (), w)
  | (.error e, w) => (.error (.output e), w)

/-- A destination of octets with a state `ω`. -/
structure Output (ω : Type) where
  /-- Takes some of the octets offered and says how many. -/
  put : Bytes → ω → Except IoError Nat × ω
  /-- Passes on what was taken. -/
  flush : ω → IoOutcome ω

namespace Output

variable {ω : Type}

/-- Offers octets until all are taken. An output that takes none of them has failed. -/
def writeAll (out : Output ω) : Bytes → ω → IoOutcome ω
  | [], w => (.ok (), w)
  | b :: rest, w =>
    match out.put (b :: rest) w with
    | (.ok 0, w) => (.error .notWritten, w)
    | (.ok (n + 1), w) => out.writeAll (rest.drop n) w
    | (.error e, w) => (.error e, w)
  termination_by bytes => bytes.length
  decreasing_by simp only [List.length_drop, List.length_cons]; omega

/-- Writes a line of text. -/
def writeLine (out : Output ω) (line : List Char) (w : ω) : Outcome ω :=
  IoOutcome.reported (out.writeAll (Utf8.encode line) w)

/-- Writes one record as a line: a statement without a graph, or the statement that a row
describes. A row that describes none is refused before anything is written. -/
def writeRecord (out : Output ω) (record : Record) (w : ω) : Outcome ω :=
  match record with
  | .statement t => out.writeLine t.line w
  | .row b =>
    match b.toQuad? with
    | some q => out.writeLine q.line w
    | none => (.error (.protocol (.notAStatement b)), w)

/-- The sink that writes N-Quads, and flushes at the end. -/
def nquads (out : Output ω) : Sink ω where
  accept := out.writeRecord
  finish w := IoOutcome.reported (out.flush w)

end Output
end RdfExport
