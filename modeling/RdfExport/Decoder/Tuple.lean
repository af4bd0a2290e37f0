import RdfExport.Decoder

/-!
# RdfExport.Decoder.Tuple

Result tables in tab-separated values. The first line names the variables, every other line is a
row; a line ends in LF, with or without a CR before it, and the last line may lack its end.

* `readHeader`, `readRow`: one line.
* `TupleDecoder`: the incomplete last line and what the lines before it said.
* `TupleDecoder.feed`, `TupleDecoder.close`: take in a chunk and the end.
-/

namespace RdfExport

open Rdf

/-- The text of a line without the CR at its end. -/
def stripReturn (cs : List Char) : List Char :=
  if cs.getLast? = some '\r' then cs.dropLast else cs

/-- A field of the header without the mark of a variable. -/
def stripMark : List Char → List Char
  | '?' :: name => name
  | '$' :: name => name
  | name => name

/-- The variable that a field of the header names. -/
def headerVariable (field : List Char) : Except ProtocolFault Variable :=
  match Variable.ofName? (stripMark field) with
  | some v => .ok v
  | none => .error (.badVariable (String.ofList field))

/-- The variables that a header names. -/
def readHeader (text : List Char) : Except ProtocolFault (List Variable) :=
  if text.isEmpty then .error .emptyHeader else (text.splitOn '\t').mapM headerVariable

/-- The bound variables of a row, from pairs of a variable and a field. An empty field is
unbound. -/
def readFields (line : Nat) :
    List (Variable × List Char) → Except ProtocolFault (List (Variable × Term))
  | [] => .ok []
  | (v, field) :: rest =>
    if field.isEmpty then readFields line rest
    else
      match Term.ofField field with
      | .error f => .error (.badValue line (String.ofList field) v f)
      | .ok t => (readFields line rest).map ((v, t) :: ·)

/-- The row of a line, if the line is one: an empty line is none unless there is one variable. -/
def readRow (vars : List Variable) (line : Nat) (text : List Char) :
    Except ProtocolFault (Option Bindings) :=
  if text.isEmpty && vars.length != 1 then .ok none
  else
    let fields := text.splitOn '\t'
    if fields.length ≠ vars.length then .error (.fieldCount line fields.length vars.length)
    else (readFields line (vars.zip fields)).map fun values => some ⟨values⟩

/-- The text of a line. -/
def readText (line : Nat) (raw : Bytes) : Except ProtocolFault (List Char) :=
  match Utf8.decode raw with
  | .ok cs => .ok (stripReturn cs)
  | .error f => .error (.notUtf8 line f)

/-- A decoder of result tables. The first `scanned` octets of `pending` hold no LF. -/
structure TupleDecoder where
  pending : Bytes
  scanned : Nat
  header : Option (List Variable)
  line : Nat
  rows : Nat
  deriving DecidableEq

namespace TupleDecoder

def initial : TupleDecoder := ⟨[], 0, none, 0, 0⟩

variable {σ : Type}

/-- Hands a row to the sink and counts it. -/
def deliver (sink : Sink σ) (row : Bindings) (s : TupleDecoder × σ) : Outcome (TupleDecoder × σ) :=
  match sink.accept (.row row) s.2 with
  | (.ok (), w) => (.ok (), { s.1 with rows := s.1.rows + 1 }, w)
  | (.error e, w) => (.error e, s.1, w)

/-- Takes in one line, given without its LF. -/
def takeLine (sink : Sink σ) (raw : Bytes) (s : TupleDecoder × σ) : Outcome (TupleDecoder × σ) :=
  let d := { s.1 with line := s.1.line + 1 }
  match readText d.line raw with
  | .error f => (.error (.protocol f), d, s.2)
  | .ok text =>
    match d.header with
    | none =>
      match readHeader text with
      | .error f => (.error (.protocol f), d, s.2)
      | .ok vars => (.ok (), { d with header := some vars }, s.2)
    | some vars =>
      match readRow vars d.line text with
      | .error f => (.error (.protocol f), d, s.2)
      | .ok none => (.ok (), d, s.2)
      | .ok (some row) => deliver sink row (d, s.2)

/-- Takes in lines up to the first that fails. -/
def takeLines (sink : Sink σ) : List Bytes → TupleDecoder × σ → Outcome (TupleDecoder × σ)
  | [], s => (.ok (), s)
  | raw :: rest, s =>
    match takeLine sink raw s with
    | (.ok (), s) => takeLines sink rest s
    | failed => failed

/-- The complete lines of octets, and what follows the last LF. -/
def splitLines : Bytes → List Bytes × Bytes
  | [] => ([], [])
  | b :: rest =>
    match splitLines rest with
    | (lines, tail) =>
      if b = octet '\n' then ([] :: lines, tail)
      else
        match lines with
        | [] => ([], b :: tail)
        | line :: more => ((b :: line) :: more, tail)

/-- `splitLines`, but an LF among the first `scanned` octets does not end a line. -/
def splitLinesFrom (scanned : Nat) (bytes : Bytes) : List Bytes × Bytes :=
  match splitLines (bytes.drop scanned) with
  | ([], tail) => ([], bytes.take scanned ++ tail)
  | (line :: more, tail) => ((bytes.take scanned ++ line) :: more, tail)

/-- Takes in a chunk. What follows its last LF is kept; after a failure nothing is kept, and
`scanned` stays as it was. -/
def feed (sink : Sink σ) (chunk : Bytes) (s : TupleDecoder × σ) : Outcome (TupleDecoder × σ) :=
  let split := splitLinesFrom s.1.scanned (s.1.pending ++ chunk)
  match takeLines sink split.1 ({ s.1 with pending := [] }, s.2) with
  | (.ok (), d, w) => (.ok (), { d with pending := split.2, scanned := split.2.length }, w)
  | failed => failed

/-- Whether `scanned` lies within the octets that a chunk makes up with the pending ones. Only
where it does is there an answer to `feed`. -/
def inRange (d : TupleDecoder) (chunk : Bytes) : Bool :=
  d.scanned ≤ d.pending.length + chunk.length

/-- `feed` where it has an answer. -/
def feed? (sink : Sink σ) (chunk : Bytes) (s : TupleDecoder × σ) :
    Option (Outcome (TupleDecoder × σ)) :=
  if s.1.inRange chunk then some (feed sink chunk s) else none

/-- Takes in the last line, if it lacks its end. -/
def takeTail (sink : Sink σ) (s : TupleDecoder × σ) : Outcome (TupleDecoder × σ) :=
  if s.1.pending.isEmpty then (.ok (), s)
  else takeLine sink s.1.pending ({ s.1 with pending := [], scanned := 0 }, s.2)

/-- Takes in the end of the octets. A table without a header is no table. -/
def close (sink : Sink σ) (s : TupleDecoder × σ) : Outcome (TupleDecoder × σ) :=
  match takeTail sink s with
  | (.ok (), s) =>
    if s.1.header.isNone then (.error (.protocol .missingHeader), s) else (.ok (), s)
  | failed => failed

instance : Decoder TupleDecoder where
  feed := feed
  close := close
  records := rows

end TupleDecoder
end RdfExport
