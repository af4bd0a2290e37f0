import RdfExport.Decoder
import RdfExport.NTriples.Grammar

/-!
# RdfExport.Decoder.Graph

Graphs in N-Triples. A statement goes to the sink as soon as the token after its object says that
it is complete, which is its dot or a fault. Faults are reported before the statement, one at a
time.

* `GraphDecoder`: the octets of the incomplete token, what the tokens before it said, and what is
  still to be reported.
* `GraphDecoder.feed`, `GraphDecoder.close`: take in a chunk and the end.
-/

namespace RdfExport

open NTriples

structure GraphDecoder where
  mode : Mode
  buffer : Bytes
  ended : Bool
  expect : Option Expect
  /-- Faults to be reported, the first one first. -/
  faults : List Fault
  /-- A statement to be handed to the sink after all faults. -/
  ready : Option Rdf.Triple
  statements : Nat

namespace GraphDecoder

def initial (mode : Mode) : GraphDecoder := ⟨mode, [], false, some .subject, [], none, 0⟩

variable {σ : Type}

/-- Reports what is to be reported, then reads octets and hands statements to the sink until an
octet is missing or something fails. The octets that are left become the buffer; those of `d` do
not matter. -/
def run (sink : Sink σ) (bytes : Bytes) (d : GraphDecoder) (w : σ) : Outcome (GraphDecoder × σ) :=
  match d.faults, _hr : d.ready, _he : d.expect, bytes with
  | f :: faults, _, _, bytes =>
    (.error (.protocol (.notNTriples f)), { d with faults, buffer := bytes }, w)
  | [], some t, _, bytes =>
    match sink.accept (.statement t) w with
    | (.ok (), w) => run sink bytes { d with ready := none, statements := d.statements + 1 } w
    | (.error e, w) => (.error e, { d with ready := none, buffer := bytes }, w)
  | [], none, expect, b :: rest =>
    match move d.mode d.ended expect b rest with
    | .step size expect ready faults =>
      run sink (rest.drop (size - 1)) { d with expect, ready, faults } w
    | .wait => (.ok (), { d with buffer := b :: rest }, w)
  | [], none, some e, [] =>
    if d.ended then
      run sink [] { d with expect := none, ready := e.onEnd.1, faults := e.onEnd.2 } w
    else (.ok (), { d with buffer := [] }, w)
  | [], none, none, [] => (.ok (), { d with buffer := [] }, w)
  termination_by (bytes.length, d.expect.isSome.toNat, d.ready.isSome.toNat)
  decreasing_by
    all_goals simp_all [wfParam, Prod.lex_def]
    try omega

/-- Takes in a chunk. -/
def feed (sink : Sink σ) (chunk : Bytes) (s : GraphDecoder × σ) : Outcome (GraphDecoder × σ) :=
  run sink (s.1.buffer ++ chunk) s.1 s.2

/-- Takes in the end of the octets. -/
def close (sink : Sink σ) (s : GraphDecoder × σ) : Outcome (GraphDecoder × σ) :=
  run sink s.1.buffer { s.1 with ended := true } s.2

instance : Decoder GraphDecoder where
  feed := feed
  close := close
  records := statements

end GraphDecoder
end RdfExport
