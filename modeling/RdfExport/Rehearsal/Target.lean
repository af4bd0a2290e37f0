import RdfExport.Rehearsal.World
import RdfExport.Target

/-!
# RdfExport.Rehearsal.Target

Targets that log what is done to them and fail where a plan says so.

* `Failure`: at most one place to fail, and how.
* `Plan`: a target by its plan.
* `Plan.target`: the target.
-/

namespace RdfExport
namespace Rehearsal

/-- What the sink of a target does besides logging records. -/
inductive Shape where
  /-- The end of the records is logged too. -/
  | log
  /-- Records are written as N-Quads. -/
  | nquads
  /-- The end of the records passes unseen. -/
  | plain
  deriving DecidableEq

/-- Where a target fails, and how. -/
inductive Failure where
  | opening (e : ExportError)
  | sink (e : ExportError)
  /-- At the `n`-th record, counted from one. -/
  | record (n : Nat) (e : ExportError)
  | finish (e : ExportError)
  | flush (e : IoError)
  | close (e : IoError)
  /-- The output has room for some octets only. Then it fails, or takes none. -/
  | room (size : Nat) (e : Option IoError)

structure Plan where
  shape : Shape
  /-- Whether closing is an action of its own; otherwise it is a flush. -/
  ownClose : Bool
  failure : Option Failure

namespace Plan

def openOutput (p : Plan) (w : World) : Outcome World :=
  match p.failure with
  | some (.opening e) => (.error e, w.note .opened)
  | _ => (.ok (), w.note .opened)

def openSink (p : Plan) (toggles : Toggles) (w : World) : Outcome World :=
  let w := w.note (.sinkMade (toggles.contains .noGsp))
  match p.failure with
  | some (.sink e) => (.error e, w)
  | _ => (.ok (), w)

def append (bytes : Bytes) (w : World) : World := { w with written := w.written ++ bytes }

def put (p : Plan) (bytes : Bytes) (w : World) : Except IoError Nat × World :=
  match p.failure with
  | some (.room size e) =>
    let taken := bytes.take (size - w.written.size)
    match taken, e with
    | [], some e => (.error e, w)
    | taken, _ => (.ok taken.length, append taken w)
  | _ => (.ok bytes.length, append bytes w)

def flush (p : Plan) (w : World) : IoOutcome World :=
  match p.failure with
  | some (.flush e) => (.error e, w.note .flushed)
  | _ => (.ok (), w.note .flushed)

def close (p : Plan) (w : World) : IoOutcome World :=
  if p.ownClose then
    match p.failure with
    | some (.close e) => (.error e, w.note .closed)
    | _ => (.ok (), w.note .closed)
  else p.flush w

def output (p : Plan) : Output World := ⟨p.put, p.flush⟩

/-- Logs a record and passes it on, or refuses it. -/
def accept (p : Plan) (record : Record) (w : World) : Outcome World :=
  let w := { w with offered := w.offered + 1 }
  let pass : Outcome World :=
    let w := w.note (.accepted record)
    match p.shape with
    | .nquads => p.output.writeRecord record w
    | _ => (.ok (), w)
  match p.failure with
  | some (.record n e) => if w.offered = n then (.error e, w.note .refused) else pass
  | _ => pass

/-- The end of the records. -/
def finish (p : Plan) (w : World) : Outcome World :=
  match p.shape with
  | .plain => (.ok (), w)
  | shape =>
    let w := w.note .finished
    match p.failure, shape with
    | some (.finish e), _ => (.error e, w)
    | _, .nquads => p.output.nquads.finish w
    | _, _ => (.ok (), w)

def target (p : Plan) : Target World where
  output := p.output
  openOutput := p.openOutput
  openSink := p.openSink
  sink := ⟨p.accept, p.finish⟩
  dropSink w := w.note .sinkDropped
  closeOutput := p.close

end Plan
end Rehearsal
end RdfExport
