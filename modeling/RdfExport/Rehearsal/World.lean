import RdfExport.Http.Message
import RdfExport.Sink

/-!
# RdfExport.Rehearsal.World

The stage on which exports are rehearsed: no file is written and no connection made, but all that
an export does to its target and its server is put down in one log.

* `Entry`: what the log holds.
* `World`: the log, the octets written, and what the server still has to say.
-/

namespace RdfExport
namespace Rehearsal

inductive Entry where
  | opened
  | sinkMade (noGsp : Bool)
  | requested (agent : String) (request : Http.Request)
  | accepted (record : Record)
  | refused
  | finished
  | flushed
  | sinkDropped
  | closed
  deriving DecidableEq

/-- What a server does with one request: it answers, or drops the connection. -/
inductive Reply where
  | answer (response : Http.Response)
  | drop

structure World where
  log : Array Entry
  written : Array UInt8
  /-- How many records the sink was offered. -/
  offered : Nat
  replies : List Reply

namespace World

/-- A new stage for a server that has these replies. -/
def start (replies : List Reply) : World := ⟨#[], #[], 0, replies⟩

def note (entry : Entry) (w : World) : World := { w with log := w.log.push entry }

end World
end Rehearsal
end RdfExport
