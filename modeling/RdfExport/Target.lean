import RdfExport.Notice
import RdfExport.Output
import RdfExport.Toggle

/-!
# RdfExport.Target

Where one export goes. A target opens an output, makes a sink that writes to it, and closes the
output when the sink is gone.

* `Target`: the actions, on a state `ω` that all of them share.
* `Target.abandon`: closes the output after a failure.
-/

namespace RdfExport

structure Target (ω : Type) where
  /-- The octets' destination, once it is open. -/
  output : Output ω
  openOutput : ω → Outcome ω
  /-- Makes the sink for the records, told which toggles are on. -/
  openSink : Toggles → ω → Outcome ω
  /-- The sink, once it is made. -/
  sink : Sink ω
  dropSink : ω → ω
  /-- Releases the output. -/
  closeOutput : ω → IoOutcome ω

namespace Target

variable {ω : Type}

/-- Closes the output after success. -/
def close (t : Target ω) (w : ω) : Outcome ω := IoOutcome.reported (t.closeOutput w)

/-- Closes the output after a failure. There is an error to report already, so a second one is
only worth a notice. -/
def abandon (t : Target ω) (w : ω) : List Notice × ω :=
  match t.closeOutput w with
  | (.ok (), w) => ([], w)
  | (.error _, w) => ([.closeFailed], w)

end Target
end RdfExport
