import RdfExport.Sink
import RdfExport.Text.Utf8

/-!
# RdfExport.Decoder

Incremental decoders: octets come in chunks, records go to a sink as soon as they are complete.

* `Decoder`: what every decoder does, for any sink.
-/

namespace RdfExport

/-- A decoder with state `δ`. An action returns the outcome and both states after it; the states
of a failed action are what the failure left. -/
class Decoder (δ : Type) where
  /-- Takes in one chunk. -/
  feed : {σ : Type} → Sink σ → Bytes → δ × σ → Outcome (δ × σ)
  /-- Takes in the end of the octets. -/
  close : {σ : Type} → Sink σ → δ × σ → Outcome (δ × σ)
  /-- How many records the sink has accepted. -/
  records : δ → Nat

end RdfExport
