import RdfExport.Decoder
import RdfExport.Diagnostic

/-!
# RdfExport.Transfer

Moving a response's body through a decoder into a sink. When that fails, the rest of the body may
still tell why: the server's own words come in the trailers.

* `Transfer.stream`: chunk by chunk, then the decoder's end, then the sink's.
* `Transfer.run`: the same, with the server's words added to a failure.
-/

namespace RdfExport

/-- What a transfer leaves: how it went, what is worth a notice, and all states after it. -/
structure Transfer (δ σ : Type) where
  result : Except ExportError Unit
  notices : List Notice
  body : Http.Body
  decoder : δ
  sink : σ

namespace Transfer

open Http

variable {δ σ : Type} [Decoder δ]

/-- The end of all chunks: the decoder's end, then the sink's. -/
def finish (sink : Sink σ) (s : δ × σ) : Outcome (δ × σ) :=
  match Decoder.close sink s with
  | (.ok (), d, w) =>
    match sink.finish w with
    | (r, w) => (r, d, w)
  | failed => failed

/-- Moves all chunks, up to the first failure, and then the end. -/
def stream (sink : Sink σ) (b : Body) (s : δ × σ) : Except ExportError Unit × Body × δ × σ :=
  match _h : b.next with
  | (.failed e, b) => (.error e, b, s)
  | (.ended, b) =>
    match finish sink s with
    | (r, s) => (r, b, s)
  | (.chunk bytes, b) =>
    match Decoder.feed sink bytes s with
    | (.ok (), s) => stream sink b s
    | (.error e, s) => (.error e, b, s)
  termination_by b.frames.length
  decreasing_by exact Body.next_frames_length _h

/-- Adds the server's words to a failure. A failure of the output is none of the server's. -/
def explain (recover : Bool) (e : ExportError) (b : Body) :
    List Notice × ExportError × Body :=
  if !recover || e.kind = .sink then ([], e, b)
  else
    let drained := b.drain
    let diagnostic := Diagnostic.ofBody? drained.2
    let missing := if diagnostic.isNone then [Notice.noDiagnostic] else []
    let explained := e.withDiagnostic diagnostic
    (drained.1 ++ missing ++ explained.1, explained.2, drained.2)

/-- Moves a body through a decoder into a sink, in the states `s`. -/
def run (recover : Bool) (sink : Sink σ) (b : Body) (s : δ × σ) : Transfer δ σ :=
  match stream sink b s with
  | (.ok (), b, d, w) => ⟨.ok (), [], b, d, w⟩
  | (.error e, b, d, w) =>
    match explain recover e b with
    | (notices, e, b) => ⟨.error e, notices, b, d, w⟩

end Transfer
end RdfExport
