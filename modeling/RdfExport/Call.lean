import RdfExport.Decoder.Graph
import RdfExport.Decoder.Tuple
import RdfExport.Endpoint
import RdfExport.Target
import RdfExport.Transfer

/-!
# RdfExport.Call

One call: open the output, make the sink, send one request, move its answer into the sink, drop
the sink, close the output. Whatever fails, the steps that were opened are undone, innermost first.

* `Environment`: what a call needs from its surroundings.
* `Endpoint.dispatch`: the request and the body of its answer.
* `Endpoint.perform`: the whole call on one endpoint.
-/

namespace RdfExport

/-- The surroundings of a call, on a state `ω` that all of them share. -/
structure Environment (ω : Type) where
  target : Target ω
  /-- Carries out a request over HTTP, for a user agent: all that is done until its answer is there,
  redirects included, and not one message on the wire. -/
  send : Http.Exchange ω
  /-- Signs a request for a region. -/
  sign : String → Http.Request → ω → Except ExportError Http.Request × ω
  /-- Draws a number below a bound. -/
  draw : Nat → ω → Nat × ω

/-- What a successful call reports. -/
structure Summary where
  endpoint : String
  kind : QueryKind
  records : Nat
  deriving DecidableEq

/-- What an action of a call leaves: its result, what is worth a notice, and the world. -/
structure Step (α ω : Type) where
  result : Except ExportError α
  notices : List Notice
  world : ω

/-- The same step after earlier notices. -/
def Step.after {α ω : Type} (notices : List Notice) (s : Step α ω) : Step α ω :=
  { s with notices := notices ++ s.notices }

namespace Endpoint

variable {ω : Type}

/-- The connection of an endpoint that failed. -/
def broken (e : Endpoint) (reason : IoError) : ExportError := .transport e.label reason

/-- The request as the signer leaves it, or as it is where requests are not signed. -/
def signed (env : Environment ω) (e : Endpoint) (request : Http.Request) (w : ω) :
    Except ExportError Http.Request × ω :=
  match e.signing with
  | none => (.ok request, w)
  | some region => env.sign region request w

/-- Sends a request. An answer that is no success is a failure with its own message. -/
def send (env : Environment ω) (e : Endpoint) (request : Http.Request) (w : ω) :
    Step Http.Body ω :=
  match env.send e.userAgent request w with
  | (.error reason, w) => ⟨.error (e.broken reason), [.requestDispatched], w⟩
  | (.ok response, w) =>
    if response.isSuccess then
      ⟨.ok (Http.Body.ofFrames e.label response.frames), [.requestDispatched], w⟩
    else
      let message := Diagnostic.ofRefusal (Http.refusalText response.frames)
      ⟨.error (.http e.label response.status message), [.requestDispatched], w⟩

/-- Builds, signs and sends the request for an operation. -/
def dispatch (env : Environment ω) (e : Endpoint) (op : Operation) (w : ω) : Step Http.Body ω :=
  match e.request op with
  | .error f => ⟨.error (e.broken (unbuilt f)), [], w⟩
  | .ok request =>
    match e.signed env request w with
    | (.error x, w) => ⟨.error x, [], w⟩
    | (.ok request, w) => e.send env request w

/-- Sends the request and moves its answer into the sink, which is dropped at the end. The result
is the number of records. -/
def fill {δ : Type} [Decoder δ] (env : Environment ω) (e : Endpoint) (op : Operation) (d : δ)
    (w : ω) : Step Nat ω :=
  let s := e.dispatch env op w
  match s.result with
  | .error x => ⟨.error x, s.notices, env.target.dropSink s.world⟩
  | .ok body =>
    let t := Transfer.run e.trailerDiagnostics env.target.sink body (d, s.world)
    ⟨t.result.map fun _ => Decoder.records t.decoder, s.notices ++ t.notices,
      env.target.dropSink t.sink⟩

/-- Makes the sink and fills it. -/
def deliver {δ : Type} [Decoder δ] (env : Environment ω) (e : Endpoint) (toggles : Toggles)
    (op : Operation) (d : δ) (w : ω) : Step Nat ω :=
  match env.target.openSink toggles w with
  | (.error x, w) => ⟨.error x, [], w⟩
  | (.ok (), w) => e.fill env op d w

/-- Closes the output after a delivery. -/
def settle (env : Environment ω) (e : Endpoint) (op : Operation) (s : Step Nat ω) :
    Step Summary ω :=
  match s.result with
  | .error x =>
    let closed := env.target.abandon s.world
    ⟨.error x, s.notices ++ .exportFailed :: closed.1, closed.2⟩
  | .ok records =>
    match env.target.close s.world with
    | (.error x, w) => ⟨.error x, s.notices, w⟩
    | (.ok (), w) => ⟨.ok ⟨e.label, op.kind, records⟩, s.notices ++ [.exportComplete], w⟩

/-- A whole call on an endpoint, decoding its answer from the state `d`. -/
def performWith {δ : Type} [Decoder δ] (env : Environment ω) (e : Endpoint) (toggles : Toggles)
    (op : Operation) (d : δ) (w : ω) : Step Summary ω :=
  match env.target.openOutput w with
  | (.error x, w) => ⟨.error x, [], w⟩
  | (.ok (), w) => e.settle env op (e.deliver env toggles op d w)

/-- How an endpoint's graphs are read. -/
def graphMode (e : Endpoint) : NTriples.Mode := if e.lenientIriParsing then .lenient else .strict

/-- A whole call on an endpoint. -/
def perform (env : Environment ω) (e : Endpoint) (toggles : Toggles) (op : Operation) (w : ω) :
    Step Summary ω :=
  match op.kind with
  | .tuple => e.performWith env toggles op TupleDecoder.initial w
  | .graph => e.performWith env toggles op (GraphDecoder.initial e.graphMode) w
  | .graphStore => e.performWith env toggles op (GraphDecoder.initial e.graphMode) w

end Endpoint
end RdfExport
