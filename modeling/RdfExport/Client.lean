import RdfExport.Call
import RdfExport.Pool
import RdfExport.Rdf.Iri

/-!
# RdfExport.Client

A client for a cluster of endpoints, and its calls. Each call picks an endpoint of its own and
goes to no other.

* `Client.ofConfig`: a client with settings that were checked.
* `Client.exportAll`, `Client.exportGraph`, `Client.exportGraphStore`: exports of whole graphs,
  by tuple queries or by the Graph Store Protocol.
* `Client.run`: any operation, such as a query of the caller.
-/

namespace RdfExport

structure Client where
  pool : Pool
  toggles : Toggles

namespace Client

/-- The region that requests are signed for, given whether there is a signer; a signer that is
not needed is worth a notice. -/
def signingRegion (c : Config) (hasSigner : Bool) (environment : Option String) :
    Except ConfigFault (List Notice × Option String) :=
  match c.region environment, hasSigner with
  | .error f, _ => .error f
  | .ok (some region), true => .ok ([], some region)
  | .ok (some _), false => .error .noSigner
  | .ok none, true => .ok ([.signerIgnored], none)
  | .ok none, false => .ok ([], none)

/-- A client of endpoints that sign for a region. -/
def ofRegion (c : Config) (toggles : Toggles) (signing : Option String) :
    Except ConfigFault Client := do
  let endpoints ← c.endpoints.mapM (Endpoint.ofHost c signing)
  let pool ← Pool.ofList endpoints c.selection
  return ⟨pool, toggles⟩

/-- A client with the given settings, whether there is a signer, and the region in the process
environment. -/
def ofConfig (c : Config) (toggles : Toggles) (hasSigner : Bool) (environment : Option String) :
    List Notice × Except ConfigFault Client :=
  match c.validate with
  | .error f => ([], .error f)
  | .ok () =>
    match signingRegion c hasSigner environment with
    | .error f => ([], .error f)
    | .ok (notices, signing) =>
      match ofRegion c toggles signing with
      | .error f => (notices, .error f)
      | .ok client => (notices ++ [.clientReady], .ok client)

/-- The notices of closing a client. -/
def close (c : Client) : List Notice :=
  c.pool.endpoints.map (fun _ => .endpointClosed) ++ [.clientClosed]

variable {ω : Type}

/-- The endpoint for the next call, and the client and the world after it. -/
def choose (env : Environment ω) (c : Client) (w : ω) : Endpoint × Client × ω :=
  match c.pool.choose env.draw w with
  | (e, pool, w) => (e, { c with pool }, w)

/-- An operation on the next endpoint. -/
def run (env : Environment ω) (c : Client) (op : Operation) (w : ω) : Step Summary ω × Client :=
  match c.choose env w with
  | (e, c, w) => ((e.perform env c.toggles op w).after [.endpointChosen], c)

/-- A graph by the Graph Store Protocol. -/
def exportGraphStore (env : Environment ω) (c : Client) (selector : GraphSelector) (w : ω) :
    Step Summary ω × Client :=
  match c.run env (.graphStore selector) w with
  | (s, c) => (s.after [.graphStoreStarted], c)

/-- Whether exports use tuple queries. -/
def usesQueries (c : Client) : Bool := c.toggles.contains .noGsp

/-- All data. -/
def exportAll (env : Environment ω) (c : Client) (w : ω) : Step Summary ω × Client :=
  if c.usesQueries then c.run env (.tupleQuery completeExportQuery) w
  else c.exportGraphStore env .default w

/-- The graph of a name, which must be an absolute IRI. -/
def exportGraph (env : Environment ω) (c : Client) (graph : String) (w : ω) :
    Step Summary ω × Client :=
  if Rdf.isAbsoluteIri graph.toList then
    if c.usesQueries then c.run env (.tupleQuery (namedGraphQuery graph)) w
    else c.exportGraphStore env (.named graph) w
  else (⟨.error (.invalidGraphName graph "not an absolute IRI"), [], w⟩, c)

end Client
end RdfExport
