import RdfExport.Config
import RdfExport.Http.Message
import RdfExport.Query

/-!
# RdfExport.Endpoint

One endpoint of a cluster, and the requests that it is sent.

* `Endpoint.ofHost`: the endpoint of a host under the settings of a client.
* `Operation`: what a call asks for.
* `Endpoint.request`: the request for an operation, before it is signed.
-/

namespace RdfExport

/-- An endpoint. Where requests are signed, `signing` is the region. -/
structure Endpoint where
  label : String
  baseUrl : String
  queryUrl : String
  signing : Option String
  trailerDiagnostics : Bool
  lenientIriParsing : Bool
  userAgent : String
  deriving DecidableEq

/-- What a call asks an endpoint for. -/
inductive Operation where
  | tupleQuery (text : String)
  | graphQuery (text : String)
  | graphStore (selector : GraphSelector)
  deriving DecidableEq

def Operation.kind : Operation → QueryKind
  | .tupleQuery _ => .tuple
  | .graphQuery _ => .graph
  | .graphStore _ => .graphStore

namespace Endpoint

/-- Whether a character may stand in a header field. -/
def isFieldChar (c : Char) : Bool := (0x20 ≤ c.toNat && c.toNat ≠ 0x7F) || c = '\t'

/-- The endpoint of a host. -/
def ofHost (c : Config) (signing : Option String) (host : String) : Except ConfigFault Endpoint :=
  if c.userAgent.toList.all isFieldChar then
    .ok {
      label := c.endpointLabel host
      baseUrl := c.endpointUrl host
      queryUrl := c.endpointUrl host ++ c.queryPath
      signing
      trailerDiagnostics := c.trailerDiagnostics
      lenientIriParsing := c.lenientIriParsing
      userAgent := c.userAgent }
  else .error (.badUserAgent host)

/-- The path of the Graph Store Protocol. -/
def graphStorePath : String := "/sparql/gsp/"

def graphStoreUrl (e : Endpoint) (selector : GraphSelector) : String :=
  e.baseUrl ++ graphStorePath ++ "?" ++ selector.queryString

/-- The header field of a form. -/
def formField : String × String := ("content-type", "application/x-www-form-urlencoded")

/-- The form that holds a query. -/
def form (query : String) : String := "query=" ++ Percent.formEncode query

/-- The method, the URL, the body and the body's header fields for an operation. -/
def parts (e : Endpoint) : Operation → Http.Method × String × String × List (String × String)
  | .tupleQuery text => (.post, e.queryUrl, form text, [formField])
  | .graphQuery text => (.post, e.queryUrl, form text, [formField])
  | .graphStore selector => (.get, e.graphStoreUrl selector, "", [])

/-- Why no request can be built for a URL. -/
def unbuilt (f : Net.UrlFault) : IoError := .caused "builder error" (.custom f.message)

/-- The request for an operation, before it is signed. It asks for trailers if failures are to be
looked up there. Credentials in the URL go into a header field. -/
def request (e : Endpoint) (op : Operation) : Except Net.UrlFault Http.Request :=
  match e.parts op with
  | (method, url, body, fields) =>
    match Net.Url.parse url with
    | .error f => .error f
    | .ok url =>
      let who := (url.authority.user.credentials?.map Http.basicField).toList
      let te := if e.trailerDiagnostics then [("te", "trailers")] else []
      .ok ⟨method, url.withoutUser, who ++ ("accept", op.kind.accept) :: fields ++ te, body⟩

end Endpoint
end RdfExport
