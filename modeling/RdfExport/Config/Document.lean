import RdfExport.Config
import RdfExport.Json.Reader
import RdfExport.Json.Writer

/-!
# RdfExport.Config.Document

Settings as a JSON document.

* `Config.keys`: the names of the settings.
* `Config.ofJson?`, `Config.toJson`: from and to a document.
* `Config.ofString?`, `Config.render`: from and to a text.
-/

namespace RdfExport
namespace Config

/-- The settings in the order in which documents list them. -/
def keys : List String :=
  ["endpoints", "port", "tls", "iam_auth", "service_region", "query_path", "trailer_diagnostics",
    "selection", "connect_timeout", "lenient_iri_parsing", "user_agent"]

/-- The hosts in an array. -/
def hosts? (j : Json) : Option (List String) := j.array?.bind (·.mapM Json.text?)

/-- A number in the range of a port. -/
def port? (j : Json) : Option UInt16 := (j.nat? UInt16.size).map UInt16.ofNat

def seconds? (j : Json) : Option UInt64 := (j.nat? UInt64.size).map UInt64.ofNat

/-- What a reader makes of the setting of a name in a document: an object, or an array of the
settings in order. -/
def setting? {α : Type} (j : Json) (name : String) (missing : Option α) (read : Json → Option α) :
    Option α :=
  j.entry? (keys.idxOf name) name missing read

/-- Whether a document can hold settings and nothing that is in the way. -/
def isDocument (j : Json) : Bool :=
  j.isRecord && j.array?.all fun items => items.length ≤ keys.length

/-- The settings in a document: an object, where other members do not matter, or an array of the
settings in order. All but the endpoints may be left out. -/
def ofJson? (j : Json) : Option Config := do
  let endpoints ← if isDocument j then setting? j "endpoints" none hosts? else none
  let base : Config := { endpoints }
  let port ← setting? j "port" (some base.port) port?
  let tls ← setting? j "tls" (some base.tls) Json.bool?
  let iamAuth ← setting? j "iam_auth" (some base.iamAuth) Json.bool?
  let serviceRegion ← setting? j "service_region" (some base.serviceRegion) Json.optionalText?
  let queryPath ← setting? j "query_path" (some base.queryPath) Json.text?
  let trailerDiagnostics ←
    setting? j "trailer_diagnostics" (some base.trailerDiagnostics) Json.bool?
  let selection ← setting? j "selection" (some base.selection) Strategy.ofJson?
  let connectTimeout ← setting? j "connect_timeout" (some base.connectTimeout) seconds?
  let lenientIriParsing ←
    setting? j "lenient_iri_parsing" (some base.lenientIriParsing) Json.bool?
  let userAgent ← setting? j "user_agent" (some base.userAgent) Json.text?
  some {
    endpoints, port, tls, iamAuth, serviceRegion, queryPath, trailerDiagnostics, selection,
    connectTimeout, lenientIriParsing, userAgent }

/-- The values of the settings, in the order of `keys`. -/
def values (c : Config) : List Json :=
  [.array (c.endpoints.map .str), .nat c.port.toNat, .bool c.tls, .bool c.iamAuth,
    (c.serviceRegion.map .str).getD .null, .str c.queryPath, .bool c.trailerDiagnostics,
    c.selection.toJson, .nat c.connectTimeout.toNat, .bool c.lenientIriParsing, .str c.userAgent]

/-- The document of settings: an object with all of them. -/
def toJson (c : Config) : Json := .object ((keys.map some).zip c.values)

/-- The settings in a text that is a document. -/
def ofString? (s : String) : Option Config := (Json.ofString? s).bind ofJson?

/-- The text of settings. -/
def render (c : Config) : String := c.toJson.render

end Config
end RdfExport
