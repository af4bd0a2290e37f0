import RdfExport.Error
import RdfExport.Net.Url.Reader
import RdfExport.Strategy
import RdfExport.Text.Blank

/-!
# RdfExport.Config

The settings of a client: a cluster of endpoints that hold the same data, and how to talk to them.

* `Config.validate`: whether the settings make sense, without touching the network.
* `Config.endpointUrl`, `Config.endpointLabel`: the addresses of an endpoint.
* `Config.region`: the region that requests are signed for.
-/

namespace RdfExport

/-- The settings. The time to wait for a connection is in seconds. -/
structure Config where
  endpoints : List String
  port : UInt16 := 8182
  tls : Bool := true
  iamAuth : Bool := false
  serviceRegion : Option String := none
  queryPath : String := "/sparql"
  trailerDiagnostics : Bool := true
  selection : Strategy := .random
  connectTimeout : UInt64 := 30
  lenientIriParsing : Bool := true
  userAgent : String := "sparql-export/0.1.0"
  deriving DecidableEq

namespace Config

def scheme (c : Config) : Net.Scheme := if c.tls then .https else .http

/-- The base of an endpoint's URLs, as text. -/
def endpointUrl (c : Config) (host : String) : String :=
  s!"{c.scheme.name}://{Text.trimmed host}:{c.port.toNat}"

/-- The address of an endpoint for people, as text. -/
def endpointLabel (c : Config) (host : String) : String :=
  s!"{Text.trimmed host}:{c.port.toNat}"

/-- A host must make up a URL that has no path. -/
def checkHost (c : Config) (host : String) : Except ConfigFault Unit :=
  match Net.Url.parse (c.endpointUrl host) with
  | .error f => .error (.badHost host f.message)
  | .ok url => if url.path = [[]] then .ok () else .error (.notBareHost host)

/-- The first fault of hosts, if there is one. -/
def checkHosts (c : Config) : List String → Except ConfigFault Unit
  | [] => .ok ()
  | host :: rest =>
    match c.checkHost host with
    | .ok () => c.checkHosts rest
    | failed => failed

/-- The query path must start with a slash. -/
def checkQueryPath (c : Config) : Except ConfigFault Unit :=
  if c.queryPath.toList.head? = some '/' then .ok () else .error (.relativeQueryPath c.queryPath)

def isBlankHost (host : String) : Bool := (Text.nonBlank? host).isNone

/-- The first fault of the settings, if there is one: no endpoint, a blank endpoint, no port, a
host that makes up no URL, a relative query path. -/
def validate (c : Config) : Except ConfigFault Unit :=
  if c.endpoints.isEmpty then .error .noEndpoints
  else
    match c.endpoints.findIdx? isBlankHost with
    | some index => .error (.blankEndpoint index)
    | none =>
      if c.port = 0 then .error .zeroPort
      else
        match c.checkHosts c.endpoints with
        | .ok () => c.checkQueryPath
        | failed => failed

/-- The region that requests are signed for, if they are signed: that of the settings, or else
that of the environment. -/
def region (c : Config) (environment : Option String) : Except ConfigFault (Option String) :=
  if !c.iamAuth then .ok none
  else
    match c.serviceRegion.bind Text.nonBlank?, environment.bind Text.nonBlank? with
    | some r, _ => .ok (some r)
    | none, some r => .ok (some r)
    | none, none => .error .noRegion

end Config
end RdfExport
