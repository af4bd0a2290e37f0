import RdfExport.Error.Wording

/-!
# RdfExport.Error

The failures of an export. A failure that happened while a response was read may carry what the
server said about it. The text of a failure says what it was caused by directly; what an output or a
connection was caused by in turn is in the chain of its causes only.

* `ExportError`: the failures.
* `ErrorKind`: their classes, for callers that branch on them.
* `ExportError.message`: the text of a failure; `ExportError.text` shows reasons another way.
* `ExportError.source?`, `ExportError.chain`: what a failure was caused by.
-/

namespace RdfExport

inductive ExportError where
  | config (fault : ConfigFault)
  | invalidGraphName (name reason : String)
  | transport (endpoint : String) (source : IoError)
  | http (endpoint : String) (status : Nat) (message : String)
  | protocol (fault : ProtocolFault)
  | serverReported (diagnostic : String) (source : ExportError)
  | output (error : IoError)
  deriving DecidableEq

inductive ErrorKind where
  | configuration
  | invalidInput
  | transport
  | protocol
  | serverReported
  | sink
  deriving DecidableEq

def ErrorKind.name : ErrorKind → String
  | .configuration => "Configuration"
  | .invalidInput => "InvalidInput"
  | .transport => "Transport"
  | .protocol => "Protocol"
  | .serverReported => "ServerReported"
  | .sink => "Sink"

namespace ExportError

def kind : ExportError → ErrorKind
  | .config _ => .configuration
  | .invalidGraphName _ _ => .invalidInput
  | .transport _ _ => .transport
  | .http _ _ _ => .transport
  | .protocol _ => .protocol
  | .serverReported _ _ => .serverReported
  | .output _ => .sink

/-- A fixed name for programs. -/
def code : ExportError → String
  | .config _ => "config_error"
  | .invalidGraphName _ _ => "invalid_graph_name"
  | .transport _ _ => "transport_error"
  | .http _ _ _ => "http_error"
  | .protocol _ => "protocol_error"
  | .serverReported _ _ => "server_reported_error"
  | .output _ => "output_error"

/-- The text of a failure, its reasons shown as `detail` says. -/
def text (detail : String → String) : ExportError → String
  | .config fault => "configuration error: " ++ fault.wording.render detail
  | .invalidGraphName name reason => s!"invalid graph name {Text.quoted name}: " ++ detail reason
  | .transport endpoint source => s!"transport error on {endpoint}: " ++ detail source.message
  | .http endpoint status message => s!"HTTP {status} from {endpoint}: {message}"
  | .protocol fault => "protocol error: " ++ fault.wording.render detail
  | .serverReported diagnostic source =>
    s!"server reported error: {diagnostic} (" ++ source.text detail ++ ")"
  | .output error => "output error: " ++ error.message

/-- The whole text of a failure. -/
def message (e : ExportError) : String := e.text id

/-- What the server said about a failure. -/
def diagnostic? : ExportError → Option String
  | .serverReported diagnostic _ => some diagnostic
  | _ => none

/-- What a failure was caused by: another failure, or an output or connection that failed. -/
def source? : ExportError → Option (ExportError ⊕ IoError)
  | .transport _ source => some (.inr source)
  | .serverReported _ source => some (.inl source)
  | .output error => some (.inr error)
  | _ => none

/-- The texts of the causes, from the nearest to the first. -/
def chain : ExportError → List String
  | .transport _ source => source.message :: source.chain
  | .serverReported _ source => source.message :: source.chain
  | .output error => error.message :: error.chain
  | _ => []

end ExportError
end RdfExport
