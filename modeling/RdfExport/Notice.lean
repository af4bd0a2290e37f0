/-!
# RdfExport.Notice

What a client reports about its work while it works. Notices never decide anything.

* `Notice`: the events worth a line in a log.
* `Notice.line`: the line.
-/

namespace RdfExport

inductive Level where
  | debug
  | info
  | warn
  deriving DecidableEq

def Level.name : Level → String
  | .debug => "DEBUG"
  | .info => "INFO"
  | .warn => "WARN"

inductive Notice where
  | signerIgnored
  | clientReady
  | endpointChosen
  | graphStoreStarted
  | requestDispatched
  | drainAbandoned
  | noDiagnostic
  | diagnosticRecovered
  | exportFailed
  | closeFailed
  | exportComplete
  | endpointClosed
  | clientClosed
  deriving DecidableEq

namespace Notice

def level : Notice → Level
  | .signerIgnored => .warn
  | .clientReady => .info
  | .endpointChosen => .debug
  | .graphStoreStarted => .debug
  | .requestDispatched => .debug
  | .drainAbandoned => .debug
  | .noDiagnostic => .debug
  | .diagnosticRecovered => .warn
  | .exportFailed => .debug
  | .closeFailed => .warn
  | .exportComplete => .info
  | .endpointClosed => .debug
  | .clientClosed => .info

def message : Notice → String
  | .signerIgnored => "Request signer supplied but iam_auth is disabled; ignoring it"
  | .clientReady => "SPARQL export client ready"
  | .endpointChosen => "Chose endpoint"
  | .graphStoreStarted => "Starting Graph Store Protocol export"
  | .requestDispatched => "Dispatching request"
  | .drainAbandoned => "Gave up draining response body while looking for trailers"
  | .noDiagnostic => "No trailer diagnostic available for failed response"
  | .diagnosticRecovered => "Recovered server diagnostic from response trailers"
  | .exportFailed => "Export failed"
  | .closeFailed => "Failed to close output while unwinding"
  | .exportComplete => "Export complete"
  | .endpointClosed => "Closing endpoint"
  | .clientClosed => "SPARQL export client closed"

def line (n : Notice) : String := n.level.name ++ " " ++ n.message

end Notice
end RdfExport
