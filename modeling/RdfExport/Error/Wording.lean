import RdfExport.NTriples.Token
import RdfExport.Rdf.Bindings
import RdfExport.Rdf.Term.Printer
import RdfExport.Rdf.Term.Reader
import RdfExport.Text.Quoted

/-!
# RdfExport.Error.Wording

What can be wrong with a configuration and with a response, and how each fault is worded. Some
faults end in a reason that another part gives; `Wording` keeps it apart from the fixed text.

* `Wording`: a fixed text and perhaps a reason.
* `IoError`: why an output or a connection fails, and what that was caused by.
* `ConfigFault`: a wrong setting, with the key of the setting.
* `ProtocolFault`: a response that does not have its format.
-/

namespace RdfExport

open Rdf

structure Wording where
  text : String
  reason : Option String

/-- The whole text, the reason shown as `detail` says. -/
def Wording.render (detail : String → String) (w : Wording) : String :=
  match w.reason with
  | none => w.text
  | some r => w.text ++ detail r

/-- Why an output or a connection fails. What other parts report is known by its text and by what
it was caused by in turn, which the text need not say. -/
inductive IoError where
  | custom (message : String)
  | caused (message : String) (source : IoError)
  | writeZero
  | brokenPipe
  | unexpectedEnd
  | notWritten
  deriving DecidableEq

namespace IoError

def message : IoError → String
  | .custom message => message
  | .caused message _ => message
  | .writeZero => "write zero"
  | .brokenPipe => "broken pipe"
  | .unexpectedEnd => "unexpected end of file"
  | .notWritten => "failed to write whole buffer"

def source? : IoError → Option IoError
  | .caused _ source => some source
  | _ => none

/-- The texts of the causes, from the nearest to the first. -/
def chain : IoError → List String
  | .caused _ source => source.message :: source.chain
  | _ => []

end IoError

inductive ConfigFault where
  | unknownToggle (name : String)
  | noEndpoints
  | blankEndpoint (index : Nat)
  | zeroPort
  | badHost (host reason : String)
  | notBareHost (host : String)
  | relativeQueryPath (path : String)
  | noRegion
  | noSigner
  | badUserAgent (host : String)
  | emptyPool
  | other (message : String) (key : Option String)
  deriving DecidableEq

/-- The setting that a fault is about. -/
def ConfigFault.key : ConfigFault → Option String
  | .unknownToggle _ => some "feature_toggles"
  | .noEndpoints => some "endpoints"
  | .blankEndpoint _ => some "endpoints"
  | .zeroPort => some "port"
  | .badHost _ _ => some "endpoints"
  | .notBareHost _ => some "endpoints"
  | .relativeQueryPath _ => some "query_path"
  | .noRegion => some "SERVICE_REGION"
  | .noSigner => some "iam_auth"
  | .badUserAgent _ => some "endpoints"
  | .emptyPool => some "endpoints"
  | .other _ key => key

def ConfigFault.wording : ConfigFault → Wording
  | .unknownToggle name => ⟨s!"unknown feature toggle {Text.quoted name}", none⟩
  | .noEndpoints => ⟨"at least one endpoint must be configured", none⟩
  | .blankEndpoint index => ⟨s!"endpoint #{index} is blank", none⟩
  | .zeroPort => ⟨"port must be non-zero", none⟩
  | .badHost host reason => ⟨s!"invalid endpoint host {Text.quoted host}: ", some reason⟩
  | .notBareHost host =>
    ⟨s!"endpoint {Text.quoted host} must be a bare host name, not a URL", none⟩
  | .relativeQueryPath path => ⟨s!"query path {Text.quoted path} must start with '/'", none⟩
  | .noRegion =>
    ⟨"iam_auth is enabled but no region is configured; set service_region or SERVICE_REGION",
      none⟩
  | .noSigner => ⟨"iam_auth is enabled but no request signer was supplied", none⟩
  | .badUserAgent host =>
    ⟨s!"failed to build HTTP client for {host}: ", some "the user agent holds a control character"⟩
  | .emptyPool => ⟨"endpoint pool needs at least one endpoint", none⟩
  | .other message _ => ⟨message, none⟩

inductive ProtocolFault where
  | notUtf8 (line : Nat) (fault : Utf8.Fault)
  | emptyHeader
  | badVariable (name : String)
  | fieldCount (line fields columns : Nat)
  | badValue (line : Nat) (field : String) (v : Variable) (fault : TermFault)
  | missingHeader
  | notNTriples (fault : NTriples.Fault)
  | notAStatement (row : Bindings)
  | other (message : String)
  deriving DecidableEq

/-- A row as pairs of a variable and its term. -/
def showRow (row : Bindings) : String :=
  String.intercalate ", " (row.values.map fun p => s!"?{p.1.name} = {p.2.render}")

def ProtocolFault.wording : ProtocolFault → Wording
  | .notUtf8 line fault => ⟨s!"line {line} is not UTF-8: {fault.message}", none⟩
  | .emptyHeader => ⟨"tuple result has an empty header", none⟩
  | .badVariable name =>
    ⟨s!"invalid variable {Text.quoted name} in tuple header: ", some "no variable has this name"⟩
  | .fieldCount line fields columns =>
    ⟨s!"line {line} has {fields} fields, header declared {columns} variables", none⟩
  | .badValue line field v fault =>
    ⟨s!"line {line}: invalid value {Text.quoted field} for ?{v.name}: ", some fault.message⟩
  | .missingHeader => ⟨"tuple result ended before the header line", none⟩
  | .notNTriples fault => ⟨"invalid N-Triples: ", some fault.message⟩
  | .notAStatement row =>
    ⟨"row does not describe a statement (expected ?s ?p ?o [?g]): ", some (showRow row)⟩
  | .other message => ⟨message, none⟩

end RdfExport
