import RdfExport.Http.Body
import RdfExport.Json.Reader
import RdfExport.Text.Blank

/-!
# RdfExport.Diagnostic

What a server says about a failure: in the trailers of a response that began well, or in the body
of a refusal.

* `Diagnostic.ofTrailers?`: the text of the trailers, if they report a failure.
* `ExportError.withDiagnostic`: a failure together with what the server said.
* `Diagnostic.ofRefusal`: the text of a refusal.
-/

namespace RdfExport
namespace Diagnostic

def statusTrailer : String := "x-neptune-status"

def detailTrailer : String := "x-neptune-detail"

/-- The text of a trailer, without the white space around it. A blank one counts as absent. -/
def read? (fields : Http.Fields) (name : String) : Option String :=
  (Http.field? fields name).bind fun value =>
    Text.nonBlank? (String.ofList (Utf8.decodeLossy value))

/-- Whether a status reports success. -/
def isSuccess (status : String) : Bool :=
  status == "200" || Http.lowercase status == Http.lowercase "ok"

/-- The text of trailers: the status, the detail, or both. A status of success alone is none. -/
def ofTrailers? (fields : Http.Fields) : Option String :=
  match read? fields statusTrailer, read? fields detailTrailer with
  | some status, some detail => some (status ++ ": " ++ detail)
  | some status, none => if isSuccess status then none else some status
  | none, some detail => some detail
  | none, none => none

/-- The text of the trailers that were read with a body. -/
def ofBody? (b : Http.Body) : Option String := b.trailers.bind ofTrailers?

/-- An entry of a refusal's document: text, `null`, or nothing. -/
def entry? (document : Json) (index : Nat) (name : String) : Option (Option String) :=
  document.entry? index name (some none) Json.optionalText?

/-- The code and the message of a refusal's document. -/
def ofDocument? (document : Json) : Option (Option String × Option String) :=
  if document.isRecord && (document.array?.all fun items => items.length == 2) then
    match entry? document 0 "code", entry? document 1 "detailedMessage" with
    | some code, some detail => some (code, detail)
    | _, _ => none
  else none

/-- The message of a refusal: from its document if it is one, otherwise the text itself. -/
def ofRefusal (text : String) : String :=
  match (Json.ofString? text).bind ofDocument? with
  | some (some code, some detail) => code ++ ": " ++ detail
  | some (none, some detail) => detail
  | some (some code, none) => code
  | _ => Text.trimmed text

end Diagnostic

/-- A failure together with what the server said about it, and the notice of that. -/
def ExportError.withDiagnostic (e : ExportError) : Option String → List Notice × ExportError
  | none => ([], e)
  | some diagnostic => ([.diagnosticRecovered], .serverReported diagnostic e)

end RdfExport
