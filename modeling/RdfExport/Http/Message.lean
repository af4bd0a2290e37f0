import RdfExport.Error.Wording
import RdfExport.Net.Url
import RdfExport.Text.Base64

/-!
# RdfExport.Http.Message

Requests and responses. The body of a response arrives in frames: data, perhaps trailers, and
perhaps a break.

* `Request`, `Response`, `Frame`.
* `Exchange`: how requests are answered.
* `basicField`: the header field of a name and a password.
* `field?`: the first value of a header field.
-/

namespace RdfExport
namespace Http

inductive Method where
  | get
  | post
  deriving DecidableEq

def Method.name : Method → String
  | .get => "GET"
  | .post => "POST"

/-- A request. Names of header fields are in lowercase. -/
structure Request where
  method : Method
  url : Net.Url
  headers : List (String × String)
  body : String
  deriving DecidableEq

/-- The header field that tells a name and a password. -/
def basicField (credentials : String × Option String) : String × String :=
  let text := credentials.1 ++ ":" ++ credentials.2.getD ""
  ("authorization", "Basic " ++ String.ofList (Base64.encode (Utf8.ofString text)))

/-- Header or trailer fields in the order of arrival, whose values are any octets. -/
abbrev Fields := List (String × Bytes)

def lowercase (name : String) : List Char := name.toList.map Char.toLower

/-- The first value of a name, in any case. -/
def field? (fields : Fields) (name : String) : Option Bytes :=
  (fields.find? fun p => lowercase p.1 == lowercase name).map (·.2)

/-- A piece of a body as it arrives. After a break nothing else is read. -/
inductive Frame where
  | data (bytes : Bytes)
  | trailers (fields : Fields)
  | broken (error : IoError)
  deriving DecidableEq

structure Response where
  status : Nat
  headers : Fields
  frames : List Frame

def Response.isSuccess (r : Response) : Bool := 200 ≤ r.status && r.status < 300

/-- How requests of a user agent are answered: a response or a failure, and the state of the world
after it. It stands for all that is done for one request until its answer is there, perhaps many
messages on the wire: connecting, adding the fields that every message has, following redirects. -/
abbrev Exchange (ω : Type) := String → Request → ω → Except IoError Response × ω

end Http
end RdfExport
