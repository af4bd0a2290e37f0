import RdfExport.Http.Message
import RdfExport.Net.Url.Reader

/-!
# RdfExport.Http.Redirect

Following redirects: an answer may send the request elsewhere, up to a number of times.

* `redirected?`: the request that an answer asks for instead.
* `follow`: an exchange that follows redirects.
-/

namespace RdfExport
namespace Http

/-- Whether a redirect repeats the request as it is, or asks for the result by GET. -/
inductive Repetition where
  | same
  | fetch

def repetition? (status : Nat) : Option Repetition :=
  if status = 301 ∨ status = 302 ∨ status = 303 then some .fetch
  else if status = 307 ∨ status = 308 then some .same
  else none

/-- Whether a header field is about the body. -/
def isBodyField (name : String) : Bool :=
  ["content-type", "content-length", "content-encoding", "transfer-encoding"].contains name

/-- Whether a header field holds a secret that is shared with one host. -/
def isSecretField (name : String) : Bool :=
  ["authorization", "cookie", "cookie2", "proxy-authorization", "www-authenticate"].contains name

/-- The header fields for another place. Secrets are told to the same host and port only. -/
def Request.headersFor (r : Request) (url : Net.Url) : List (String × String) :=
  if url.authority.host = r.url.authority.host ∧ url.effectivePort = r.url.effectivePort then
    r.headers
  else r.headers.filter fun h => !isSecretField h.1

/-- The request at another place. -/
def Request.moved (r : Request) (url : Net.Url) : Repetition → Request
  | .same => { r with url, headers := r.headersFor url }
  | .fetch => ⟨.get, url, (r.headersFor url).filter fun h => !isBodyField h.1, ""⟩

/-- The request that an answer asks for instead of the one that was sent. -/
def redirected? (sent : Request) (response : Response) : Option Request :=
  match repetition? response.status, (field? response.headers "location").bind Utf8.toString? with
  | some how, some location =>
    match sent.url.join location with
    | .ok url => some (sent.moved url how)
    | .error _ => none
  | _, _ => none

/-- The exchange that follows up to `limit` redirects, and fails at one more. -/
def follow {ω : Type} (exchange : Exchange ω) : Nat → Exchange ω
  | limit, agent, request, w =>
    match exchange agent request w with
    | (.error e, w) => (.error e, w)
    | (.ok response, w) =>
      match redirected? request response, limit with
      | none, _ => (.ok response, w)
      | some _, 0 =>
        let text := s!"error following redirect for url ({request.url.render})"
        (.error (.caused text (.custom "too many redirects")), w)
      | some next, limit + 1 => follow exchange limit agent next w

/-- How many redirects are followed. -/
def redirectLimit : Nat := 10

end Http
end RdfExport
