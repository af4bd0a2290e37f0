import RdfExport.Http.Redirect
import RdfExport.Rehearsal.World

/-!
# RdfExport.Rehearsal.Server

A server that gives prepared replies, one for each request, as long as it has any.

* `Script`: one reply as it is prepared.
* `Server.exchange`: how a request is answered.
-/

namespace RdfExport
namespace Rehearsal

/-- An answer as it is prepared. The trailers are those that follow a whole body. -/
structure Script where
  status : Nat
  headers : Http.Fields
  body : Bytes
  /-- Whether the body breaks off at its end. -/
  aborted : Bool
  trailers : Http.Fields

namespace Script

/-- The size of the pieces in which a body arrives. -/
def pieceSize : Nat := 16 * 1024

/-- A body in pieces. -/
def pieces (bytes : Bytes) : List Bytes :=
  match bytes with
  | [] => []
  | b :: rest => (b :: rest.take (pieceSize - 1)) :: pieces (rest.drop (pieceSize - 1))
  termination_by bytes.length
  decreasing_by simp only [List.length_drop, List.length_cons]; omega

/-- Whether an answer of a status may have a body. -/
def hasBody (status : Nat) : Bool := status != 204 && status != 304

/-- What comes after the body. -/
def tail (s : Script) : List Http.Frame :=
  if s.aborted then
    [.broken (.caused "error decoding response body" (.custom "the connection was closed"))]
  else if s.trailers.isEmpty then []
  else [.trailers s.trailers]

def frames (s : Script) : List Http.Frame :=
  if hasBody s.status then (pieces s.body).map .data ++ s.tail else []

def response (s : Script) : Http.Response := ⟨s.status, s.headers, s.frames⟩

end Script

namespace Server

/-- How a request fails, with what was found by the connection behind it. -/
def failed (request : Http.Request) (how found : String) : IoError :=
  .caused s!"error sending request for url ({request.url.render})" (.caused how (.custom found))

/-- How a request fails whose connection is closed before an answer is there. -/
def hungUp (request : Http.Request) : IoError :=
  failed request "client error (SendRequest)" "connection closed before message completed"

/-- Logs a request and gives the next reply. -/
def receive : Http.Exchange World := fun agent request w =>
  let w := w.note (.requested agent request)
  match w.replies with
  | [] => (.error (hungUp request), w)
  | .drop :: rest => (.error (hungUp request), { w with replies := rest })
  | .answer response :: rest => (.ok response, { w with replies := rest })

/-- How requests are answered, redirects being followed. -/
def exchange : Http.Exchange World := Http.follow receive Http.redirectLimit

/-- How requests fare where no server can be reached. -/
def unreachable : Http.Exchange World := fun _ request w =>
  (.error (failed request "client error (Connect)" "tcp connect error"), w)

end Server
end Rehearsal
end RdfExport
