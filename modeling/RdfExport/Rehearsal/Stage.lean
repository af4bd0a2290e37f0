import RdfExport.Client
import RdfExport.Rehearsal.Server
import RdfExport.Rehearsal.Target

/-!
# RdfExport.Rehearsal.Stage

The surroundings of a rehearsed call: a planned target, a server that has its replies ready, and a
signer.

* `Signer.sign`: how requests are signed.
* `stage`: the surroundings.
-/

namespace RdfExport
namespace Rehearsal

/-- A signer. It fails if it was given a failure. -/
structure Signer where
  failure : Option ExportError

/-- Signs by a header field that holds the region, or fails. -/
def Signer.sign (s : Signer) (region : String) (request : Http.Request) (w : World) :
    Except ExportError Http.Request × World :=
  match s.failure with
  | some x => (.error x, w)
  | none => (.ok { request with headers := request.headers ++ [("x-signed-for", region)] }, w)

/-- The surroundings of a call. Where chance decides, the first endpoint is chosen. -/
def stage (plan : Plan) (signer : Signer) : Environment World where
  target := plan.target
  send := Server.exchange
  sign := signer.sign
  draw _ w := (0, w)

end Rehearsal
end RdfExport
