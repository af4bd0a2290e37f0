import RdfExport.Error
import RdfExport.Http.Message
import RdfExport.Notice

/-!
# RdfExport.Http.Body

Reading a response's body frame by frame, keeping the trailers for whoever asks for them.

* `Body.next`: the next chunk, the end, or the failure that ends the body.
* `Body.drain`: reads on for the trailers only, up to a limit.
* `refusalText`: the body of a refusal, up to a limit.
-/

namespace RdfExport
namespace Http

/-- A body while it is read: the frames to come, the last trailers so far, and whether its end or
its failure was reported. -/
structure Body where
  endpoint : String
  frames : List Frame
  trailers : Option Fields
  finished : Bool
  deriving DecidableEq

/-- What reading a body yields. -/
inductive Piece where
  | chunk (bytes : Bytes)
  | ended
  | failed (e : ExportError)
  deriving DecidableEq

namespace Body

def ofFrames (endpoint : String) (frames : List Frame) : Body := ⟨endpoint, frames, none, false⟩

/-- Reads frames up to the next that is worth reporting. -/
def advance (endpoint : String) : Option Fields → List Frame → Piece × Body
  | trailers, [] => (.ended, ⟨endpoint, [], trailers, true⟩)
  | trailers, .data [] :: rest => advance endpoint trailers rest
  | trailers, .data (b :: bytes) :: rest => (.chunk (b :: bytes), ⟨endpoint, rest, trailers, false⟩)
  | _, .trailers fields :: rest => advance endpoint (some fields) rest
  | trailers, .broken e :: rest =>
    (.failed (.transport endpoint e), ⟨endpoint, rest, trailers, true⟩)

/-- The next chunk. After the end or a failure there is nothing more to read. -/
def next (b : Body) : Piece × Body :=
  if b.finished then (.ended, b) else advance b.endpoint b.trailers b.frames

theorem advance_frames_length {endpoint : String} {trailers : Option Fields} {frames : List Frame}
    {bytes : Bytes} {b : Body} (h : advance endpoint trailers frames = (.chunk bytes, b)) :
    b.frames.length < frames.length := by
  fun_induction advance endpoint trailers frames with
  | case1 => cases h
  | case2 _ _ ih => exact Nat.lt_succ_of_lt (ih h)
  | case3 => cases h; exact Nat.lt_succ_self _
  | case4 _ _ _ ih => exact Nat.lt_succ_of_lt (ih h)
  | case5 => cases h

theorem next_frames_length {b b' : Body} {bytes : Bytes} (h : b.next = (.chunk bytes, b')) :
    b'.frames.length < b.frames.length := by
  unfold next at h
  split at h
  · cases h
  · exact advance_frames_length h

/-- Reads and discards the rest of a body. It gives up once more than `limit` octets are
discarded, of which `discarded` were before. A failure is not reported: there is one already. -/
def drainFrom (limit discarded : Nat) (b : Body) : List Notice × Body :=
  if limit < discarded then ([.drainAbandoned], b)
  else
    match _h : b.next with
    | (.chunk bytes, b) => drainFrom limit (discarded + bytes.length) b
    | (.ended, b) => ([], b)
    | (.failed _, b) => ([], b)
  termination_by b.frames.length
  decreasing_by exact next_frames_length _h

/-- How many octets are discarded at most before looking for trailers is given up. -/
def drainLimit : Nat := 8 * 1024 * 1024

def drain (b : Body) : List Notice × Body := drainFrom drainLimit 0 b

end Body

/-- How many octets of the body of a refused request are read. -/
def refusalLimit : Nat := 64 * 1024

/-- Reads data after `held` up to the end or a break, as long as fewer than `limit` octets are
held: what is held then, and the frames that were not read. -/
def collect (limit : Nat) (held : Bytes) : List Frame → Bytes × List Frame
  | [] => (held, [])
  | frame :: rest =>
    if limit ≤ held.length then (held, frame :: rest)
    else
      match frame with
      | .data bytes => collect limit (held ++ bytes) rest
      | .trailers _ => collect limit held rest
      | .broken _ => (held, rest)

/-- The text that a refused request is answered with. -/
def refusalText (frames : List Frame) : String :=
  let held := (collect refusalLimit [] frames).1
  String.ofList (Utf8.decodeLossy (held.take refusalLimit))

end Http
end RdfExport
