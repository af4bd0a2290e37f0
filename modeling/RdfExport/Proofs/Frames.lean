import RdfExport.Http.Body

/-!
# RdfExport.Proofs.Frames

A body frame by frame. Reading meets the frames in order: it passes over empty data, keeps trailers
and stops at the first chunk, the first break or the end.

* `lastTrailers`, `dataSize`: what matters of frames that were read.
* `DrainedOf`: which frames draining reads, and `drainFrom_spec`: that it reads these.
-/

namespace RdfExport
namespace Http

def Frame.isBreak : Frame → Bool
  | .broken _ => true
  | _ => false

def Frame.octets : Frame → Bytes
  | .data bytes => bytes
  | _ => []

def dataSize : List Frame → Nat
  | [] => 0
  | frame :: rest => frame.octets.length + dataSize rest

/-- The last trailers among frames; `before` came before them. -/
def lastTrailers (before : Option Fields) : List Frame → Option Fields
  | [] => before
  | .trailers fields :: rest => lastTrailers (some fields) rest
  | .data _ :: rest => lastTrailers before rest
  | .broken _ :: rest => lastTrailers before rest

theorem lastTrailers_append (before : Option Fields) (a b : List Frame) :
    lastTrailers before (a ++ b) = lastTrailers (lastTrailers before a) b := by
  induction a generalizing before with
  | nil => rfl
  | cons frame a ih => cases frame <;> exact ih _

@[simp] theorem dataSize_nil : dataSize [] = 0 := rfl

@[simp] theorem dataSize_cons (frame : Frame) (rest : List Frame) :
    dataSize (frame :: rest) = frame.octets.length + dataSize rest := rfl

theorem dataSize_append (a b : List Frame) : dataSize (a ++ b) = dataSize a + dataSize b := by
  induction a with
  | nil => simp
  | cons frame a ih => simp only [List.cons_append, dataSize_cons, ih, Nat.add_assoc]

/-- That `drained` are the frames that draining reads of `frames`, when `n` octets were discarded
before: a frame is read exactly if nothing before it broke and the octets before it keep within
the limit. -/
def DrainedOf (limit n : Nat) (frames drained : List Frame) : Prop :=
  ∀ pre frame post, frames = pre ++ frame :: post →
    (pre.length < drained.length ↔ pre.all (!·.isBreak) ∧ n + dataSize pre ≤ limit)

namespace DrainedOf

variable {limit n : Nat} {frame : Frame} {rest drained : List Frame}

theorem beyond (hn : limit < n) (frames : List Frame) : DrainedOf limit n frames [] := by
  intro pre frame post _
  have : ¬n + dataSize pre ≤ limit := by omega
  simp [this]

theorem nil : DrainedOf limit n [] [] := by
  intro pre frame post h
  simp at h

theorem broken (hn : n ≤ limit) (e : IoError) :
    DrainedOf limit n (.broken e :: rest) [.broken e] := by
  intro pre frame post h
  cases pre with
  | nil => simp [hn]
  | cons f pre =>
    obtain ⟨rfl, -⟩ := List.cons.inj h
    simp [Frame.isBreak]

theorem cons (hn : n ≤ limit) (hframe : frame.isBreak = false)
    (h : DrainedOf limit (n + frame.octets.length) rest drained) :
    DrainedOf limit n (frame :: rest) (frame :: drained) := by
  intro pre f post heq
  cases pre with
  | nil => simp [hn]
  | cons g pre =>
    obtain ⟨rfl, hrest⟩ := List.cons.inj heq
    have := h pre f post hrest
    simp only [List.length_cons, Nat.add_lt_add_iff_right, List.all_cons, hframe, Bool.not_false,
      Bool.true_and, dataSize_cons, ← Nat.add_assoc]
    exact this

/-- All that is read but the last frame keeps within the limit. -/
theorem size_init (h : DrainedOf limit n (drained ++ rest) drained) {init : List Frame}
    (hlast : drained = init ++ [frame]) : n + dataSize init ≤ limit := by
  subst hlast
  exact ((h init frame rest (by simp)).1 (by simp)).2

end DrainedOf

namespace Body

variable (endpoint : String) (trailers : Option Fields)

theorem next_nil :
    next ⟨endpoint, [], trailers, false⟩ = (.ended, ⟨endpoint, [], trailers, true⟩) := by
  simp [next, advance]

theorem next_empty (rest : List Frame) :
    next ⟨endpoint, .data [] :: rest, trailers, false⟩ =
      next ⟨endpoint, rest, trailers, false⟩ := by
  simp [next, advance]

theorem next_trailers (fields : Fields) (rest : List Frame) :
    next ⟨endpoint, .trailers fields :: rest, trailers, false⟩ =
      next ⟨endpoint, rest, some fields, false⟩ := by
  simp [next, advance]

theorem next_data (b : UInt8) (bytes : Bytes) (rest : List Frame) :
    next ⟨endpoint, .data (b :: bytes) :: rest, trailers, false⟩ =
      (.chunk (b :: bytes), ⟨endpoint, rest, trailers, false⟩) := by
  simp [next, advance]

theorem next_broken (e : IoError) (rest : List Frame) :
    next ⟨endpoint, .broken e :: rest, trailers, false⟩ =
      (.failed (.transport endpoint e), ⟨endpoint, rest, trailers, true⟩) := by
  simp [next, advance]

theorem next_finished (frames : List Frame) :
    next ⟨endpoint, frames, trailers, true⟩ = (.ended, ⟨endpoint, frames, trailers, true⟩) := by
  simp [next]

theorem drainFrom_beyond {limit n : Nat} (hn : limit < n) (b : Body) :
    (drainFrom limit n b).2 = b := by
  rw [drainFrom]
  simp [hn]

theorem drainFrom_step {limit n : Nat} (hn : n ≤ limit) (b : Body) :
    drainFrom limit n b =
      match b.next with
      | (.chunk bytes, b) => drainFrom limit (n + bytes.length) b
      | (.ended, b) => ([], b)
      | (.failed _, b) => ([], b) := by
  conv => lhs; rw [drainFrom]
  simp only [Nat.not_lt.2 hn, if_false]
  split <;> simp_all

/-- What draining an open body reads, and the trailers it leaves. -/
theorem drainFrom_spec (limit : Nat) (frames : List Frame) :
    ∀ (n : Nat) (trailers : Option Fields), ∃ drained rest finished,
      frames = drained ++ rest ∧ DrainedOf limit n frames drained ∧
      (drainFrom limit n ⟨endpoint, frames, trailers, false⟩).2 =
        ⟨endpoint, rest, lastTrailers trailers drained, finished⟩ := by
  induction frames with
  | nil =>
    intro n trailers
    rcases Nat.lt_or_ge limit n with hn | hn
    · exact ⟨[], [], false, rfl, .nil, drainFrom_beyond hn _⟩
    · exact ⟨[], [], true, rfl, .nil, by rw [drainFrom_step hn, next_nil]; rfl⟩
  | cons frame rest ih =>
    intro n trailers
    rcases Nat.lt_or_ge limit n with hn | hn
    · exact ⟨[], frame :: rest, false, rfl, .beyond hn _, drainFrom_beyond hn _⟩
    cases frame with
    | broken e =>
      refine ⟨[.broken e], rest, true, rfl, .broken hn e, ?_⟩
      rw [drainFrom_step hn, next_broken]
      rfl
    | trailers fields =>
      obtain ⟨drained, left, finished, rfl, hd, hb⟩ := ih n (some fields)
      refine ⟨.trailers fields :: drained, left, finished, rfl, .cons hn rfl hd, ?_⟩
      rw [drainFrom_step hn, next_trailers, ← drainFrom_step hn, hb]
      rfl
    | data bytes =>
      cases bytes with
      | nil =>
        obtain ⟨drained, left, finished, rfl, hd, hb⟩ := ih n trailers
        refine ⟨.data [] :: drained, left, finished, rfl, .cons hn rfl hd, ?_⟩
        rw [drainFrom_step hn, next_empty, ← drainFrom_step hn, hb]
        rfl
      | cons b bytes =>
        obtain ⟨drained, left, finished, rfl, hd, hb⟩ := ih (n + (b :: bytes).length) trailers
        refine ⟨.data (b :: bytes) :: drained, left, finished, rfl, .cons hn rfl hd, ?_⟩
        rw [drainFrom_step hn, next_data]
        exact hb

theorem drain_finished (frames : List Frame) :
    (drain ⟨endpoint, frames, trailers, true⟩).2 = ⟨endpoint, frames, trailers, true⟩ := by
  rw [drain, drainFrom_step (Nat.zero_le _), next_finished]

end Body
end Http
end RdfExport
