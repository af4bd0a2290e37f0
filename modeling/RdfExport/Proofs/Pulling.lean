import RdfExport.Proofs.Frames

/-!
# RdfExport.Proofs.Pulling

A body as a view of frames that are pulled one at a time. Whoever reads it asks for the next chunk
or has the rest drained, in any order and any number of times.

* `Source.poll`: pulls a frame and counts the attempt.
* `Pulled.next`, `Pulled.drainFrom`: reading by pulling, with the pieces that a drain discards;
  `Pulled.next_toBody`, `Pulled.drainFrom_toBody`: it is what a body does, if nothing is counted.
* `Pulled.Seen`: what the pieces met so far tell of the frames consumed so far.
* `Body.view_of_frames`: what any asks make of any frames.
-/

namespace RdfExport
namespace Http

/-- Frames to come, and how often one was asked for. -/
structure Source where
  frames : List Frame
  polls : Nat

def Source.poll : Source → Option Frame × Source
  | ⟨[], polls⟩ => (none, ⟨[], polls + 1⟩)
  | ⟨frame :: rest, polls⟩ => (some frame, ⟨rest, polls + 1⟩)

theorem Source.length_lt_of_poll {s s' : Source} {frame : Frame} (h : s.poll = (some frame, s')) :
    s'.frames.length < s.frames.length := by
  obtain ⟨_ | ⟨first, rest⟩, polls⟩ := s
  · cases h
  · cases h
    exact Nat.lt_succ_self _

/-- A body that is read from a source. -/
structure Pulled where
  endpoint : String
  source : Source
  trailers : Option Fields
  finished : Bool

namespace Pulled

def ofFrames (endpoint : String) (frames : List Frame) : Pulled :=
  ⟨endpoint, ⟨frames, 0⟩, none, false⟩

def toBody (p : Pulled) : Body := ⟨p.endpoint, p.source.frames, p.trailers, p.finished⟩

def next (p : Pulled) : Piece × Pulled :=
  if p.finished then (.ended, p)
  else
    match _h : p.source.poll with
    | (none, source) => (.ended, { p with source, finished := true })
    | (some (.broken e), source) =>
      (.failed (.transport p.endpoint e), { p with source, finished := true })
    | (some (.data []), source) => next { p with source }
    | (some (.data (b :: bytes)), source) => (.chunk (b :: bytes), { p with source })
    | (some (.trailers fields), source) => next { p with source, trailers := some fields }
  termination_by p.source.frames.length
  decreasing_by all_goals exact Source.length_lt_of_poll _h

variable (endpoint : String) (polls : Nat) (trailers : Option Fields)

theorem next_nil :
    next ⟨endpoint, ⟨[], polls⟩, trailers, false⟩ =
      (.ended, ⟨endpoint, ⟨[], polls + 1⟩, trailers, true⟩) := by
  rw [next]
  simp [Source.poll]

theorem next_broken (e : IoError) (rest : List Frame) :
    next ⟨endpoint, ⟨.broken e :: rest, polls⟩, trailers, false⟩ =
      (.failed (.transport endpoint e), ⟨endpoint, ⟨rest, polls + 1⟩, trailers, true⟩) := by
  rw [next]
  simp [Source.poll]

theorem next_empty (rest : List Frame) :
    next ⟨endpoint, ⟨.data [] :: rest, polls⟩, trailers, false⟩ =
      next ⟨endpoint, ⟨rest, polls + 1⟩, trailers, false⟩ := by
  rw [next]
  simp [Source.poll]

theorem next_data (b : UInt8) (bytes : Bytes) (rest : List Frame) :
    next ⟨endpoint, ⟨.data (b :: bytes) :: rest, polls⟩, trailers, false⟩ =
      (.chunk (b :: bytes), ⟨endpoint, ⟨rest, polls + 1⟩, trailers, false⟩) := by
  rw [next]
  simp [Source.poll]

theorem next_trailers (fields : Fields) (rest : List Frame) :
    next ⟨endpoint, ⟨.trailers fields :: rest, polls⟩, trailers, false⟩ =
      next ⟨endpoint, ⟨rest, polls + 1⟩, some fields, false⟩ := by
  rw [next]
  simp [Source.poll]

theorem next_finished (source : Source) :
    next ⟨endpoint, source, trailers, true⟩ = (.ended, ⟨endpoint, source, trailers, true⟩) := by
  rw [next]
  simp

theorem next_toBody (p : Pulled) : p.toBody.next = (p.next.1, p.next.2.toBody) := by
  obtain ⟨endpoint, ⟨frames, polls⟩, trailers, finished⟩ := p
  cases finished with
  | true => rw [next_finished, toBody, Body.next_finished]
  | false =>
    induction frames generalizing polls trailers with
    | nil => rw [next_nil, toBody, Body.next_nil]; rfl
    | cons frame rest ih =>
      match frame with
      | .broken e => rw [next_broken, toBody, Body.next_broken]; rfl
      | .data [] => rw [next_empty, toBody, Body.next_empty, ← ih]; rfl
      | .data (b :: bytes) => rw [next_data, toBody, Body.next_data]; rfl
      | .trailers fields => rw [next_trailers, toBody, Body.next_trailers, ← ih]; rfl

theorem length_lt_of_next {p p' : Pulled} {bytes : Bytes} (h : p.next = (.chunk bytes, p')) :
    p'.source.frames.length < p.source.frames.length := by
  have hbody := p.next_toBody
  rw [h] at hbody
  exact Body.next_frames_length hbody

/-- Reads and discards the rest of a body, up to a limit: the notices, the pieces discarded, and the
body after it. -/
def drainFrom (limit discarded : Nat) (p : Pulled) : List Notice × List Piece × Pulled :=
  if limit < discarded then ([.drainAbandoned], [], p)
  else
    match _h : p.next with
    | (.chunk bytes, p) =>
      let (notices, met, p) := drainFrom limit (discarded + bytes.length) p
      (notices, .chunk bytes :: met, p)
    | (.ended, p) => ([], [.ended], p)
    | (.failed e, p) => ([], [.failed e], p)
  termination_by p.source.frames.length
  decreasing_by exact length_lt_of_next _h

theorem drainFrom_of_ended {limit discarded : Nat} (hwithin : discarded ≤ limit) {p p' : Pulled}
    (h : p.next = (.ended, p')) : p.drainFrom limit discarded = ([], [.ended], p') := by
  rw [drainFrom, if_neg (Nat.not_lt.2 hwithin)]
  split <;> simp_all

theorem drainFrom_toBody (limit discarded : Nat) (p : Pulled) :
    p.toBody.drainFrom limit discarded =
      ((p.drainFrom limit discarded).1, (p.drainFrom limit discarded).2.2.toBody) := by
  fun_induction drainFrom limit discarded p with
  | case1 discarded p hbeyond => rw [Body.drainFrom, if_pos hbeyond]
  | case2 discarded p hwithin bytes p' h notices met p'' hdrain ih =>
    rw [Body.drainFrom_step (Nat.not_lt.1 hwithin), next_toBody, h]
    simp only [ih, hdrain]
  | case3 discarded p hwithin p' h =>
    rw [Body.drainFrom_step (Nat.not_lt.1 hwithin), next_toBody, h]
  | case4 discarded p hwithin e p' h =>
    rw [Body.drainFrom_step (Nat.not_lt.1 hwithin), next_toBody, h]

end Pulled

/-- What is asked of a body. -/
inductive Ask where
  | next
  | drain

/-- What is answered. -/
inductive Answer where
  | piece (p : Piece)
  | drained (notices : List Notice)

def Body.answer (b : Body) : Ask → Answer × Body
  | .next => (.piece b.next.1, b.next.2)
  | .drain => (.drained b.drain.1, b.drain.2)

/-- The answers to asks, one after another. -/
def Body.answers (b : Body) : List Ask → List Answer × Body
  | [] => ([], b)
  | ask :: asks =>
    let rest := (b.answer ask).2.answers asks
    ((b.answer ask).1 :: rest.1, rest.2)

/-- What an ask makes of a body: the piece that it returns, or the pieces that it discards. -/
inductive Visit where
  | next (piece : Piece)
  | drain (notices : List Notice) (discarded : List Piece)

namespace Visit

def answer : Visit → Answer
  | next piece => .piece piece
  | drain notices _ => .drained notices

/-- The pieces that are returned or discarded. -/
def met : Visit → List Piece
  | next piece => [piece]
  | drain _ discarded => discarded

def ofEnded : Ask → Visit
  | .next => next .ended
  | .drain => drain [] [.ended]

end Visit

namespace Pulled

def visit (p : Pulled) : Ask → Visit × Pulled
  | .next => (.next p.next.1, p.next.2)
  | .drain =>
    let (notices, discarded, p) := p.drainFrom Body.drainLimit 0
    (.drain notices discarded, p)

def visits (p : Pulled) : List Ask → List Visit × Pulled
  | [] => ([], p)
  | ask :: asks =>
    let rest := (p.visit ask).2.visits asks
    ((p.visit ask).1 :: rest.1, rest.2)

theorem answer_toBody (p : Pulled) (ask : Ask) :
    p.toBody.answer ask = ((p.visit ask).1.answer, (p.visit ask).2.toBody) := by
  cases ask with
  | next => simp only [Body.answer, p.next_toBody, visit, Visit.answer]
  | drain => simp only [Body.answer, Body.drain, p.drainFrom_toBody, visit, Visit.answer]

theorem answers_toBody (p : Pulled) (asks : List Ask) :
    p.toBody.answers asks = ((p.visits asks).1.map Visit.answer, (p.visits asks).2.toBody) := by
  induction asks generalizing p with
  | nil => rfl
  | cons ask asks ih => simp only [Body.answers, visits, answer_toBody, ih, List.map_cons]

theorem visit_finished (endpoint : String) (source : Source) (trailers : Option Fields)
    (ask : Ask) :
    visit ⟨endpoint, source, trailers, true⟩ ask =
      (.ofEnded ask, ⟨endpoint, source, trailers, true⟩) := by
  cases ask with
  | next => rw [visit, next_finished]; rfl
  | drain =>
    have hdrain := drainFrom_of_ended (Nat.zero_le Body.drainLimit)
      (next_finished endpoint trailers source)
    simp only [visit, hdrain, Visit.ofEnded]

/-- At the end every ask is answered without pulling a frame. -/
theorem visits_finished {p : Pulled} (h : p.finished = true) (asks : List Ask) :
    p.visits asks = (asks.map Visit.ofEnded, p) := by
  obtain ⟨endpoint, source, trailers, finished⟩ := p
  obtain rfl : finished = true := h
  induction asks with
  | nil => rfl
  | cons ask asks ih => simp only [visits, visit_finished, ih, List.map_cons]

end Pulled

def Frame.piece? (endpoint : String) : Frame → Option Piece
  | .data [] => none
  | .data (b :: bytes) => some (.chunk (b :: bytes))
  | .trailers _ => none
  | .broken e => some (.failed (.transport endpoint e))

/-- The pieces that frames are worth. -/
def told (endpoint : String) (frames : List Frame) : List Piece :=
  frames.filterMap (Frame.piece? endpoint)

@[simp] theorem told_append (endpoint : String) (a b : List Frame) :
    told endpoint (a ++ b) = told endpoint a ++ told endpoint b :=
  List.filterMap_append

namespace Pulled

/-- The body of which `consumed` was read, and `rest` was not. -/
def readUpTo (endpoint : String) (consumed rest : List Frame) : Pulled :=
  ⟨endpoint, ⟨rest, consumed.length⟩, lastTrailers none consumed, false⟩

/-- That a body stands where it does after `consumed` was read and the pieces `met` were returned or
discarded: before the end, after a break, or after the end. -/
inductive Seen (endpoint : String) : List Frame → List Piece → Pulled → Prop
  | reading {consumed : List Frame} (rest : List Frame)
      (hwhole : ∀ f ∈ consumed, f.isBreak = false) :
    Seen endpoint consumed (told endpoint consumed) (readUpTo endpoint consumed rest)
  | broken {consumed : List Frame} (rest : List Frame) (e : IoError) (ends : Nat)
      (hwhole : ∀ f ∈ consumed, f.isBreak = false) :
    Seen endpoint (consumed ++ [.broken e])
      (told endpoint (consumed ++ [.broken e]) ++ List.replicate ends .ended)
      ⟨endpoint, ⟨rest, consumed.length + 1⟩, lastTrailers none consumed, true⟩
  | ended {consumed : List Frame} (ends : Nat) (hwhole : ∀ f ∈ consumed, f.isBreak = false) :
    Seen endpoint consumed (told endpoint consumed ++ List.replicate (ends + 1) .ended)
      ⟨endpoint, ⟨[], consumed.length + 1⟩, lastTrailers none consumed, true⟩

/-- That reading from `p` to `p'` consumes the frames between them and meets the pieces `more`. -/
def Leads (endpoint : String) (consumed : List Frame) (met : List Piece) (p : Pulled)
    (more : List Piece) (p' : Pulled) : Prop :=
  ∃ frames, p.source.frames = frames ++ p'.source.frames ∧
    Seen endpoint (consumed ++ frames) (met ++ more) p'

section

variable {endpoint : String} {consumed : List Frame} {met : List Piece} {p : Pulled}

theorem Seen.stays (h : Seen endpoint consumed met p) : Leads endpoint consumed met p [] p :=
  ⟨[], rfl, by simpa using h⟩

theorem Leads.trans {more more' : List Piece} {p' p'' : Pulled}
    (h : Leads endpoint consumed met p more p')
    (h' : ∀ consumed met, Seen endpoint consumed met p' →
      Leads endpoint consumed met p' more' p'') :
    Leads endpoint consumed met p (more ++ more') p'' := by
  obtain ⟨frames, hframes, hseen⟩ := h
  obtain ⟨frames', hframes', hseen'⟩ := h' _ _ hseen
  refine ⟨frames ++ frames', by rw [hframes, hframes', List.append_assoc], ?_⟩
  rwa [List.append_assoc, List.append_assoc] at hseen'

/-- A frame that is worth no piece is consumed before the next piece. -/
theorem Leads.skip {frame : Frame} {rest : List Frame} {more : List Piece} {p' : Pulled}
    (hnone : frame.piece? endpoint = none)
    (h : Leads endpoint (consumed ++ [frame]) (told endpoint (consumed ++ [frame]))
      (readUpTo endpoint (consumed ++ [frame]) rest) more p') :
    Leads endpoint consumed (told endpoint consumed) (readUpTo endpoint consumed (frame :: rest))
      more p' := by
  obtain ⟨frames, hframes, hseen⟩ := h
  refine ⟨frame :: frames, congrArg (frame :: ·) hframes, ?_⟩
  simpa [told, hnone] using hseen

theorem next_readUpTo (rest : List Frame) (hwhole : ∀ f ∈ consumed, f.isBreak = false) :
    Leads endpoint consumed (told endpoint consumed) (readUpTo endpoint consumed rest)
      [(readUpTo endpoint consumed rest).next.1] (readUpTo endpoint consumed rest).next.2 := by
  induction rest generalizing consumed with
  | nil =>
    rw [readUpTo, next_nil]
    exact ⟨[], rfl, by simpa using Seen.ended 0 hwhole⟩
  | cons frame rest ih =>
    have hwhole' : frame.isBreak = false → ∀ f ∈ consumed ++ [frame], f.isBreak = false := by
      intro hframe
      simpa [or_imp, forall_and, hframe] using hwhole
    have hread : readUpTo endpoint (consumed ++ [frame]) rest =
        ⟨endpoint, ⟨rest, consumed.length + 1⟩, lastTrailers none (consumed ++ [frame]),
          false⟩ := by
      rw [readUpTo, List.length_append, List.length_singleton]
    match frame with
    | .data [] =>
      have hnext : (readUpTo endpoint consumed (.data [] :: rest)).next =
          (readUpTo endpoint (consumed ++ [.data []]) rest).next := by
        rw [hread, readUpTo, next_empty, lastTrailers_append]
        rfl
      rw [hnext]
      exact (ih (hwhole' rfl)).skip rfl
    | .trailers fields =>
      have hnext : (readUpTo endpoint consumed (.trailers fields :: rest)).next =
          (readUpTo endpoint (consumed ++ [.trailers fields]) rest).next := by
        rw [hread, readUpTo, next_trailers, lastTrailers_append]
        rfl
      rw [hnext]
      exact (ih (hwhole' rfl)).skip rfl
    | .data (b :: bytes) =>
      have hseen : Seen endpoint _ _ _ := .reading rest (hwhole' rfl)
      rw [hread, lastTrailers_append, told_append] at hseen
      rw [readUpTo, next_data]
      exact ⟨[.data (b :: bytes)], rfl, hseen⟩
    | .broken e =>
      have hseen : Seen endpoint _ _ _ := .broken rest e 0 hwhole
      rw [List.replicate_zero, List.append_nil, told_append] at hseen
      rw [readUpTo, next_broken]
      exact ⟨[.broken e], rfl, hseen⟩

namespace Seen

theorem next (h : Seen endpoint consumed met p) :
    Leads endpoint consumed met p [p.next.1] p.next.2 := by
  cases h with
  | reading rest hwhole => exact next_readUpTo rest hwhole
  | broken rest e ends hwhole =>
    have hseen : Seen endpoint _ _ _ := .broken rest e (ends + 1) hwhole
    rw [List.replicate_succ', ← List.append_assoc] at hseen
    rw [next_finished]
    exact ⟨[], rfl, by simpa using hseen⟩
  | ended ends hwhole =>
    have hseen : Seen endpoint _ _ _ := .ended (ends + 1) hwhole
    rw [List.replicate_succ', ← List.append_assoc] at hseen
    rw [next_finished]
    exact ⟨[], rfl, by simpa using hseen⟩

theorem drainFrom (limit discarded : Nat) (h : Seen endpoint consumed met p) :
    Leads endpoint consumed met p (p.drainFrom limit discarded).2.1
      (p.drainFrom limit discarded).2.2 := by
  fun_induction Pulled.drainFrom limit discarded p generalizing consumed met with
  | case1 => exact h.stays
  | case2 discarded p hwithin bytes p' hnext notices pieces p'' hdrain ih =>
    have hstep := h.next
    rw [hnext] at hstep
    refine hstep.trans fun consumed met h' => ?_
    have := ih h'
    rwa [hdrain] at this
  | case3 discarded p hwithin p' hnext => simpa only [hnext] using h.next
  | case4 discarded p hwithin e p' hnext => simpa only [hnext] using h.next

theorem visit (h : Seen endpoint consumed met p) (ask : Ask) :
    Leads endpoint consumed met p (p.visit ask).1.met (p.visit ask).2 := by
  cases ask with
  | next => exact h.next
  | drain => exact h.drainFrom _ _

theorem visits (h : Seen endpoint consumed met p) (asks : List Ask) :
    Leads endpoint consumed met p ((p.visits asks).1.flatMap Visit.met) (p.visits asks).2 := by
  induction asks generalizing p consumed met with
  | nil => exact h.stays
  | cons ask asks ih => exact (h.visit ask).trans fun consumed met h' => ih h'

end Seen

/-- That a body shows what it is made of. The pieces met are those of the frames consumed, and then
only that it has ended. -/
structure Shows (endpoint : String) (frames : List Frame) (met : List Piece) (p : Pulled)
    (consumed : List Frame) (ends : Nat) : Prop where
  frames : frames = consumed ++ p.source.frames
  met : met = told endpoint consumed ++ List.replicate ends .ended
  /-- Nothing is read after a break. -/
  whole : ∀ f ∈ consumed.dropLast, f.isBreak = false
  trailers : p.trailers = lastTrailers none consumed
  /-- The end is met after a break or after all frames. -/
  ended : 0 < ends → (∃ e, .broken e ∈ consumed) ∨ p.source.frames = []
  finished : p.finished = true ↔ (∃ e, .broken e ∈ consumed) ∨ 0 < ends
  /-- A frame is asked for once; at the end of all frames there is one attempt more. -/
  polls : p.source.polls = consumed.length ∨
    p.source.polls = consumed.length + 1 ∧ p.source.frames = [] ∧ p.finished = true
  /-- At the end no frame is asked for any more. -/
  stays : p.finished = true → ∀ later, p.visits later = (later.map Visit.ofEnded, p)

theorem broken_not_mem {frames : List Frame} (h : ∀ f ∈ frames, f.isBreak = false) :
    ¬∃ e, .broken e ∈ frames := by
  rintro ⟨e, he⟩
  have := h _ he
  cases this

theorem Seen.shows {frames : List Frame} (h : Seen endpoint consumed met p)
    (hframes : frames = consumed ++ p.source.frames) :
    ∃ ends, Shows endpoint frames met p consumed ends := by
  have hinit {frames : List Frame} (hwhole : ∀ f ∈ frames, f.isBreak = false) :
      ∀ f ∈ frames.dropLast, f.isBreak = false :=
    fun f hf => hwhole f (List.dropLast_subset _ hf)
  cases h with
  | reading rest hwhole =>
    refine ⟨0, hframes, by simp, hinit hwhole, rfl, by simp, ?_, .inl rfl, by simp [readUpTo]⟩
    simp [readUpTo, broken_not_mem hwhole]
  | @broken consumed rest e ends hwhole =>
    have hbreak : ∃ e', Frame.broken e' ∈ consumed ++ [.broken e] := ⟨e, by simp⟩
    refine ⟨ends, hframes, rfl, by simpa using hwhole, ?_, fun _ => .inl hbreak,
      iff_of_true rfl (.inl hbreak), .inl (by simp), visits_finished⟩
    rw [lastTrailers_append]
    rfl
  | ended ends hwhole =>
    exact ⟨ends + 1, hframes, rfl, hinit hwhole, rfl, fun _ => .inr rfl, by simp,
      .inr ⟨rfl, rfl, rfl⟩, visits_finished⟩

end
end Pulled

/-- **A body is a view of its frames.** Whatever is asked of it, and in whatever order, what is
returned or discarded is what the frames consumed are worth, in order and each once; the trailers
are the last that were consumed; a break is told once; after it or after the end every ask is
answered without asking for a frame. -/
theorem Body.answers_show (endpoint : String) (frames : List Frame) (asks : List Ask) :
    let run := (Pulled.ofFrames endpoint frames).visits asks
    (ofFrames endpoint frames).answers asks = (run.1.map Visit.answer, run.2.toBody) ∧
      ∃ consumed ends,
        Pulled.Shows endpoint frames (run.1.flatMap Visit.met) run.2 consumed ends := by
  refine ⟨(Pulled.ofFrames endpoint frames).answers_toBody asks, ?_⟩
  have hstart : Pulled.Seen endpoint [] [] (.ofFrames endpoint frames) :=
    .reading frames (by simp)
  obtain ⟨consumed, hframes, hseen⟩ := hstart.visits asks
  exact ⟨consumed, hseen.shows hframes⟩

end Http
end RdfExport
