import RdfExport.Endpoint

/-!
# RdfExport.Pool

The endpoints of a client, of which each call uses one.

* `Pool.ofList`: a pool of at least one endpoint.
* `Pool.nextIndex`: which endpoint the next call uses.
-/

namespace RdfExport

/-- Endpoints in the order of the settings. `cursor` counts the calls in turn, modulo 2⁶⁴. -/
structure Pool where
  endpoints : List Endpoint
  nonempty : endpoints ≠ []
  strategy : Strategy
  cursor : UInt64

namespace Pool

def ofList (endpoints : List Endpoint) (strategy : Strategy) : Except ConfigFault Pool :=
  match endpoints with
  | [] => .error .emptyPool
  | e :: es => .ok ⟨e :: es, List.cons_ne_nil e es, strategy, 0⟩

def size (p : Pool) : Nat := p.endpoints.length

theorem size_pos (p : Pool) : 0 < p.size := List.length_pos_iff.2 p.nonempty

def isEmpty (p : Pool) : Bool := p.endpoints.isEmpty

/-- The index of the endpoint for the next call, and the pool and the world after it. `draw` is
asked for a number below a bound where chance decides. -/
def nextIndex {ω : Type} (draw : Nat → ω → Nat × ω) (p : Pool) (w : ω) : Nat × Pool × ω :=
  if p.size = 1 then (0, p, w)
  else
    match p.strategy with
    | .random =>
      match draw p.size w with
      | (n, w) => (n % p.size, p, w)
    | .roundRobin => (p.cursor.toNat % p.size, { p with cursor := p.cursor + 1 }, w)

theorem nextIndex_lt {ω : Type} (draw : Nat → ω → Nat × ω) (p : Pool) (w : ω) :
    (nextIndex draw p w).1 < p.endpoints.length := by
  have h : 0 < p.endpoints.length := p.size_pos
  unfold nextIndex size
  split
  · exact h
  · split
    · exact Nat.mod_lt _ h
    · exact Nat.mod_lt _ h

/-- The endpoint for the next call. -/
def choose {ω : Type} (draw : Nat → ω → Nat × ω) (p : Pool) (w : ω) : Endpoint × Pool × ω :=
  (p.endpoints.get ⟨(nextIndex draw p w).1, nextIndex_lt draw p w⟩, (nextIndex draw p w).2)

end Pool
end RdfExport
