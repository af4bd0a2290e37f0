import RdfExport.Json.Value

/-!
# RdfExport.Strategy

How a client picks the endpoint for a call.

* `Strategy`: by chance or in turn.
-/

namespace RdfExport

/-- How the endpoint for a call is picked. -/
inductive Strategy where
  | random
  | roundRobin
  deriving DecidableEq

namespace Strategy

/-- The name in JSON documents. -/
def key : Strategy → String
  | .random => "random"
  | .roundRobin => "round_robin"

/-- The name in notices. -/
def name : Strategy → String
  | .random => "Random"
  | .roundRobin => "RoundRobin"

def ofJson? (j : Json) : Option Strategy :=
  j.choice?.bind fun name => [Strategy.random, .roundRobin].find? (·.key == name)

def toJson (s : Strategy) : Json := .str s.key

end Strategy

end RdfExport
