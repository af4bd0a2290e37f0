import RdfExport.Rdf.Name
import RdfExport.Rdf.Term

/-!
# RdfExport.Rdf.Bindings

One row of a result table: the bound variables in header order, each with its term.

* `Bindings.get?`: the term of a name; the first binding counts.
* `Bindings.toQuad?`: the statement that a row with `s`, `p`, `o` and perhaps `g` describes.
-/

namespace RdfExport
namespace Rdf

/-- A variable, without its mark. -/
structure Variable where
  name : String
  deriving DecidableEq

/-- The variable of a name, if the name is valid. -/
def Variable.ofName? (name : List Char) : Option Variable :=
  if isVariableName name then some ⟨String.ofList name⟩ else none

structure Bindings where
  values : List (Variable × Term)
  deriving DecidableEq

namespace Bindings

def empty : Bindings := ⟨[]⟩

def push (b : Bindings) (v : Variable) (t : Term) : Bindings := ⟨b.values ++ [(v, t)]⟩

/-- The term that a name is bound to first. -/
def get? (b : Bindings) (name : String) : Option Term :=
  (b.values.find? fun p => p.1.name == name).map (·.2)

def size (b : Bindings) : Nat := b.values.length

def isEmpty (b : Bindings) : Bool := b.values.isEmpty

/-- The graph that a row names: none if `g` is unbound, and no answer if `g` is a literal. -/
def graph? (b : Bindings) : Option (Option Node) :=
  match b.get? "g" with
  | none => some none
  | some (.node n) => some (some n)
  | some (.literal _) => none

/-- The statement of a row: `s` a node, `p` an IRI, `o` any term, `g` a node or unbound. -/
def toQuad? (b : Bindings) : Option Quad :=
  match b.get? "s", b.get? "p", b.get? "o", b.graph? with
  | some (.node s), some (.node (.iri p)), some o, some g => some ⟨s, p, o, g⟩
  | _, _, _, _ => none

end Bindings
end Rdf
end RdfExport
