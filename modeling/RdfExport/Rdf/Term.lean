import RdfExport.Rdf.Iri

/-!
# RdfExport.Rdf.Term

RDF terms and statements. A node is what may stand for a subject or a graph; a term may also be a
literal.

* `Node`, `Literal`, `Term`: what statements are made of.
* `Literal.ofDatatype`: a literal with a datatype, which `xsd:string` makes a plain one.
* `Triple`, `Quad`: statements, without and with a graph.
-/

namespace RdfExport
namespace Rdf

structure BlankNode where
  label : String
  deriving DecidableEq

/-- A resource: an IRI or a blank node. -/
inductive Node where
  | iri (name : Iri)
  | blank (node : BlankNode)
  deriving DecidableEq

/-- A value: plain text, text in a language, or text of a datatype. -/
inductive Literal where
  | plain (value : String)
  | tagged (value tag : String)
  | typed (value : String) (datatype : Iri)
  deriving DecidableEq

inductive Term where
  | node (n : Node)
  | literal (l : Literal)
  deriving DecidableEq

def Term.iri (text : String) : Term := .node (.iri ⟨text⟩)

def Term.blank (label : String) : Term := .node (.blank ⟨label⟩)

/-- The namespace of the XML Schema datatypes. -/
def xsd (name : String) : Iri := ⟨"http://www.w3.org/2001/XMLSchema#" ++ name⟩

/-- The datatype that language-tagged text has, and no other. -/
def rdfLangString : Iri := ⟨"http://www.w3.org/1999/02/22-rdf-syntax-ns#langString"⟩

/-- Text of a datatype. Text of the datatype `xsd:string` is plain text. -/
def Literal.ofDatatype (value : String) (datatype : Iri) : Literal :=
  if datatype = xsd "string" then .plain value else .typed value datatype

structure Triple where
  subject : Node
  predicate : Iri
  object : Term
  deriving DecidableEq

/-- A statement in a graph; `none` is the default graph. -/
structure Quad where
  subject : Node
  predicate : Iri
  object : Term
  graph : Option Node
  deriving DecidableEq

end Rdf
end RdfExport
