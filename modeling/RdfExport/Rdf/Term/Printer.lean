import RdfExport.Rdf.Term
import RdfExport.Text.Hex

/-!
# RdfExport.Rdf.Term.Printer

Terms as N-Triples writes them, and the line of a statement.

* `escapeValue`: how one character of a literal's value is written.
* `Term.chars`: a term.
* `Triple.line`, `Quad.line`: a statement and its line end.
-/

namespace RdfExport
namespace Rdf

/-- A character inside a literal: quotes, backslashes and characters that would not survive a
line of text are escaped. -/
def escapeValue (c : Char) : List Char :=
  if c = '\x08' then ['\\', 'b']
  else if c = '\t' then ['\\', 't']
  else if c = '\n' then ['\\', 'n']
  else if c = '\x0C' then ['\\', 'f']
  else if c = '\r' then ['\\', 'r']
  else if c = '"' then ['\\', '"']
  else if c = '\\' then ['\\', '\\']
  else if c.toNat < 0x20 ∨ c.toNat = 0x7F ∨ c.toNat = 0xFFFE ∨ c.toNat = 0xFFFF then
    '\\' :: 'u' :: Hex.render4 c.toNat
  else [c]

def Iri.chars (i : Iri) : List Char := '<' :: i.text.toList ++ ['>']

def BlankNode.chars (b : BlankNode) : List Char := '_' :: ':' :: b.label.toList

def Node.chars : Node → List Char
  | .iri i => i.chars
  | .blank b => b.chars

/-- A value in quotes. -/
def valueChars (value : String) : List Char := '"' :: value.toList.flatMap escapeValue ++ ['"']

def Literal.chars : Literal → List Char
  | .plain value => valueChars value
  | .tagged value tag => valueChars value ++ '@' :: tag.toList
  | .typed value datatype => valueChars value ++ '^' :: '^' :: datatype.chars

def Term.chars : Term → List Char
  | .node n => n.chars
  | .literal l => l.chars

/-- A term as N-Triples writes it. -/
def Term.render (t : Term) : String := String.ofList t.chars

/-- A statement's line. -/
def Triple.line (t : Triple) : List Char :=
  t.subject.chars ++ ' ' :: t.predicate.chars ++ ' ' :: t.object.chars ++ [' ', '.', '\n']

/-- A statement's line; the graph comes last, and the default graph is not written. -/
def Quad.line (q : Quad) : List Char :=
  q.subject.chars ++ ' ' :: q.predicate.chars ++ ' ' :: q.object.chars ++
    (match q.graph with
      | none => []
      | some g => ' ' :: g.chars) ++
    [' ', '.', '\n']

end Rdf
end RdfExport
