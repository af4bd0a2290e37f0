import RdfExport.Rdf.Term
import RdfExport.Text.Utf8

/-!
# RdfExport.NTriples.Token

The tokens of N-Triples, and what octets at hand make of one. Octets arrive piece by piece, so a
token may have to wait for the octet that ends it.

* `Mode`: how much a reader forgives.
* `Token`: what statements are made of; `foreign` is any token that no statement holds.
* `Scan`: what the octets at hand hold of one part of a token.
* `Lexeme`: a token and its size in octets, a line end, a fault, or the need of more octets.
-/

namespace RdfExport
namespace NTriples

open Rdf

/-- A strict reader checks IRIs and language tags and wants escaped line ends; a lenient one takes
them as they come. -/
inductive Mode where
  | strict
  | lenient
  deriving DecidableEq

inductive Token where
  | iri (name : Iri)
  | blank (node : BlankNode)
  | value (text : String)
  | tag (text : String)
  | datatypeMark
  | dot
  | foreign
  deriving DecidableEq

/-- Why octets are no N-Triples. -/
inductive Fault where
  | notUtf8
  | badEscape
  | badIri (text : String)
  | badTag (text : String)
  | directedTag
  | badLabel
  | badNumber
  | badName
  | lineEndInValue
  | unexpectedOctet (b : UInt8)
  | unexpectedToken
  | unexpectedLineEnd
  | unexpectedEnd
  | missingDot
  | missingLineEnd
  | langStringDatatype
  deriving DecidableEq

def Fault.message : Fault → String
  | .notUtf8 => "the octets are not UTF-8"
  | .badEscape => "an escape names no character"
  | .badIri text => s!"{text} is no absolute IRI"
  | .badTag text => s!"{text} is no language tag"
  | .directedTag => "a language tag may not give a direction"
  | .badLabel => "a blank node needs a label"
  | .badNumber => "a number lacks digits"
  | .badName => "a name holds a character it may not hold"
  | .lineEndInValue => "a line end in a literal must be escaped"
  | .unexpectedOctet b => s!"no token starts with the octet {b}"
  | .unexpectedToken => "another token was expected"
  | .unexpectedLineEnd => "a statement must stand on one line"
  | .unexpectedEnd => "the input ends inside a statement"
  | .missingDot => "a statement must end in a dot"
  | .missingLineEnd => "a line must end after its statement"
  | .langStringDatatype => "a literal without a language may not have the datatype of tagged text"

/-- What the octets at hand hold of one part of a token: all of it, a fault, or less than all.
Sizes count the octets of the token so far. -/
inductive Scan (α : Type) where
  | done (content : α) (size : Nat)
  | fault (f : Fault) (size : Nat)
  | wait

def Scan.map {α β : Type} (g : α → β) : Scan α → Scan β
  | .done content size => .done (g content) size
  | .fault f size => .fault f size
  | .wait => .wait

/-- What the octets at hand start with. Sizes count octets. -/
inductive Lexeme where
  | token (t : Token) (size : Nat)
  | lineEnd (size : Nat)
  | comment (size : Nat)
  | fault (f : Fault) (size : Nat)
  | wait
  deriving DecidableEq

end NTriples
end RdfExport
