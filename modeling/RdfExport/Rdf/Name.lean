/-!
# RdfExport.Rdf.Name

The characters of names: variables and blank node labels are built from one class of base
letters, which SPARQL and N-Triples share.

* `isNameBase`: letters that a name may start with.
* `isVariableName`, `isBlankNodeId`: whole names.
-/

namespace RdfExport
namespace Rdf

/-- The letters of names (`PN_CHARS_BASE`). -/
def isNameBase (c : Char) : Bool :=
  let n := c.toNat
  c.isAlpha || (0xC0 ≤ n && n ≤ 0xD6) || (0xD8 ≤ n && n ≤ 0xF6) || (0xF8 ≤ n && n ≤ 0x2FF) ||
    (0x370 ≤ n && n ≤ 0x37D) || (0x37F ≤ n && n ≤ 0x1FFF) || (0x200C ≤ n && n ≤ 0x200D) ||
    (0x2070 ≤ n && n ≤ 0x218F) || (0x2C00 ≤ n && n ≤ 0x2FEF) || (0x3001 ≤ n && n ≤ 0xD7FF) ||
    (0xF900 ≤ n && n ≤ 0xFDCF) || (0xFDF0 ≤ n && n ≤ 0xFFFD) || (0x10000 ≤ n && n ≤ 0xEFFFF)

/-- Letters, digits and the low line. -/
def isNameStart (c : Char) : Bool := isNameBase c || c.isDigit || c = '_'

/-- Marks that may not start a name. -/
def isNameMark (c : Char) : Bool :=
  let n := c.toNat
  n = 0xB7 || (0x300 ≤ n && n ≤ 0x36F) || (0x203F ≤ n && n ≤ 0x2040)

/-- Characters of a variable after its first. -/
def isNameChar (c : Char) : Bool := isNameStart c || isNameMark c

/-- Variable names. A colon may only come first. -/
def isVariableName : List Char → Bool
  | [] => false
  | c :: cs => (isNameStart c || c = ':') && cs.all isNameChar

/-- Characters of a blank node identifier after its first. -/
def isBlankNodeChar (c : Char) : Bool := isNameChar c || c = ':' || c = '-' || c = '.'

/-- Blank node identifiers. They do not end in a dot. -/
def isBlankNodeId : List Char → Bool
  | [] => false
  | c :: cs =>
    (isNameStart c || c = ':') && cs.all isBlankNodeChar && (c :: cs).getLast? != some '.'

end Rdf
end RdfExport
