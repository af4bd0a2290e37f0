import RdfExport.Rdf.LanguageTag
import RdfExport.Rdf.Name
import RdfExport.Rdf.Term
import RdfExport.Rdf.Term.Escape
import RdfExport.Text.Blank

/-!
# RdfExport.Rdf.Term.Reader

Terms as a field of a result table holds them: an IRI in angle brackets, a blank node, a quoted
literal with an optional language or datatype, a truth value or a number.

* `TermFault`: why a field holds no term.
* `Term.ofField`: the term of a field.
-/

namespace RdfExport
namespace Rdf

/-- Why a text is no term. -/
inductive TermFault where
  | quotedTriple
  | notAnIri (text : String)
  | missingIri
  | unclosedIri
  | badEscape
  | unclosedValue
  | badLabel (label : String)
  | badTag (tag : String)
  | badNumber
  | leftOver (text : String)
  deriving DecidableEq

def TermFault.message : TermFault → String
  | .quotedTriple => "a statement is no value here"
  | .notAnIri text => s!"{text} is no absolute IRI"
  | .missingIri => "an IRI must start with '<'"
  | .unclosedIri => "an IRI must end with '>'"
  | .badEscape => "an escape names no character"
  | .unclosedValue => "a literal must end with a double quote"
  | .badLabel label => s!"{label} is no blank node label"
  | .badTag tag => s!"{tag} is no language tag"
  | .badNumber => "a number lacks digits"
  | .leftOver text => s!"{text} follows the term"

/-- The text of an IRI with its numeric escapes replaced. A backslash before any other character
stays, and so does that character. -/
def unescapeIri : List Char → Option (List Char)
  | [] => some []
  | '\\' :: c :: rest =>
    match numberEscape? c with
    | some n =>
      match hexChar? n rest, unescapeIri (rest.drop n) with
      | some d, some ds => some (d :: ds)
      | _, _ => none
    | none => (unescapeIri rest).map fun ds => '\\' :: c :: ds
  | c :: rest => (unescapeIri rest).map (c :: ·)
  termination_by cs => cs.length
  decreasing_by all_goals simp; try omega

/-- An IRI in angle brackets, and what follows it. -/
def readIri : List Char → Except TermFault (Iri × List Char)
  | '<' :: rest =>
    match rest.dropWhile (· != '>') with
    | [] => .error .unclosedIri
    | _ :: after =>
      match unescapeIri (rest.takeWhile (· != '>')) with
      | some text =>
        if isAbsoluteIri text then .ok (⟨String.ofList text⟩, after)
        else .error (.notAnIri (String.ofList text))
      | none => .error .badEscape
  | _ => .error .missingIri

/-- Characters at which a blank node label stops. -/
def endsLabel (c : Char) : Bool :=
  Text.isBlank c || c = '<' || c = '?' || c = '$' || c = '"' || c = '\'' || c = '>' || c = '@' ||
    c = '^' || c = ':' || c = '(' || c = ')' || c = '{' || c = '}' || c = '[' || c = ']'

/-- Whether two dots stand next to each other. -/
def hasDoubleDot : List Char → Bool
  | '.' :: '.' :: _ => true
  | _ :: rest => hasDoubleDot rest
  | [] => false

/-- The label of a blank node, up to the end of the text. -/
def readLabel (cs : List Char) : Except TermFault BlankNode :=
  if cs.any endsLabel then .error (.leftOver (String.ofList (cs.dropWhile (!endsLabel ·))))
  else if hasDoubleDot cs || !isBlankNodeId cs then .error (.badLabel (String.ofList cs))
  else .ok ⟨String.ofList cs⟩

/-- The value of a literal up to its closing quote, and what follows the quote. -/
def readValue : List Char → Except TermFault (List Char × List Char)
  | [] => .error .unclosedValue
  | '"' :: rest => .ok ([], rest)
  | ['\\'] => .error .unclosedValue
  | '\\' :: c :: rest =>
    match letterEscape? c with
    | some d => (readValue rest).map fun p => (d :: p.1, p.2)
    | none =>
      match numberEscape? c with
      | some n =>
        match hexChar? n rest with
        | some d => (readValue (rest.drop n)).map fun p => (d :: p.1, p.2)
        | none => .error .badEscape
      | none => .error .badEscape
  | c :: rest => (readValue rest).map fun p => (c :: p.1, p.2)
  termination_by cs => cs.length
  decreasing_by all_goals simp; try omega

/-- Fails unless nothing is left. -/
def finish (left : List Char) (t : Term) : Except TermFault Term :=
  if left.isEmpty then .ok t else .error (.leftOver (String.ofList left))

def isTagChar (c : Char) : Bool := c.isAlphanum || c = '-'

/-- What follows the value of a literal: nothing, a language or a datatype. -/
def readMark (value : String) (after : List Char) : Except TermFault Term :=
  match Text.trim after with
  | '@' :: rest =>
    let tag := (rest.takeWhile isTagChar).map Char.toLower
    if isLanguageTag tag then
      finish (rest.dropWhile isTagChar) (.literal (.tagged value (String.ofList tag)))
    else .error (.badTag (String.ofList tag))
  | '^' :: '^' :: rest =>
    match readIri (Text.trim rest) with
    | .ok (datatype, left) => finish left (.literal (.ofDatatype value datatype))
    | .error f => .error f
  | left => finish left (.literal (.plain value))

/-- The number at the start of a text, as a literal, and what follows it. An exponent makes it
`xsd:double`, else a point `xsd:decimal`, else it is `xsd:integer`. -/
def readNumber (cs : List Char) : Except TermFault (Literal × List Char) :=
  let unsigned := if cs.head?.any (fun c => c = '+' || c = '-') then cs.drop 1 else cs
  let whole := unsigned.takeWhile Char.isDigit
  let afterWhole := unsigned.dropWhile Char.isDigit
  let hasPoint := afterWhole.head? = some '.'
  let fraction := if hasPoint then (afterWhole.drop 1).takeWhile Char.isDigit else []
  let afterFraction := if hasPoint then (afterWhole.drop 1).dropWhile Char.isDigit else afterWhole
  let literal (left : List Char) (datatype : String) : Literal × List Char :=
    (.typed (String.ofList (cs.take (cs.length - left.length))) (xsd datatype), left)
  if afterFraction.head?.any (fun c => c = 'e' || c = 'E') then
    let exponent := afterFraction.drop 1
    let digits :=
      if exponent.head?.any (fun c => c = '+' || c = '-') then exponent.drop 1 else exponent
    if digits.head?.any Char.isDigit then .ok (literal (digits.dropWhile Char.isDigit) "double")
    else .error .badNumber
  else if hasPoint then
    if fraction.isEmpty then .error .badNumber else .ok (literal afterFraction "decimal")
  else if whole.isEmpty then .error .badNumber
  else .ok (literal afterFraction "integer")

/-- The term that a trimmed text spells. -/
def readTerm : List Char → Except TermFault Term
  | '<' :: '<' :: '(' :: _ => .error .quotedTriple
  | '<' :: rest =>
    match readIri ('<' :: rest) with
    | .ok (i, left) => finish left (.node (.iri i))
    | .error f => .error f
  | '_' :: rest =>
    match rest with
    | ':' :: label => (readLabel label).map fun b => .node (.blank b)
    | _ => .error (.badLabel (String.ofList rest))
  | '"' :: rest =>
    match readValue rest with
    | .ok (value, after) => readMark (String.ofList value) after
    | .error f => .error f
  | 't' :: 'r' :: 'u' :: 'e' :: left => finish left (.literal (.typed "true" (xsd "boolean")))
  | 'f' :: 'a' :: 'l' :: 's' :: 'e' :: left =>
    finish left (.literal (.typed "false" (xsd "boolean")))
  | cs =>
    match readNumber cs with
    | .ok (l, left) => finish left (.literal l)
    | .error f => .error f

/-- The term of a field. White space around it does not count. -/
def Term.ofField (field : List Char) : Except TermFault Term := readTerm (Text.trim field)

end Rdf
end RdfExport
