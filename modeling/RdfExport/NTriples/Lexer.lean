import RdfExport.NTriples.Enclosed
import RdfExport.NTriples.Foreign
import RdfExport.Rdf.LanguageTag

/-!
# RdfExport.NTriples.Lexer

Reading one token of N-Triples from octets. `ended` says that no more octets will come; without
it, a token that a further octet could extend waits.

* `lexLabel`, `lexTag`: the tokens that end where the next octet cannot extend them.
* `lexeme`: the token, line end or comment at hand.
-/

namespace RdfExport
namespace NTriples

open Rdf

/-- How many dots the octets end in. -/
def trailingDots (bytes : Bytes) : Nat := (bytes.reverse.takeWhile (· == octet '.')).length

/-- The blank node of a label. Dots at its end do not belong to it. -/
def labelToken (label : Bytes) : Lexeme :=
  let bytes := label.take (label.length - trailingDots label)
  .token (.blank ⟨String.ofList (Utf8.decodeLossy bytes)⟩) (2 + bytes.length)

def isLabelChar (c : Char) : Bool := isNameChar c || c = '-' || c = '.'

/-- The blank node after `_:`, of which `size` octets are read and `label` holds all. -/
def scanLabel (ended : Bool) (label : Bytes) (size : Nat) : Bytes → Lexeme
  | [] =>
    if !ended then .wait
    else if size = 0 then .fault .badLabel 2 else labelToken (label.take size)
  | b :: rest =>
    match Utf8.head b rest with
    | .char c n =>
      if (if size = 0 then isNameStart c else isLabelChar c) then
        scanLabel ended label (size + n) (rest.drop (n - 1))
      else if size = 0 then .fault .badLabel 2 else labelToken (label.take size)
    | .ill n => .fault .notUtf8 (2 + size + illSize b n)
    | .cut =>
      if !ended then .wait
      else if size = 0 then .fault .badLabel 2 else labelToken (label.take size)
  termination_by bytes => bytes.length
  decreasing_by simp only [List.length_drop, List.length_cons]; omega

/-- The blank node after `_:`. -/
def lexLabel (ended : Bool) (rest : Bytes) : Lexeme := scanLabel ended rest 0 rest

/-- The language of the first `size` octets after an `@`. -/
def tagToken (mode : Mode) (tag : Bytes) (size : Nat) : Lexeme :=
  let cs := tag.map fun b => (Char.ofUInt8 b).toLower
  if mode = .lenient || isLanguageTag cs then .token (.tag (String.ofList cs)) (size + 1)
  else .fault (.badTag (String.ofList cs)) (size + 1)

/-- The direction after the two hyphens of a language, which no statement may give; `size` octets
of the token come before. -/
def scanDirection (size : Nat) (rest : Bytes) : Lexeme :=
  let direction := rest.takeWhile fun b => (Char.ofUInt8 b).isAlpha
  if direction.length < rest.length then .fault .directedTag (size + direction.length) else .wait

/-- The language after an `@`, of which `size` octets are read: a block of letters, then blocks of
letters and digits after hyphens. `filled` says that the last block has something in it. -/
def scanTag (mode : Mode) (tag : Bytes) (size : Nat) (first filled : Bool) : Bytes → Lexeme
  | [] => .wait
  | b :: rest =>
    let c := Char.ofUInt8 b
    if c.isAlpha || (!first && c.isDigit) then scanTag mode tag (size + 1) first true rest
    else if size = 0 then .fault (.badTag "") 1
    else if filled && c = '-' then scanTag mode tag (size + 1) false false rest
    else if filled then tagToken mode (tag.take size) size
    else if c = '-' then scanDirection (size + 2) rest
    else tagToken mode (tag.take (size - 1)) (size - 1)

/-- The language after an `@`. -/
def lexTag (mode : Mode) (rest : Bytes) : Lexeme := scanTag mode rest 0 true false rest

/-- The size of the line end at hand: LF, CR or both, if there is one; a CR that is the last octet
so far waits. -/
def lineEnd? (ended : Bool) : Bytes → Option Lexeme
  | [] => none
  | b :: rest =>
    if b = octet '\n' then some (.lineEnd 1)
    else if b = octet '\r' then
      match rest with
      | [] => some (if ended then .lineEnd 1 else .wait)
      | c :: _ => some (.lineEnd (if c = octet '\n' then 2 else 1))
    else none

/-- A comment counts as the line end that closes it. -/
def lexComment (ended : Bool) (rest : Bytes) : Lexeme :=
  let size := 1 + (rest.takeWhile (!isLineEnd ·)).length
  match lineEnd? ended (rest.drop (size - 1)) with
  | some (.lineEnd n) => .lineEnd (size + n)
  | some other => other
  | none => if ended then .comment size else .wait

/-- What the octets `b :: rest` start with. Spaces and tabs are not handed to it. -/
def lexeme (mode : Mode) (ended : Bool) (b : UInt8) (rest : Bytes) : Lexeme :=
  match lineEnd? ended (b :: rest) with
  | some l => l
  | none =>
    match Char.ofUInt8 b with
    | '#' => lexComment ended rest
    | '"' => lexValue mode rest
    | '@' => lexTag mode rest
    | '<' =>
      match rest with
      | [] => .wait
      | c :: _ => if c = octet '<' then lexOpening rest else lexIri mode rest
    | '_' =>
      match rest with
      | [] => .wait
      | c :: label => if c = octet ':' then lexLabel ended label else .fault (.unexpectedOctet c) 1
    | '.' =>
      match rest with
      | [] => if ended then .token .dot 1 else .wait
      | c :: _ => if (Char.ofUInt8 c).isDigit then lexNumber ended (b :: rest) else .token .dot 1
    | '^' =>
      match rest with
      | [] => .wait
      | c :: _ => if c = octet '^' then .token .datatypeMark 2 else .token .foreign 1
    | _ => lexForeign mode ended b rest

end NTriples
end RdfExport
