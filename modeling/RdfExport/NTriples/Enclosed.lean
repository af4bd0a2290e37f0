import RdfExport.NTriples.Escape

/-!
# RdfExport.NTriples.Enclosed

Tokens that end with a delimiter of their own: IRIs in angle brackets and values in quotes.

* `lexIri`, `lexValue`: the tokens.
-/

namespace RdfExport
namespace NTriples

open Rdf

/-- The octets of an IRI up to its closing bracket, escapes replaced; `size` octets of the token
come before. -/
def scanIri (mode : Mode) (size : Nat) : Bytes → Scan Bytes
  | [] => .wait
  | b :: rest =>
    if b = octet '>' then .done [] (size + 1)
    else if b = octet '\\' then
      match lexEscape mode false rest with
      | .char c n =>
        (scanIri mode (size + n + 1) (rest.drop n)).map (String.utf8EncodeChar c ++ ·)
      | .fault n => .fault .badEscape (size + n + 1)
      | .wait => .wait
    else (scanIri mode (size + 1) rest).map (b :: ·)
  termination_by bytes => bytes.length
  decreasing_by all_goals simp; try omega

/-- The IRI after an opening bracket. -/
def lexIri (mode : Mode) (rest : Bytes) : Lexeme :=
  match scanIri mode 1 rest with
  | .done content size =>
    match Utf8.decode content with
    | .ok cs =>
      if mode = .lenient || isAbsoluteIri cs then .token (.iri ⟨String.ofList cs⟩) size
      else .fault (.badIri (String.ofList cs)) size
    | .error _ => .fault .notUtf8 size
  | .fault f size => .fault f size
  | .wait => .wait

def isLineEnd (b : UInt8) : Bool := b = octet '\n' || b = octet '\r'

/-- Octets of a value that stand for themselves: all up to a quote or a backslash. -/
def isPlainOctet (b : UInt8) : Bool := b != octet '"' && b != octet '\\'

/-- A fault after which all up to the next quote is passed over, which may be still to come;
`size` octets of the token come before. -/
def faultToQuote (f : Fault) (size : Nat) (bytes : Bytes) : Scan (List Char) :=
  let passed := bytes.takeWhile (· != octet '"')
  if passed.length < bytes.length then .fault f (size + passed.length + 1) else .wait

/-- The characters of a value up to its closing quote; `size` octets of the token come before. A
stretch of octets that is not UTF-8 is left after as many octets as it has, counted from the start
of the token. -/
def scanValue (mode : Mode) (size : Nat) (bytes : Bytes) : Scan (List Char) :=
  let stretch := bytes.takeWhile isPlainOctet
  match _h : bytes.drop stretch.length with
  | [] => .wait
  | q :: rest =>
    if mode = .strict && stretch.any isLineEnd then faultToQuote .lineEndInValue size bytes
    else
      match Utf8.decode stretch with
      | .error _ => .fault .notUtf8 stretch.length
      | .ok cs =>
        if q = octet '"' then .done cs (size + stretch.length + 1)
        else
          match lexEscape mode true rest with
          | .char c n =>
            (scanValue mode (size + stretch.length + 1 + n) (rest.drop n)).map
              (fun ds => cs ++ c :: ds)
          | .fault n =>
            faultToQuote .badEscape (size + stretch.length + 1 + n) (rest.drop n)
          | .wait => .wait
  termination_by bytes.length
  decreasing_by
    have := congrArg List.length _h
    simp at this ⊢
    omega

/-- The literal after an opening quote. -/
def lexValue (mode : Mode) (rest : Bytes) : Lexeme :=
  match scanValue mode 1 rest with
  | .done cs size => .token (.value (String.ofList cs)) size
  | .fault f size => .fault f size
  | .wait => .wait

end NTriples
end RdfExport
