import RdfExport.NTriples.Token
import RdfExport.Rdf.Name
import RdfExport.Rdf.Term.Escape

/-!
# RdfExport.NTriples.Foreign

Tokens of the larger languages around N-Triples: numbers, keywords, prefixed names, variables and
brackets. No statement holds one, yet a reader takes in the whole token before it says so, and
goes on after it.

* `LocalPart`, `scanLocal`: the part of a name after its colon.
* `lexNumber`, `lexWord`, `lexVariable`: tokens that end where the next octet cannot extend them.
* `lexForeign`: all of them, by their first octet.
-/

namespace RdfExport
namespace NTriples

open Rdf

/-- The size of an ill-formed prefix of size `n` together with the octet that spoils it, which a
prefix of several octets does not count. -/
def illSize (b : UInt8) (n : Nat) : Nat := if (Utf8.lead? b).isSome then n + 1 else n

/-- The first octets that `p` holds of, counted, and the others. -/
def spanSize (p : Char → Bool) (bytes : Bytes) : Nat × Bytes :=
  let run := bytes.takeWhile fun b => p (Char.ofUInt8 b)
  (run.length, bytes.drop run.length)

/-- The exponent of a number, whose first octet is number `size`. -/
def lexExponent (ended hasDigits : Bool) (size : Nat) (bytes : Bytes) : Lexeme :=
  let sign := if bytes.head?.any (fun b => b = octet '+' || b = octet '-') then 1 else 0
  let (digits, rest) := spanSize Char.isDigit (bytes.drop sign)
  if bytes.isEmpty || (rest.isEmpty && !ended) then .wait
  else if digits = 0 || !hasDigits then .fault .badNumber (size + sign + digits)
  else .token .foreign (size + sign + digits)

/-- A number: a sign, digits, a point and more digits, an exponent. A point without digits after
it is not part of it. -/
def lexNumber (ended : Bool) (bytes : Bytes) : Lexeme :=
  let sign := if bytes.head?.any (fun b => b = octet '+' || b = octet '-') then 1 else 0
  let (whole, afterWhole) := spanSize Char.isDigit (bytes.drop sign)
  let wholeToken : Lexeme :=
    if whole = 0 then .fault .badNumber (sign + whole) else .token .foreign (sign + whole)
  match afterWhole with
  | [] => if ended then wholeToken else .wait
  | b :: rest =>
    let (point, fraction, left) :=
      if b = octet '.' then
        let (n, left) := spanSize Char.isDigit rest
        (1, n, left)
      else (0, 0, b :: rest)
    let size := sign + whole + point + fraction
    match left with
    | [] =>
      if !ended then .wait
      else if fraction = 0 then wholeToken else .token .foreign size
    | e :: more =>
      if e = octet 'e' || e = octet 'E' then
        lexExponent ended (0 < whole || 0 < fraction) (size + 1) more
      else if 0 < fraction then .token .foreign size
      else wholeToken

def isLocalEscape (c : Char) : Bool :=
  c = '_' || c = '~' || c = '.' || c = '-' || c = '!' || c = '$' || c = '&' || c = '\'' ||
    c = '(' || c = ')' || c = '*' || c = '+' || c = ',' || c = ';' || c = '=' || c = '/' ||
    c = '?' || c = '#' || c = '@' || c = '%'

/-- Two hexadecimal digits after a percent sign. -/
def isHexPair (a b : UInt8) : Bool := Hex.isDigit (Char.ofUInt8 a) && Hex.isDigit (Char.ofUInt8 b)

/-- The part of a name after its colon, as far as it is read: the octets of the token, the
characters of the part, and the dots at its end, with and without those that are escaped. -/
structure LocalPart where
  size : Nat
  chars : Nat
  dots : Nat
  bareDots : Nat

namespace LocalPart

/-- A part of which nothing is read, `size` octets into the token. -/
def start (size : Nat) : LocalPart := ⟨size, 0, 0, 0⟩

/-- One more character, of `n` octets. -/
def add (p : LocalPart) (c : Char) (n : Nat) : LocalPart :=
  if c = '.' then ⟨p.size + n, p.chars + 1, p.dots + 1, p.bareDots + 1⟩
  else ⟨p.size + n, p.chars + 1, 0, 0⟩

/-- An octet after a backslash. -/
def addEscaped (p : LocalPart) (b : UInt8) : LocalPart :=
  ⟨p.size + 2, p.chars + 1, if b = octet '.' then p.dots + 1 else 0, 0⟩

/-- The count of characters of the part before an octet that does not belong to it. Dots at its
end do not belong to it either. -/
def stop (p : LocalPart) : Scan Nat := .done (p.chars - p.bareDots) (p.size - p.bareDots)

/-- The count of characters of the part at the end of the input, where no dot at its end belongs
to it, not even an escaped one, of which the backslash stays. -/
def stopAtEnd (p : LocalPart) : Scan Nat := .done (p.chars - p.dots) (p.size - p.dots)

end LocalPart

/-- The part of a name after its colon; `p` is read. A lenient reader lets any octet be escaped. -/
def scanLocal (mode : Mode) (ended : Bool) (p : LocalPart) : Bytes → Scan Nat
  | [] => if ended then p.stopAtEnd else .wait
  | b :: rest =>
    match Utf8.head b rest with
    | .ill n => .fault .notUtf8 (p.size + illSize b n)
    | .cut => if ended then p.stopAtEnd else .wait
    | .char c n =>
      if c = '%' then
        match rest with
        | x :: y :: more =>
          if isHexPair x y then
            scanLocal mode ended ⟨p.size + 3, p.chars + 3, 0, 0⟩ more
          else .fault .badName (p.size + 3)
        | _ => .wait
      else if c = '\\' then
        match rest with
        | x :: more =>
          if mode = .lenient || isLocalEscape (Char.ofUInt8 x) then
            scanLocal mode ended (p.addEscaped x) more
          else .fault .badName (p.size + 2)
        | [] => .wait
      else if
        if p.chars = 0 then isNameStart c || c = ':'
        else isNameChar c || c = '-' || c = ':' || c = '.'
      then scanLocal mode ended (p.add c n) (rest.drop (n - 1))
      else p.stop
  termination_by bytes => bytes.length
  decreasing_by all_goals simp; try omega

/-- A name whose part after the colon starts `size` octets into the token. -/
def lexLocal (mode : Mode) (ended : Bool) (size : Nat) (rest : Bytes) : Lexeme :=
  match scanLocal mode ended (.start size) rest with
  | .done _ size => .token .foreign size
  | .fault f size => .fault f size
  | .wait => .wait

/-- A keyword, or the part of a name before its colon, `size` octets into the token, of which the
last `dots` are dots. -/
def scanWord (mode : Mode) (ended : Bool) (size dots : Nat) : Bytes → Lexeme
  | [] => if ended then .token .foreign (size - dots) else .wait
  | b :: rest =>
    match Utf8.head b rest with
    | .ill n => .fault .notUtf8 (size + illSize b n)
    | .cut =>
      if !ended then .wait
      else if size = 0 then .fault (.unexpectedOctet b) 1
      else .token .foreign (size - dots)
    | .char c n =>
      if c = ':' then
        if 0 < dots then .fault .badName (size + n)
        else lexLocal mode ended (size + n) (rest.drop (n - 1))
      else if size = 0 then
        if isNameBase c then scanWord mode ended n 0 (rest.drop (n - 1))
        else .fault (.unexpectedOctet b) n
      else if isNameChar c || c = '-' then scanWord mode ended (size + n) 0 (rest.drop (n - 1))
      else if c = '.' then scanWord mode ended (size + n) (dots + 1) (rest.drop (n - 1))
      else .token .foreign (size - dots)
  termination_by bytes => bytes.length
  decreasing_by all_goals simp; try omega

/-- A keyword or a prefixed name. -/
def lexWord (mode : Mode) (ended : Bool) (bytes : Bytes) : Lexeme := scanWord mode ended 0 0 bytes

/-- A variable after its question mark, which needs a name. -/
def lexVariable (mode : Mode) (ended : Bool) (rest : Bytes) : Lexeme :=
  match scanLocal mode ended (.start 1) rest with
  | .done chars size => if chars = 0 then .fault .badName size else .token .foreign size
  | .fault f size => .fault f size
  | .wait => .wait

/-- `<<`, which waits for a parenthesis that may belong to it; `rest` starts with the second `<`. -/
def lexOpening (rest : Bytes) : Lexeme :=
  match rest.drop 1 with
  | [] => .wait
  | c :: _ => .token .foreign (if c = octet '(' then 3 else 2)

/-- A bracket that is a longer token with `second` after it. -/
def lexPair (second : Char) : Bytes → Lexeme
  | [] => .wait
  | c :: _ => .token .foreign (if c = octet second then 2 else 1)

/-- A closing parenthesis, perhaps with two angle brackets after it. -/
def lexClosing : Bytes → Lexeme
  | [] => .wait
  | c :: rest =>
    if c != octet '>' then .token .foreign 1
    else
      match rest with
      | [] => .wait
      | d :: _ => .token .foreign (if d = octet '>' then 3 else 1)

/-- The token that starts with `b` and that no statement holds. -/
def lexForeign (mode : Mode) (ended : Bool) (b : UInt8) (rest : Bytes) : Lexeme :=
  let c := Char.ofUInt8 b
  if c.isDigit || c = '+' || c = '-' then lexNumber ended (b :: rest)
  else if c = '?' then lexVariable mode ended rest
  else if c = '>' then lexPair '>' rest
  else if c = ')' then lexClosing rest
  else if c = '{' then lexPair '|' rest
  else if c = '|' then lexPair '}' rest
  else if c = '=' then lexPair '>' rest
  else if c = '(' || c = '[' || c = ']' || c = '}' || c = ',' || c = ';' || c = '!' || c = '~' then
    .token .foreign 1
  else lexWord mode ended (b :: rest)

end NTriples
end RdfExport
