import RdfExport.Json.Value
import RdfExport.Text.Hex

/-!
# RdfExport.Json.Reader

Reading a JSON document (RFC 8259).

* `Json.readString`, `Json.readNumber`, `Json.readValue`: a part of a document and what follows.
* `Json.parse?`: a text that is one document with white space around it.
-/

namespace RdfExport
namespace Json

def isSpace (c : Char) : Bool := c = ' ' || c = '\t' || c = '\n' || c = '\r'

def skipSpace (cs : List Char) : List Char := cs.dropWhile isSpace

/-- The character that a backslash and one letter stand for. -/
def letterEscape? (c : Char) : Option Char :=
  if c = '"' then some '"'
  else if c = '\\' then some '\\'
  else if c = '/' then some '/'
  else if c = 'b' then some '\x08'
  else if c = 'f' then some '\x0C'
  else if c = 'n' then some '\n'
  else if c = 'r' then some '\r'
  else if c = 't' then some '\t'
  else none

/-- The number of four hexadecimal digits. -/
def unit? (cs : List Char) : Option Nat := (Hex.read 4 0 cs).map (·.1)

/-- The character that the units `high` and `low` spell together. -/
def joinUnits? (high low : Nat) : Option Char :=
  if 0xD800 ≤ high && high ≤ 0xDBFF && 0xDC00 ≤ low && low ≤ 0xDFFF then
    some (Char.ofNat (0x10000 + (high - 0xD800) * 0x400 + (low - 0xDC00)))
  else none

/-- What stands after `\u`: a character, or `none` for half of one, and the size of its name. -/
def readUnits (cs : List Char) : Option (Option Char × Nat) :=
  match unit? cs with
  | none => none
  | some u =>
    match Hex.scalar? u with
    | some c => some (some c, 4)
    | none =>
      match cs.drop 4 with
      | '\\' :: 'u' :: rest =>
        match unit? rest with
        | some v =>
          match joinUnits? u v with
          | some c => some (some c, 10)
          | none => some (none, 4)
        | none => some (none, 4)
      | _ => some (none, 4)

/-- A string after its opening quote. -/
def readString : List Char → Option (Option (List Char) × List Char)
  | [] => none
  | '"' :: rest => some (some [], rest)
  | '\\' :: k :: rest =>
    match letterEscape? k with
    | some c => (readString rest).map fun p => (p.1.map (c :: ·), p.2)
    | none =>
      if k = 'u' then
        match readUnits rest with
        | some (some c, n) => (readString (rest.drop n)).map fun p => (p.1.map (c :: ·), p.2)
        | some (none, n) => (readString (rest.drop n)).map fun p => (none, p.2)
        | none => none
      else none
  | c :: rest =>
    if c.toNat < 0x20 || c = '\\' then none
    else (readString rest).map fun p => (p.1.map (c :: ·), p.2)
  termination_by cs => cs.length
  decreasing_by all_goals simp; try omega

/-- The digits at the start, if there are any, and what follows them. -/
def readDigits (cs : List Char) : Option (List Char × List Char) :=
  match cs.takeWhile Char.isDigit with
  | [] => none
  | ds => some (ds, cs.dropWhile Char.isDigit)

/-- The whole part of a number: no zero before other digits. -/
def readWhole : List Char → Option (List Char × List Char)
  | '0' :: rest => if rest.head?.any Char.isDigit then none else some (['0'], rest)
  | cs => readDigits cs

/-- The fraction of a number, which may be missing. -/
def readFraction : List Char → Option (List Char × List Char)
  | '.' :: rest => (readDigits rest).map fun p => ('.' :: p.1, p.2)
  | cs => some ([], cs)

/-- The sign of an exponent, which may be missing. -/
def readSign : List Char → List Char × List Char
  | '+' :: rest => (['+'], rest)
  | '-' :: rest => (['-'], rest)
  | cs => ([], cs)

/-- The exponent of a number, which may be missing. -/
def readExponent : List Char → Option (List Char × List Char)
  | [] => some ([], [])
  | e :: rest =>
    if e = 'e' || e = 'E' then
      let (sign, after) := readSign rest
      (readDigits after).map fun p => (e :: sign ++ p.1, p.2)
    else some ([], e :: rest)

/-- A number without its minus sign. -/
def readUnsigned (cs : List Char) : Option (List Char × List Char) :=
  match readWhole cs with
  | none => none
  | some (whole, afterWhole) =>
    match readFraction afterWhole with
    | none => none
    | some (fraction, afterFraction) =>
      match readExponent afterFraction with
      | none => none
      | some (exponent, left) => some (whole ++ fraction ++ exponent, left)

/-- A number. -/
def readNumber : List Char → Option (Json × List Char)
  | '-' :: rest => (readUnsigned rest).map fun p => (.number ('-' :: p.1), p.2)
  | cs => (readUnsigned cs).map fun p => (.number p.1, p.2)

/-- A document without parts. -/
def readLeaf : List Char → Option (Json × List Char)
  | 'n' :: 'u' :: 'l' :: 'l' :: rest => some (.null, rest)
  | 't' :: 'r' :: 'u' :: 'e' :: rest => some (.bool true, rest)
  | 'f' :: 'a' :: 'l' :: 's' :: 'e' :: rest => some (.bool false, rest)
  | '"' :: rest => (readString rest).map fun p => (.string (p.1.map String.ofList), p.2)
  | cs => readNumber cs

mutual

/-- A document of which `fuel` bounds the parts within each other, and what follows it. -/
def readValue : Nat → List Char → Option (Json × List Char)
  | 0, _ => none
  | fuel + 1, cs =>
    match skipSpace cs with
    | '[' :: rest =>
      match skipSpace rest with
      | ']' :: after => some (.array [], after)
      | _ => (readItems fuel rest).map fun p => (.array p.1, p.2)
    | '{' :: rest =>
      match skipSpace rest with
      | '}' :: after => some (.object [], after)
      | _ => (readMembers fuel rest).map fun p => (.object p.1, p.2)
    | leaf => readLeaf leaf

/-- The items of an array from the next one on. -/
def readItems : Nat → List Char → Option (List Json × List Char)
  | 0, _ => none
  | fuel + 1, cs =>
    match readValue fuel cs with
    | none => none
    | some (v, after) =>
      match skipSpace after with
      | ',' :: rest => (readItems fuel rest).map fun p => (v :: p.1, p.2)
      | ']' :: rest => some ([v], rest)
      | _ => none

/-- The members of an object from the next one on. -/
def readMembers : Nat → List Char → Option (List (Option String × Json) × List Char)
  | 0, _ => none
  | fuel + 1, cs =>
    match skipSpace cs with
    | '"' :: rest =>
      match readString rest with
      | none => none
      | some (key, afterKey) =>
        match skipSpace afterKey with
        | ':' :: value =>
          match readValue fuel value with
          | none => none
          | some (v, after) =>
            let member := (key.map String.ofList, v)
            match skipSpace after with
            | ',' :: rest => (readMembers fuel rest).map fun p => (member :: p.1, p.2)
            | '}' :: rest => some ([member], rest)
            | _ => none
        | _ => none
    | _ => none

end

/-- The document that a text is. -/
def parse? (cs : List Char) : Option Json :=
  match readValue (cs.length + 1) cs with
  | some (v, rest) => if (skipSpace rest).isEmpty then some v else none
  | none => none

/-- The document that a string is. -/
def ofString? (s : String) : Option Json := parse? s.toList

end Json
end RdfExport
