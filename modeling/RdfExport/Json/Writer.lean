import RdfExport.Json.Value
import RdfExport.Text.Hex

/-!
# RdfExport.Json.Writer

Writing a JSON document without white space.

* `Json.escapeChar`: a character in a string.
* `Json.write`: a document.
-/

namespace RdfExport
namespace Json

/-- A character in a string: the two with a meaning and the controls are escaped. -/
def escapeChar (c : Char) : List Char :=
  if c = '"' then ['\\', '"']
  else if c = '\\' then ['\\', '\\']
  else if c = '\x08' then ['\\', 'b']
  else if c = '\x0C' then ['\\', 'f']
  else if c = '\n' then ['\\', 'n']
  else if c = '\r' then ['\\', 'r']
  else if c = '\t' then ['\\', 't']
  else if c.toNat < 0x20 then
    ['\\', 'u', '0', '0', Hex.lower (c.toNat / 16), Hex.lower (c.toNat % 16)]
  else [c]

/-- A string in quotes. -/
def writeString (s : String) : List Char := '"' :: s.toList.flatMap escapeChar ++ ['"']

/-- A string of which an escape names half a character has no text; it is written empty. -/
def writeText (t : Option String) : List Char := writeString (t.getD "")

mutual

/-- A document without white space. -/
def write : Json → List Char
  | .null => ['n', 'u', 'l', 'l']
  | .bool true => ['t', 'r', 'u', 'e']
  | .bool false => ['f', 'a', 'l', 's', 'e']
  | .number cs => cs
  | .string t => writeText t
  | .array [] => ['[', ']']
  | .array (v :: vs) => '[' :: write v ++ writeItems vs
  | .object [] => ['{', '}']
  | .object ((k, v) :: ms) => '{' :: writeText k ++ ':' :: write v ++ writeMembers ms

/-- The items after the first, and the closing bracket. -/
def writeItems : List Json → List Char
  | [] => [']']
  | v :: vs => ',' :: write v ++ writeItems vs

/-- The members after the first, and the closing brace. -/
def writeMembers : List (Option String × Json) → List Char
  | [] => ['}']
  | (k, v) :: ms => ',' :: writeText k ++ ':' :: write v ++ writeMembers ms

end

/-- A document as a string. -/
def render (j : Json) : String := String.ofList (write j)

end Json
end RdfExport
