import RdfExport.Text.Hex
import RdfExport.Text.Hidden

/-!
# RdfExport.Text.Quoted

A text in double quotes, as messages show a name or a field: the two characters with a meaning
inside the quotes are escaped, and a character that would not be seen is shown by its number.

* `escape`: how one character is shown.
* `quoted`: a whole text.
-/

namespace RdfExport
namespace Text

/-- A character by its number, such as `\u{301}`. -/
def byNumber (c : Char) : List Char := '\\' :: 'u' :: '\x7b' :: Hex.render c.toNat ++ ['\x7d']

/-- How one character is shown between quotes. -/
def escape (c : Char) : List Char :=
  if c = '\x00' then ['\\', '0']
  else if c = '\t' then ['\\', 't']
  else if c = '\n' then ['\\', 'n']
  else if c = '\r' then ['\\', 'r']
  else if c = '"' then ['\\', '"']
  else if c = '\\' then ['\\', '\\']
  else if c.toNat < 0x20 ∨ c.toNat = 0x7F then byNumber c
  else if c.toNat < 0x7F then [c]
  else if isHidden c then byNumber c
  else [c]

/-- A text between double quotes. -/
def quoted (s : String) : String :=
  String.ofList ('"' :: s.toList.flatMap escape ++ ['"'])

end Text
end RdfExport
