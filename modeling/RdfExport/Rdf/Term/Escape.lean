import RdfExport.Text.Hex

/-!
# RdfExport.Rdf.Term.Escape

The escapes that the readers of terms share.

* `letterEscape?`: the character that a backslash and a letter stand for.
* `hexChar?`: the character that digits name.
-/

namespace RdfExport
namespace Rdf

/-- The character that a backslash and `c` stand for. -/
def letterEscape? (c : Char) : Option Char :=
  if c = 't' then some '\t'
  else if c = 'b' then some '\x08'
  else if c = 'n' then some '\n'
  else if c = 'r' then some '\r'
  else if c = 'f' then some '\x0C'
  else if c = '"' then some '"'
  else if c = '\'' then some '\''
  else if c = '\\' then some '\\'
  else none

/-- How many digits the escape that `c` names has: four after `\u`, eight after `\U`. -/
def numberEscape? (c : Char) : Option Nat :=
  if c = 'u' then some 4 else if c = 'U' then some 8 else none

/-- The first `n` characters as a hexadecimal number. -/
def hexNumber? (n : Nat) (cs : List Char) : Option Nat := (Hex.read n 0 cs).map (·.1)

/-- The character that the first `n` characters name as a hexadecimal number. -/
def hexChar? (n : Nat) (cs : List Char) : Option Char := (hexNumber? n cs).bind Hex.scalar?

end Rdf
end RdfExport
