import RdfExport.Text.Hex

/-!
# RdfExport.Text.CodeRange

Tables of character properties. A table is written as lines of entries; an entry is a code point
or a range of them in hexadecimal digits, perhaps with values after an equals sign.

* `CodeRange`: an entry.
* `CodeRange.ofLines`: the entries of a table.
-/

namespace RdfExport
namespace Text

structure CodeRange where
  first : Nat
  last : Nat
  values : List Nat

namespace CodeRange

def contains (r : CodeRange) (n : Nat) : Bool := r.first ≤ n && n ≤ r.last

/-- The number that hexadecimal digits spell. -/
def number (digits : List Char) : Nat :=
  digits.foldl (fun n c => n * 16 + (Hex.value? c).getD 0) 0

/-- An entry: `AC`, `AC-AF`, either perhaps followed by `=` and values between dots. -/
def read (entry : List Char) : CodeRange :=
  let range := entry.takeWhile (· ≠ '=')
  let first := range.takeWhile (· ≠ '-')
  let last := range.drop (first.length + 1)
  let values := entry.drop (range.length + 1)
  ⟨number first, if last.isEmpty then number first else number last,
    if values.isEmpty then [] else (values.splitOn '.').map number⟩

/-- The entries of lines, which stand between spaces. -/
def ofLines (lines : List String) : List CodeRange :=
  lines.flatMap fun line => (line.toList.splitOn ' ').map read

end CodeRange
end Text
end RdfExport
