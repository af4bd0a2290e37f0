/-!
# RdfExport.Text.Hex

Hexadecimal digits.

* `value?` and `upper`/`lower`: a digit's value and back.
* `read`: a fixed count of digits at the start of a text.
* `render`: a number without leading zeros.
-/

namespace RdfExport
namespace Hex

/-- The value of a hexadecimal digit of either case. -/
def value? (c : Char) : Option Nat :=
  if '0' ≤ c ∧ c ≤ '9' then some (c.toNat - '0'.toNat)
  else if 'a' ≤ c ∧ c ≤ 'f' then some (c.toNat - 'a'.toNat + 10)
  else if 'A' ≤ c ∧ c ≤ 'F' then some (c.toNat - 'A'.toNat + 10)
  else none

def isDigit (c : Char) : Bool := (value? c).isSome

/-- The digit for a value below 16, in uppercase. -/
def upper (n : Nat) : Char := if n < 10 then Char.ofNat (0x30 + n) else Char.ofNat (0x37 + n)

/-- The digit for a value below 16, in lowercase. -/
def lower (n : Nat) : Char := if n < 10 then Char.ofNat (0x30 + n) else Char.ofNat (0x57 + n)

/-- Reads exactly `n` digits after a number `acc`; the value and what follows them. -/
def read : Nat → Nat → List Char → Option (Nat × List Char)
  | 0, acc, cs => some (acc, cs)
  | _ + 1, _, [] => none
  | n + 1, acc, c :: cs =>
    match value? c with
    | some v => read n (acc * 16 + v) cs
    | none => none

/-- The scalar value that a number names, if it names one. -/
def scalar? (n : Nat) : Option Char := if n.isValidChar then some (Char.ofNat n) else none

/-- A number in lowercase digits without leading zeros. -/
def render (n : Nat) : List Char := Nat.toDigits 16 n

/-- A number in four uppercase digits, for numbers below 16⁴. -/
def render4 (n : Nat) : List Char :=
  [upper (n / 4096 % 16), upper (n / 256 % 16), upper (n / 16 % 16), upper (n % 16)]

end Hex
end RdfExport
