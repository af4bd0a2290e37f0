import RdfExport.Text.Utf8

/-!
# RdfExport.Text.Base64

Base64: three octets are four digits of six bits each. Where only one or two octets are left, the
missing digits are padding.

* `digit`: the digit for six bits.
* `encode`: octets as digits.
-/

namespace RdfExport
namespace Base64

/-- The digit for a value below 64. -/
def digit (n : Nat) : Char :=
  if n < 26 then Char.ofNat ('A'.toNat + n)
  else if n < 52 then Char.ofNat ('a'.toNat + (n - 26))
  else if n < 62 then Char.ofNat ('0'.toNat + (n - 52))
  else if n = 62 then '+'
  else '/'

/-- The digits of octets, with padding at the end. -/
def encode : Bytes → List Char
  | [] => []
  | [a] => [digit (a.toNat / 4), digit (a.toNat % 4 * 16), '=', '=']
  | [a, b] =>
    [digit (a.toNat / 4), digit (a.toNat % 4 * 16 + b.toNat / 16), digit (b.toNat % 16 * 4), '=']
  | a :: b :: c :: rest =>
    digit (a.toNat / 4) :: digit (a.toNat % 4 * 16 + b.toNat / 16) ::
      digit (b.toNat % 16 * 4 + c.toNat / 64) :: digit (c.toNat % 64) :: encode rest

example : encode (Utf8.ofString "user:") = "dXNlcjo=".toList := by decide +kernel

end Base64
end RdfExport
