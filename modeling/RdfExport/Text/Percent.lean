import RdfExport.Text.Hex
import RdfExport.Text.Utf8

/-!
# RdfExport.Text.Percent

Percent encoding: an octet that may not stand for itself is written as `%` and two uppercase
hexadecimal digits.

* `encode`: a text for a query string, only unreserved characters standing for themselves.
* `formEncode`: a text for a form body, where a space is a plus sign.
* `decode`: the octets that an encoded text stands for.
-/

namespace RdfExport
namespace Percent

def encodeOctet (b : UInt8) : List Char :=
  ['%', Hex.upper (b.toNat / 16), Hex.upper (b.toNat % 16)]

/-- Encodes all octets but those that `keep` holds of; it must hold of ASCII octets only. -/
def encodeUnless (keep : UInt8 → Bool) (bytes : Bytes) : List Char :=
  bytes.flatMap fun b => if keep b then [Char.ofUInt8 b] else encodeOctet b

/-- The unreserved characters of a URI: letters, digits and `- . _ ~`. -/
def isUnreserved (b : UInt8) : Bool :=
  let c := Char.ofUInt8 b
  c.isAlphanum || c = '-' || c = '.' || c = '_' || c = '~'

/-- A text for one value of a query string. -/
def encode (s : String) : String := String.ofList (encodeUnless isUnreserved (Utf8.ofString s))

/-- The characters that stand for themselves in a form body. -/
def isFormPlain (b : UInt8) : Bool :=
  let c := Char.ofUInt8 b
  c.isAlphanum || c = '*' || c = '-' || c = '.' || c = '_'

/-- A text for one value of a form body. -/
def formEncode (s : String) : String :=
  String.ofList <| (Utf8.ofString s).flatMap fun b =>
    if isFormPlain b then [Char.ofUInt8 b] else if b = 0x20 then ['+'] else encodeOctet b

/-- The octets that an encoded text stands for; a `%` without two digits stands for itself. -/
def decode : Bytes → Bytes
  | [] => []
  | 0x25 :: a :: b :: rest =>
    match Hex.value? (Char.ofUInt8 a), Hex.value? (Char.ofUInt8 b) with
    | some x, some y => UInt8.ofNat (x * 16 + y) :: decode rest
    | _, _ => 0x25 :: decode (a :: b :: rest)
  | b :: rest => b :: decode rest

end Percent
end RdfExport
