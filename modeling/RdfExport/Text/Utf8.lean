/-!
# RdfExport.Text.Utf8

Octets and UTF-8. A text arrives as octets that need not be well formed, so a reader meets one of
three things at each place: a character, an ill-formed prefix that no continuation could mend, or
a character that the end of the octets cuts short.

* `head`: what a non-empty octet sequence starts with.
* `decode`: the characters, or the first place that holds none (`Fault`).
* `decodeLossy`: the characters, with U+FFFD for each ill-formed prefix.
* `encode`: the octets of characters.
-/

namespace RdfExport

/-- Octets as they travel over a connection or into a file. -/
abbrev Bytes := List UInt8

/-- The octet of an ASCII character. -/
def octet (c : Char) : UInt8 := c.toUInt8

namespace Utf8

/-- What a first octet beyond ASCII announces: how many octets follow, the high bits it holds,
and the range of the octet right after it. -/
structure Lead where
  follow : Nat
  bits : Nat
  low : UInt8
  high : UInt8

/-- The first octets that may start a character of two or more octets. -/
def lead? (b : UInt8) : Option Lead :=
  if 0xC2 ≤ b ∧ b ≤ 0xDF then some ⟨1, b.toNat % 0x20, 0x80, 0xBF⟩
  else if b = 0xE0 then some ⟨2, 0x0, 0xA0, 0xBF⟩
  else if b = 0xED then some ⟨2, 0xD, 0x80, 0x9F⟩
  else if 0xE1 ≤ b ∧ b ≤ 0xEF then some ⟨2, b.toNat % 0x10, 0x80, 0xBF⟩
  else if b = 0xF0 then some ⟨3, 0, 0x90, 0xBF⟩
  else if 0xF1 ≤ b ∧ b ≤ 0xF3 then some ⟨3, b.toNat % 8, 0x80, 0xBF⟩
  else if b = 0xF4 then some ⟨3, 4, 0x80, 0x8F⟩
  else none

/-- What octets start with: a character and its size, an ill-formed prefix and its size, or a
character of which only some octets are there. -/
inductive Head where
  | char (c : Char) (size : Nat)
  | ill (size : Nat)
  | cut

/-- Reads `n` more octets of a character of which `size` octets gave `code`. -/
def continuation : Nat → UInt8 → UInt8 → Nat → Nat → Bytes → Head
  | 0, _, _, code, size, _ => .char (Char.ofNat code) size
  | _ + 1, _, _, _, _, [] => .cut
  | n + 1, low, high, code, size, b :: rest =>
    if low ≤ b ∧ b ≤ high then
      continuation n 0x80 0xBF (code * 64 + b.toNat % 64) (size + 1) rest
    else .ill size

/-- What the octets `b :: rest` start with. -/
def head (b : UInt8) (rest : Bytes) : Head :=
  if b < 0x80 then .char (Char.ofNat b.toNat) 1
  else match lead? b with
    | none => .ill 1
    | some l => continuation l.follow l.low l.high l.bits 1 rest

/-- Where octets stop being UTF-8. -/
inductive Fault where
  | ill (size index : Nat)
  | cut (index : Nat)
  deriving DecidableEq

def Fault.message : Fault → String
  | .ill size index => s!"invalid utf-8 sequence of {size} bytes from index {index}"
  | .cut index => s!"incomplete utf-8 byte sequence from index {index}"

/-- The characters of octets that start at `index` of a larger sequence. -/
def decodeFrom (index : Nat) : Bytes → Except Fault (List Char)
  | [] => .ok []
  | b :: rest =>
    match head b rest with
    | .char c size =>
      match decodeFrom (index + size) (rest.drop (size - 1)) with
      | .ok cs => .ok (c :: cs)
      | .error f => .error f
    | .ill size => .error (.ill size index)
    | .cut => .error (.cut index)
  termination_by bytes => bytes.length
  decreasing_by simp only [List.length_drop, List.length_cons]; omega

/-- The characters of octets, or the first fault. -/
def decode (bytes : Bytes) : Except Fault (List Char) := decodeFrom 0 bytes

/-- The characters of octets, each ill-formed prefix read as one U+FFFD. -/
def decodeLossy : Bytes → List Char
  | [] => []
  | b :: rest =>
    match head b rest with
    | .char c size => c :: decodeLossy (rest.drop (size - 1))
    | .ill size => '\uFFFD' :: decodeLossy (rest.drop (size - 1))
    | .cut => ['\uFFFD']
  termination_by bytes => bytes.length
  decreasing_by all_goals simp only [List.length_drop, List.length_cons]; omega

/-- The octets of characters. -/
def encode (cs : List Char) : Bytes := cs.flatMap String.utf8EncodeChar

/-- The octets of a string. -/
def ofString (s : String) : Bytes := encode s.toList

/-- The string that octets spell, if they are UTF-8. -/
def toString? (bytes : Bytes) : Option String :=
  match decode bytes with
  | .ok cs => some (String.ofList cs)
  | .error _ => none

end Utf8
end RdfExport
