import RdfExport.Text.Hex

/-!
# RdfExport.Net.Ipv4

IPv4 addresses as URLs write them: one to four numbers between dots, each decimal, octal (after
`0`) or hexadecimal (after `0x`), where the last number fills all octets that are left.

* `Ipv4.number?`: one number.
* `Ipv4.endsInNumber`: whether a host is meant to be an address.
* `Ipv4.parse?`, `Ipv4.render`: an address as a number below 2³², and its usual text.
-/

namespace RdfExport
namespace Net
namespace Ipv4

/-- The number that digits of a base below 17 spell. -/
def digits? (base : Nat) (cs : List Char) : Option Nat :=
  cs.foldlM
    (fun n c =>
      match Hex.value? c with
      | some v => if v < base then some (n * base + v) else none
      | none => none)
    0

/-- One number. A lone prefix `0x` is zero. -/
def number? (cs : List Char) : Option Nat :=
  match cs with
  | [] => none
  | '0' :: 'x' :: rest => digits? 16 rest
  | '0' :: 'X' :: rest => digits? 16 rest
  | '0' :: rest => digits? 8 rest
  | cs => digits? 10 cs

/-- The fields between dots, without an empty one at the end. -/
def fields (host : List Char) : List (List Char) :=
  let fs := host.splitOn '.'
  if 1 < fs.length && fs.getLast? == some [] then fs.dropLast else fs

/-- Whether the last field of a host is a number, or at least digits only. -/
def endsInNumber (host : List Char) : Bool :=
  match (fields host).getLast? with
  | none => false
  | some f => (!f.isEmpty && f.all Char.isDigit) || (number? f).isSome

/-- The address of numbers: all but the last are octets, and the last fills the rest. -/
def ofNumbers? : List Nat → Option Nat
  | [] => none
  | numbers =>
    let octets := numbers.dropLast
    let last := numbers.getLastD 0
    if octets.all (· < 256) && last < Nat.pow 256 (4 - octets.length) then
      some (octets.foldl (fun n o => n * 256 + o) 0 * Nat.pow 256 (4 - octets.length) + last)
    else none

/-- The address that a host is, given as a number below 2³². -/
def parse? (host : List Char) : Option Nat :=
  let fs := fields host
  if 4 < fs.length then none else (fs.mapM number?).bind ofNumbers?

/-- Four decimal numbers between dots. -/
def render (address : Nat) : List Char :=
  let octet (i : Nat) : List Char := Nat.toDigits 10 (address / Nat.pow 256 i % 256)
  octet 3 ++ '.' :: octet 2 ++ '.' :: octet 1 ++ '.' :: octet 0

end Ipv4
end Net
end RdfExport
