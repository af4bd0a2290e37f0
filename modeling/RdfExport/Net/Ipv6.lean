import RdfExport.Text.Hex

/-!
# RdfExport.Net.Ipv6

The text form of IPv6 addresses: eight groups of one to four hexadecimal digits between colons,
where `::` stands once for one or more groups of zero and the last two groups may be an IPv4
address in decimal.

* `Ipv6.parse?`: the eight groups of an address.
* `Ipv6.render`: the shortest text of eight groups.
-/

namespace RdfExport
namespace Net

/-- A decimal number below 256 without leading zeros. -/
def decimalOctet? (cs : List Char) : Option Nat :=
  if cs.isEmpty || 3 < cs.length || !cs.all Char.isDigit || (1 < cs.length && cs.head? == some '0')
  then none
  else
    let n := cs.foldl (fun n c => n * 10 + (c.toNat - '0'.toNat)) 0
    if n < 256 then some n else none

namespace Ipv6

/-- One group: one to four hexadecimal digits. -/
def group? (cs : List Char) : Option Nat :=
  if cs.isEmpty || 4 < cs.length then none else (Hex.read cs.length 0 cs).map (·.1)

/-- An IPv4 address as two groups. -/
def dotted? (cs : List Char) : Option (List Nat) :=
  match (cs.splitOn '.').mapM decimalOctet? with
  | some [a, b, c, d] => some [a * 256 + b, c * 256 + d]
  | _ => none

/-- The groups between colons; the last field may be an IPv4 address if `dotted` is set. -/
def groups? (dotted : Bool) : List (List Char) → Option (List Nat)
  | [] => some []
  | [last] =>
    match group? last with
    | some g => some [g]
    | none => if dotted then dotted? last else none
  | f :: fs =>
    match group? f, groups? dotted fs with
    | some g, some gs => some (g :: gs)
    | _, _ => none

/-- The groups of one side of `::`, which may be empty. -/
def side? (dotted : Bool) (cs : List Char) : Option (List Nat) :=
  if cs.isEmpty then some [] else groups? dotted (cs.splitOn ':')

/-- The text before and after the first `::`. -/
def splitGap : List Char → Option (List Char × List Char)
  | ':' :: ':' :: rest => some ([], rest)
  | c :: rest => (splitGap rest).map fun p => (c :: p.1, p.2)
  | [] => none

/-- The eight groups of an address. -/
def parse? (cs : List Char) : Option (List Nat) :=
  match splitGap cs with
  | none =>
    match groups? true (cs.splitOn ':') with
    | some gs => if gs.length = 8 then some gs else none
    | none => none
  | some (l, r) =>
    match side? false l, side? true r with
    | some gs, some hs =>
      if gs.length + hs.length ≤ 7 then
        some (gs ++ List.replicate (8 - gs.length - hs.length) 0 ++ hs)
      else none
    | _, _ => none

/-- The length of the run of zeros at the start. -/
def zeros (gs : List Nat) : Nat := (gs.takeWhile (· == 0)).length

/-- Where the first longest run of at least two zeros starts, and its length. -/
def longestGap (gs : List Nat) : Option (Nat × Nat) :=
  let runs := (List.range gs.length).map fun i => (i, zeros (gs.drop i))
  let best := runs.foldl (fun b r => if b.2 < r.2 then r else b) (0, 1)
  if 2 ≤ best.2 then some best else none

/-- The groups in lowercase, the first longest run of zeros as `::`. -/
def render (gs : List Nat) : List Char :=
  let join (gs : List Nat) : List Char := [':'].intercalate (gs.map Hex.render)
  match longestGap gs with
  | none => join gs
  | some (start, size) => join (gs.take start) ++ [':', ':'] ++ join (gs.drop (start + size))

end Ipv6
end Net
end RdfExport
