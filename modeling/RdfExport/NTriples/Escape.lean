import RdfExport.NTriples.Token
import RdfExport.Rdf.Term.Escape

/-!
# RdfExport.NTriples.Escape

Escapes inside the tokens of N-Triples. A character beyond the first plane may be named by two
escapes, if the reader is lenient.

* `lexEscape`: the escape at hand, a fault, or the need of more octets.
-/

namespace RdfExport
namespace NTriples

open Rdf

/-- What follows a backslash: a character and the size of its name. -/
inductive Escape where
  | char (c : Char) (size : Nat)
  | fault (size : Nat)
  | wait

def isHighSurrogate (n : Nat) : Bool := 0xD800 ≤ n && n ≤ 0xDBFF

def isLowSurrogate (n : Nat) : Bool := 0xDC00 ≤ n && n ≤ 0xDFFF

/-- The character beyond the first plane that two surrogates stand for. -/
def surrogatePair? (high low : Nat) : Option Char :=
  if isHighSurrogate high && isLowSurrogate low then
    some (Char.ofNat (0x10000 + (high - 0xD800) * 0x400 + (low - 0xDC00)))
  else none

/-- A character whose first half is `high`. The second half stands in an escape of its own, which
is left in place if the two make up no character. -/
def lexSecondHalf (high : Nat) : Bytes → Escape
  | b :: k :: rest =>
    if b != octet '\\' || k != octet 'u' then .fault 5
    else if (rest.take 4).length < 4 then .wait
    else
      match (hexNumber? 4 (rest.map Char.ofUInt8)).bind (surrogatePair? high) with
      | some c => .char c 11
      | none => .fault 5
  | _ => .wait

/-- The escape after a backslash. Letters name characters only if `letters` is set. -/
def lexEscape (mode : Mode) (letters : Bool) : Bytes → Escape
  | [] => .wait
  | k :: rest =>
    match numberEscape? (Char.ofUInt8 k) with
    | some n =>
      if (rest.take n).length < n then .wait
      else
        match hexNumber? n ((rest.take n).map Char.ofUInt8) with
        | some v =>
          match Hex.scalar? v with
          | some c => .char c (n + 1)
          | none =>
            if mode = .lenient && n = 4 then lexSecondHalf v (rest.drop n) else .fault (n + 1)
        | none => .fault (n + 1)
    | none =>
      match letterEscape? (Char.ofUInt8 k) with
      | some c => if letters then .char c 1 else .fault 1
      | none => .fault 1

end NTriples
end RdfExport
