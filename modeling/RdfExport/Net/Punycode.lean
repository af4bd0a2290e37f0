/-!
# RdfExport.Net.Punycode

Punycode: any text as ASCII letters, digits and hyphens. The ASCII characters come first, then
numbers that say where the other characters go, written in base 36 with digits whose weight
depends on the numbers before.

* `Punycode.encode`: the written form of a text.
* `Punycode.decode?`: the text of a written form.
-/

namespace RdfExport
namespace Net
namespace Punycode

/-- How far the code point and the place of the next insertion are, and what follows from the
insertions before. -/
structure State where
  code : Nat
  place : Nat
  bias : Nat
  first : Bool

def State.initial : State := ⟨0x80, 0, 72, true⟩

/-- The least value of a digit that more digits follow, for the digit of weight index `k`. -/
def threshold (bias k : Nat) : Nat := min 26 (max 1 (k - bias))

theorem threshold_pos (bias k : Nat) : 0 < threshold bias k := by unfold threshold; omega

def adaptFrom (k delta : Nat) : Nat :=
  if 455 < delta then adaptFrom (k + 36) (delta / 35) else k + 36 * delta / (delta + 38)
  termination_by delta
  decreasing_by omega

/-- The bias after a number `delta` that leaves `size` characters. -/
def adapt (delta size : Nat) (first : Bool) : Nat :=
  let d := if first then delta / 700 else delta / 2
  adaptFrom 0 (d + d / size)

def digitValue? (c : Char) : Option Nat :=
  if 'a' ≤ c ∧ c ≤ 'z' then some (c.toNat - 'a'.toNat)
  else if 'A' ≤ c ∧ c ≤ 'Z' then some (c.toNat - 'A'.toNat)
  else if '0' ≤ c ∧ c ≤ '9' then some (c.toNat - '0'.toNat + 26)
  else none

def digit (n : Nat) : Char := if n < 26 then Char.ofNat (0x61 + n) else Char.ofNat (0x16 + n)

/-- A number from its digits; the number and what follows it. Weights stay below 2³². -/
def readNumber (bias : Nat) : Nat → Nat → Nat → List Char → Option (Nat × List Char)
  | _, _, _, [] => none
  | k, weight, acc, c :: rest =>
    match digitValue? c with
    | none => none
    | some v =>
      if v < threshold bias k then some (acc + v * weight, rest)
      else
        let next := weight * (36 - threshold bias k)
        if next < Nat.pow 2 32 then readNumber bias (k + 36) next (acc + v * weight) rest else none

theorem readNumber_length {bias k weight acc n : Nat} {cs rest : List Char}
    (h : readNumber bias k weight acc cs = some (n, rest)) : rest.length < cs.length := by
  fun_induction readNumber bias k weight acc cs with
  | case1 | case2 | case5 => cases h
  | case3 k weight acc c rest v =>
    cases h
    exact Nat.lt_succ_self _
  | case4 k weight acc c rest v hvalue hv next hnext ih => exact Nat.lt_succ_of_lt (ih h)

/-- Inserts characters into a text, as numbers tell. Numbers stay below 2³². -/
def insertAll (s : State) (text : List Char) (cs : List Char) : Option (List Char) :=
  if cs.isEmpty then some text
  else
    match _h : readNumber s.bias 36 1 0 cs with
    | none => none
    | some (delta, rest) =>
      let size := text.length + 1
      let place := s.place + delta
      let code := s.code + place / size
      if place < Nat.pow 2 32 ∧ code.isValidChar then
        let index := place % size
        insertAll ⟨code, index + 1, adapt delta size s.first, false⟩
          (text.take index ++ Char.ofNat code :: text.drop index) rest
      else none
  termination_by cs.length
  decreasing_by exact readNumber_length _h

/-- The text before the last hyphen, and the text after it. A hyphen that has nothing before it
separates nothing. -/
def splitLast (cs : List Char) : List Char × List Char :=
  let tail := cs.reverse.takeWhile (· ≠ '-')
  let basic := (cs.reverse.drop (tail.length + 1)).reverse
  (basic, if basic.isEmpty then cs else tail.reverse)

/-- The text of a written form. -/
def decode? (cs : List Char) : Option (List Char) :=
  let parts := splitLast cs
  insertAll .initial parts.1 parts.2

/-- A number in digits. -/
def writeNumber (bias : Nat) (k n : Nat) : List Char :=
  if n < threshold bias k then [digit n]
  else
    digit (threshold bias k + (n - threshold bias k) % (36 - threshold bias k)) ::
      writeNumber bias (k + 36) ((n - threshold bias k) / (36 - threshold bias k))
  termination_by n
  decreasing_by
    have h := threshold_pos bias k
    have := Nat.div_le_self (n - threshold bias k) (36 - threshold bias k)
    omega

/-- A written form while it grows: what is written, the steps since the last insertion, and how
many characters are in. -/
structure Writing where
  out : List Char
  delta : Nat
  bias : Nat
  size : Nat
  first : Bool

/-- Passes over one character, or writes its insertion if it has the code point. -/
def Writing.visit (code : Nat) (w : Writing) (c : Char) : Writing :=
  if c.toNat < code then { w with delta := w.delta + 1 }
  else if c.toNat = code then
    ⟨w.out ++ writeNumber w.bias 36 w.delta, 0, adapt w.delta (w.size + 1) w.first, w.size + 1,
      false⟩
  else w

/-- Writes the insertions of the code points, given in ascending order. -/
def Writing.visitAll (text : List Char) : Nat → List Nat → Writing → Writing
  | _, [], w => w
  | next, code :: codes, w =>
    let w := { w with delta := w.delta + (code - next) * (w.size + 1) }
    let w := text.foldl (visit code) w
    visitAll text (code + 1) codes { w with delta := w.delta + 1 }

/-- The written form of a text. -/
def encode (text : List Char) : List Char :=
  let basic := text.filter (·.toNat < 0x80)
  let codes := ((text.map Char.toNat).filter (0x80 ≤ ·)).mergeSort.eraseDups
  let start := if basic.isEmpty then [] else basic ++ ['-']
  (Writing.visitAll text 0x80 codes ⟨start, 0, 72, basic.length, true⟩).out

end Punycode
end Net
end RdfExport
