import RdfExport.Text.Composition

/-!
# RdfExport.Text.Normal

Unicode's normalization form C: characters are taken apart, marks are put in order, and what can
be composed is composed again.

* `normalize`: the normal form of a text.
-/

namespace RdfExport
namespace Text

/-- A character taken apart, in up to `depth` steps. -/
def takeApart : Nat → Char → List Char
  | 0, c => [c]
  | depth + 1, c =>
    match parts? c with
    | some (a, b) => takeApart depth a ++ [b]
    | none => [c]

/-- No character is composed of more than four. -/
def compositionDepth : Nat := 3

/-- Adds a character to a text given from its end, before the marks of a higher rank. -/
def insertMark (c : Char) : List Char → List Char
  | [] => [c]
  | d :: rest =>
    if combiningClass c ≠ 0 ∧ combiningClass c < combiningClass d then d :: insertMark c rest
    else c :: d :: rest

/-- The text with its marks in order. -/
def orderMarks (cs : List Char) : List Char :=
  (cs.foldl (fun text c => insertMark c text) []).reverse

/-- Whether a character comes too late to be composed with the one before the marks, which are
given from their end. -/
def isBlocked (marks : List Char) (c : Char) : Bool :=
  match marks with
  | [] => false
  | m :: _ => combiningClass c ≤ combiningClass m

/-- Composes a text that starts with `base` and `marks`, the marks given from their end. -/
def composeFrom (base : Char) (marks : List Char) : List Char → List Char
  | [] => base :: marks.reverse
  | c :: rest =>
    match if isBlocked marks c then none else composite? base c with
    | some whole => composeFrom whole marks rest
    | none =>
      if combiningClass c = 0 then base :: marks.reverse ++ composeFrom c [] rest
      else composeFrom base (c :: marks) rest

/-- Composes a text. -/
def compose : List Char → List Char
  | [] => []
  | c :: rest => composeFrom c [] rest

/-- The normal form of a text. -/
def normalize (cs : List Char) : List Char :=
  compose (orderMarks (cs.flatMap (takeApart compositionDepth)))

end Text
end RdfExport
