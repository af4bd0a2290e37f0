import RdfExport.Net.Idna.Classes
import RdfExport.Net.Idna.Mapping
import RdfExport.Net.Punycode
import RdfExport.Text.Normal

/-!
# RdfExport.Net.Idna

Host names in ASCII. A name is mapped, normalized and cut into labels. Each label is checked, and
one that holds characters beyond ASCII is written in Punycode after `xn--`.

* `Idna.isValidLabel`: the rules for one label.
* `Idna.isOrdered`: the rule for labels of names that hold right-to-left text.
* `Idna.toAscii?`: the ASCII form of a host name.
-/

namespace RdfExport
namespace Net
namespace Idna

open Text

def isAscii (c : Char) : Bool := c.toNat < 0x80

/-- Whether a character may stand in a label. -/
def isLabelChar (c : Char) : Bool := !Mapping.isMapped c && (isAscii c || !Mapping.isDisallowed c)

/-- Whether the letters around a place are joined there: one that is joined with the next before
it, given from the end, and one that is joined with the one before after it. -/
def areJoined (before after : List Char) : Bool :=
  let visible (cs : List Char) : Option JoiningType :=
    (cs.dropWhile (joiningType · == .transparent)).head?.map joiningType
  (visible before == some .left || visible before == some .dual) &&
    (visible after == some .right || visible after == some .dual)

/-- Whether a joiner after a text, given from its end, has something to do: it follows a virama,
or it keeps apart letters that would be joined. -/
def isJoinerAllowed (before : List Char) (c : Char) (after : List Char) : Bool :=
  (before.head?.any fun b => combiningClass b == 9) || (c == '\u200C' && areJoined before after)

/-- Whether all joiners of a text are allowed, after a text given from its end. -/
def areJoinersAllowed (before : List Char) : List Char → Bool
  | [] => true
  | c :: rest =>
    (!isJoiner c || isJoinerAllowed before c rest) && areJoinersAllowed (c :: before) rest

/-- How many characters a label may have that needs Punycode. -/
def maxLabel : Nat := 1000

/-- How many characters a label in Punycode may have after its mark. -/
def maxWritten : Nat := 2000

/-- Whether a label is well formed. -/
def isValidLabel (label : List Char) : Bool :=
  label.all isLabelChar && !label.head?.any isMark && areJoinersAllowed [] label &&
    (label.all isAscii || label.length ≤ maxLabel)

/-- Whether a label holds right-to-left text. -/
def isRightToLeft (label : List Char) : Bool :=
  label.any fun c => bidiClass c == .r || bidiClass c == .al || bidiClass c == .an

/-- Whether a label begins and ends such that its direction is clear, and holds only what goes
with that direction. -/
def isOrdered (label : List Char) : Bool :=
  let classes := label.map bidiClass
  let last := (classes.reverse.dropWhile (· == .nsm)).head?
  let weak : List BidiClass := [.en, .es, .cs, .et, .on, .bn, .nsm]
  match classes.head? with
  | none => true
  | some .l =>
    classes.all (fun k => (BidiClass.l :: weak).contains k) && (last == some .l || last == some .en)
  | some first =>
    (first == .r || first == .al) &&
      classes.all (fun k => (BidiClass.r :: .al :: .an :: weak).contains k) &&
      (last == some .r || last == some .al || last == some .en || last == some .an) &&
      !(classes.contains .en && classes.contains .an)

/-- What marks a label in Punycode. -/
def mark : List Char := ['x', 'n', '-', '-']

/-- The label that a label in Punycode stands for. It must need Punycode, and be what mapping
would leave as it is. -/
def readLabel (label : List Char) : Option (List Char) :=
  if mark.isPrefixOf label then
    let written := label.drop mark.length
    let isReadable := written.all isAscii && written.length ≤ maxWritten
    match if isReadable then Punycode.decode? written else none with
    | none => none
    | some text => if text.all isAscii || normalize text != text then none else some text
  else some label

def writeLabel (label : List Char) : List Char :=
  if label.all isAscii then label else mark ++ Punycode.encode label

/-- The ASCII form of a host name. -/
def toAscii? (name : List Char) : Option (List Char) :=
  match ((normalize (name.flatMap Mapping.chars)).splitOn '.').mapM readLabel with
  | none => none
  | some labels =>
    if labels.all isValidLabel && (!labels.any isRightToLeft || labels.all isOrdered) then
      some (['.'].intercalate (labels.map writeLabel))
    else none

end Idna
end Net
end RdfExport
