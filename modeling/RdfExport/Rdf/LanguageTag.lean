/-!
# RdfExport.Rdf.LanguageTag

Well-formed language tags (RFC 5646): a grandfathered tag, a private one (`x-…`), or subtags in
the order language, extended languages, script, region, variants, extensions, private use.

* `Stage`: what the subtags read so far allow next.
* `isLanguageTag`: whether a text is a well-formed tag.
-/

namespace RdfExport
namespace Rdf

/-- The tags that RFC 5646 lists by name, in lowercase. -/
def grandfatheredTags : List String := [
  "en-gb-oed", "i-ami", "i-bnn", "i-default", "i-enochian", "i-hak", "i-klingon", "i-lux",
  "i-mingo", "i-navajo", "i-pwn", "i-tao", "i-tay", "i-tsu", "sgn-be-fr", "sgn-be-nl",
  "sgn-ch-de", "art-lojban", "cel-gaulish", "no-bok", "no-nyn", "zh-guoyu", "zh-hakka", "zh-min",
  "zh-min-nan", "zh-xiang"]

/-- Which part of a tag the subtags read so far end in. -/
inductive Stage where
  | language (extended : Nat)
  | extendedLanguage
  | script
  | region
  | extension (filled : Bool)
  | privateUse (filled : Bool)
  deriving DecidableEq

/-- Whether a tag may end here: an extension and a private part need a subtag. -/
def Stage.isFinal : Stage → Bool
  | .extension filled => filled
  | .privateUse filled => filled
  | _ => true

/-- Whether an extended language may follow, and how many there are. -/
def Stage.extended? : Stage → Option Nat
  | .language n => some n
  | _ => none

def Stage.beforeScript : Stage → Bool
  | .language _ => true
  | .extendedLanguage => true
  | _ => false

def Stage.beforeRegion (s : Stage) : Bool := s.beforeScript || s = .script

def Stage.beforeVariant (s : Stage) : Bool := s.beforeRegion || s = .region

/-- Variants have five to eight characters, or four to eight when the first is a digit. -/
def isVariant (t : List Char) : Bool :=
  t.all Char.isAlphanum &&
    ((5 ≤ t.length && t.head?.any Char.isAlpha) || (4 ≤ t.length && t.head?.any Char.isDigit))

/-- The stage after one more subtag, if the subtag may stand there. -/
def Stage.next (s : Stage) (t : List Char) : Option Stage :=
  if t.isEmpty || 8 < t.length then none
  else match s with
    | .privateUse _ => if t.all Char.isAlphanum then some (.privateUse true) else none
    | _ =>
      if t = ['x'] || t = ['X'] then
        if s.isFinal then some (.privateUse false) else none
      else if t.length = 1 && t.all Char.isAlphanum then
        if s.isFinal then some (.extension false) else none
      else match s with
        | .extension _ => if t.all Char.isAlphanum then some (.extension true) else none
        | _ =>
          if s.extended?.isSome && t.length = 3 && t.all Char.isAlpha then
            match s.extended? with
            | some n => if n < 3 then some (.language (n + 1)) else none
            | none => none
          else if s.beforeScript && t.length = 4 && t.all Char.isAlpha then some .script
          else if s.beforeRegion &&
              ((t.length = 2 && t.all Char.isAlpha) || (t.length = 3 && t.all Char.isDigit)) then
            some .region
          else if s.beforeVariant && isVariant t then some .region
          else none

/-- Reads subtags from a stage on. -/
def Stage.run (s : Stage) : List (List Char) → Option Stage
  | [] => some s
  | t :: ts =>
    match s.next t with
    | some s' => s'.run ts
    | none => none

/-- The stage after the first subtag: two to eight letters. -/
def Stage.ofLanguage? (t : List Char) : Option Stage :=
  if 2 ≤ t.length && t.length ≤ 8 && t.all Char.isAlpha then
    some (if t.length < 4 then .language 0 else .extendedLanguage)
  else none

/-- Whether a text is a well-formed language tag. -/
def isLanguageTag (cs : List Char) : Bool :=
  grandfatheredTags.contains (String.ofList (cs.map Char.toLower)) ||
    match cs.splitOn '-' with
    | [] => false
    | [_] => (Stage.ofLanguage? cs).isSome
    | first :: rest =>
      if first = ['x'] || first = ['X'] then ((Stage.privateUse false).run rest).any Stage.isFinal
      else
        match Stage.ofLanguage? first with
        | some s => (s.run rest).any Stage.isFinal
        | none => false

end Rdf
end RdfExport
