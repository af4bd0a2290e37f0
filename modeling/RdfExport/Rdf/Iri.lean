import RdfExport.Net.Ipv6

/-!
# RdfExport.Rdf.Iri

IRIs (RFC 3987). An `Iri` holds any text; `isAbsoluteIri` is the grammar of absolute ones: a
scheme and a colon, after `//` an authority, then a path, a query and a fragment.

* `Iri`: the name of a resource.
* `isAbsoluteIri`: whether a text is an absolute IRI.
-/

namespace RdfExport
namespace Rdf

/-- The name of a resource. The text is what a reader delivered, checked or not. -/
structure Iri where
  text : String
  deriving DecidableEq

def isSubDelim (c : Char) : Bool :=
  c = '!' || c = '$' || c = '&' || c = '\'' || c = '(' || c = ')' || c = '*' || c = '+' ||
    c = ',' || c = ';' || c = '='

/-- Unreserved characters of ASCII. -/
def isAsciiUnreserved (c : Char) : Bool :=
  c.isAlphanum || c = '-' || c = '.' || c = '_' || c = '~'

/-- Characters beyond ASCII that an IRI may hold anywhere (`ucschar`). -/
def isUcsChar (c : Char) : Bool :=
  let n := c.toNat
  (0xA0 ≤ n && n ≤ 0xD7FF) || (0xF900 ≤ n && n ≤ 0xFDCF) || (0xFDF0 ≤ n && n ≤ 0xFFEF) ||
    (0x10000 ≤ n && n ≤ 0xDFFFD && n % 0x10000 ≤ 0xFFFD) || (0xE1000 ≤ n && n ≤ 0xEFFFD)

/-- Private-use characters, which only a query may hold. -/
def isPrivateChar (c : Char) : Bool :=
  let n := c.toNat
  (0xE000 ≤ n && n ≤ 0xF8FF) || (0xF0000 ≤ n && n ≤ 0xFFFFD) || (0x100000 ≤ n && n ≤ 0x10FFFD)

def isIriUnreserved (c : Char) : Bool := isAsciiUnreserved c || isUcsChar c

def isHostChar (c : Char) : Bool := isIriUnreserved c || isSubDelim c

/-- A text of characters that `allowed` holds of and of `%` with two hexadecimal digits. -/
def isEncodedText (allowed : Char → Bool) : List Char → Bool
  | [] => true
  | '%' :: a :: b :: rest => Hex.isDigit a && Hex.isDigit b && isEncodedText allowed rest
  | c :: rest => c != '%' && allowed c && isEncodedText allowed rest

def isPathChar (c : Char) : Bool := isHostChar c || c = ':' || c = '@' || c = '/'

def isQueryChar (c : Char) : Bool := isPathChar c || c = '?' || isPrivateChar c

def isFragmentChar (c : Char) : Bool := isPathChar c || c = '?'

/-- A text up to the first character that `stop` holds of, and what follows that character. -/
def cutAt (stop : Char → Bool) (cs : List Char) : List Char × Option (List Char) :=
  match cs.dropWhile (!stop ·) with
  | [] => (cs, none)
  | _ :: rest => (cs.takeWhile (!stop ·), some rest)

/-- A path with an optional query and an optional fragment. -/
def isPathQueryFragment (cs : List Char) : Bool :=
  let (body, fragment) := cutAt (· = '#') cs
  let (path, query) := cutAt (· = '?') body
  isEncodedText isPathChar path && (query.all (isEncodedText isQueryChar ·)) &&
    (fragment.all (isEncodedText isFragmentChar ·))

/-- Address forms of later versions: `v`, a version, a dot and the address. -/
def isFutureAddress : List Char → Bool
  | v :: rest =>
    match cutAt (· = '.') rest with
    | (version, some address) =>
      (v = 'v' || v = 'V') && !version.isEmpty && version.all Hex.isDigit && !address.isEmpty &&
        address.all (fun c => isAsciiUnreserved c || isSubDelim c || c = ':')
    | (_, none) => false
  | [] => false

/-- Nothing, or a colon and any number of digits. -/
def isPortPart : List Char → Bool
  | [] => true
  | c :: rest => c = ':' && rest.all Char.isDigit

/-- A host, which may be empty or an address in brackets, with an optional port. -/
def isHostPort : List Char → Bool
  | '[' :: rest =>
    match cutAt (· = ']') rest with
    | (address, some port) =>
      (isFutureAddress address || (Net.Ipv6.parse? address).isSome) && isPortPart port
    | (_, none) => false
  | cs => isEncodedText isHostChar (cs.takeWhile (· != ':')) && isPortPart (cs.dropWhile (· != ':'))

/-- An authority: user information before an `@`, if there is any, then host and port. -/
def isAuthority (cs : List Char) : Bool :=
  let plain (c : Char) : Bool := c != '@' && c != '['
  match cs.dropWhile plain with
  | '@' :: host =>
    isEncodedText (fun c => isHostChar c || c = ':') (cs.takeWhile plain) && isHostPort host
  | _ => isHostPort cs

/-- What follows the scheme and its colon. -/
def isHierPart : List Char → Bool
  | '/' :: '/' :: rest =>
    let stop (c : Char) : Bool := c = '/' || c = '?' || c = '#'
    isAuthority (rest.takeWhile (!stop ·)) && isPathQueryFragment (rest.dropWhile (!stop ·))
  | cs => isPathQueryFragment cs

/-- Characters of a scheme after its first letter. -/
def isSchemeChar (c : Char) : Bool := c.isAlphanum || c = '+' || c = '-' || c = '.'

/-- Whether a text is an absolute IRI. -/
def isAbsoluteIri : List Char → Bool
  | [] => false
  | c :: cs =>
    c.isAlpha &&
      match cs.dropWhile isSchemeChar with
      | ':' :: rest => isHierPart rest
      | _ => false

end Rdf
end RdfExport
