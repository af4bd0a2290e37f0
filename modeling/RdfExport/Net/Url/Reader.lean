import RdfExport.Net.Url

/-!
# RdfExport.Net.Url.Reader

Reading URLs as browsers do: white space around is dropped, tabs and line ends anywhere are
dropped, a backslash is a slash, dot segments are resolved, and what may not stand for itself is
percent-encoded.

* `Url.parse`: a URL from its text.
* `Url.join`: a reference from inside a document.
-/

namespace RdfExport
namespace Net
namespace Url

/-- The ASCII characters of `extra` and the controls, the space and all beyond ASCII are encoded. -/
def encodeFor (extra : String) (cs : List Char) : List Char :=
  Percent.encodeUnless
    (fun b => 0x20 < b && b < 0x7F && !extra.toList.contains (Char.ofUInt8 b)) (Utf8.encode cs)

def encodeUser : List Char → List Char := encodeFor "\"#<>?`\x7b\x7d/:;=@[\\]^|"

def encodeSegment : List Char → List Char := encodeFor "\"#<>?`\x7b\x7d"

def encodeQuery : List Char → List Char := encodeFor "\"#<>'"

def encodeFragment : List Char → List Char := encodeFor "\"<>`"

def isSlash (c : Char) : Bool := c == '/' || c == '\\'

/-- Whether a character ends the authority of a URL. -/
def endsAuthority (c : Char) : Bool := isSlash c || c == '?' || c == '#'

/-- The text without controls and spaces around it, and without tabs and line ends. -/
def clean (text : List Char) : List Char :=
  let outer (c : Char) : Bool := c.toNat ≤ 0x20
  let inner := ((text.dropWhile outer).reverse.dropWhile outer).reverse
  inner.filter fun c => c != '\t' && c != '\n' && c != '\r'

/-- The scheme of a text, in lowercase, and what follows its colon. -/
def splitScheme (text : List Char) : Option (List Char × List Char) :=
  let isSchemeChar (c : Char) : Bool := c.isAlphanum || c == '+' || c == '-' || c == '.'
  let name := text.takeWhile isSchemeChar
  match name, text.dropWhile isSchemeChar with
  | c :: _, ':' :: rest => if c.isAlpha then some (name.map Char.toLower, rest) else none
  | _, _ => none

/-- The text before the last `@`, if there is one, and the text after it. -/
def splitUser (text : List Char) : Option (List Char) × List Char :=
  let tail := (text.reverse.takeWhile (· ≠ '@')).reverse
  if tail.length = text.length then (none, text)
  else (some (text.take (text.length - tail.length - 1)), tail)

/-- A name and a password around the first colon. An empty password is none. -/
def readUser (text : List Char) : UserInfo :=
  let name := encodeUser (text.takeWhile (· ≠ ':'))
  match text.dropWhile (· ≠ ':') with
  | _ :: c :: rest => ⟨name, some (encodeUser (c :: rest))⟩
  | _ => ⟨name, none⟩

/-- The text before the first colon outside brackets, and the text from it on. -/
def splitHost : Bool → List Char → List Char × List Char
  | _, [] => ([], [])
  | bracketed, c :: rest =>
    if c = ':' ∧ !bracketed then ([], c :: rest)
    else
      let p := splitHost (if c = '[' then true else if c = ']' then false else bracketed) rest
      (c :: p.1, p.2)

/-- The port after a host: nothing, or a colon and perhaps digits. The scheme's own port is not
kept. -/
def readPort (scheme : Scheme) (text : List Char) : Except UrlFault (Option Nat) :=
  match text with
  | ':' :: c :: rest =>
    match Ipv4.digits? 10 (c :: rest) with
    | none => .error .badPort
    | some n =>
      if 65535 < n then .error .badPort
      else .ok (if n = scheme.defaultPort then none else some n)
  | _ => .ok none

def readAuthority (scheme : Scheme) (text : List Char) : Except UrlFault Authority :=
  let parts := splitUser text
  let host := splitHost false parts.2
  match Host.parse host.1 with
  | .error f => .error f
  | .ok h =>
    match readPort scheme host.2 with
    | .error f => .error f
    | .ok port => .ok ⟨(parts.1.map readUser).getD ⟨[], none⟩, h, port⟩

/-- A segment with the encoded dots spelled out. -/
def plainDots : List Char → List Char
  | '%' :: '2' :: c :: rest =>
    if c = 'e' ∨ c = 'E' then '.' :: plainDots rest else '%' :: '2' :: c :: rest
  | '.' :: rest => '.' :: plainDots rest
  | cs => cs

/-- Whether a segment looks like a drive, such as `c:` or `c|`. -/
def isDrive : List Char → Bool
  | [c, d] => c.isAlpha && (d == ':' || d == '|')
  | _ => false

/-- The segments of the parent. A drive has no parent. -/
def parent (segments : List (List Char)) : List (List Char) :=
  if segments.getLast?.any isDrive then segments else segments.dropLast

/-- The segments with the dot segments resolved, after segments that are already there. -/
def resolve (before : List (List Char)) : List (List Char) → List (List Char)
  | [] => before
  | [last] =>
    if plainDots last = ['.', '.'] then parent before ++ [[]]
    else if plainDots last = ['.'] then before ++ [[]]
    else before ++ [last]
  | s :: rest =>
    if plainDots s = ['.', '.'] then resolve (parent before) rest
    else if plainDots s = ['.'] then resolve before rest
    else resolve (before ++ [s]) rest

/-- The segments of a path given without its first slash. -/
def segments (text : List Char) : List (List Char) :=
  (text.splitOnP isSlash).map encodeSegment

/-- A path with its query and fragment. -/
structure Tail where
  path : List Char
  query : Option (List Char)
  fragment : Option (List Char)

/-- Splits what follows an authority. -/
def splitTail (text : List Char) : Tail :=
  let main := text.takeWhile (· ≠ '#')
  let fragment := (text.dropWhile (· ≠ '#')).tail?.map encodeFragment
  ⟨main.takeWhile (· ≠ '?'), (main.dropWhile (· ≠ '?')).tail?.map encodeQuery, fragment⟩

/-- A URL of an authority and what follows it. -/
def withTail (scheme : Scheme) (authority : Authority) (text : List Char) : Url :=
  let t := splitTail text
  let path := match t.path with
    | [] => [[]]
    | c :: rest => resolve [] (segments (if isSlash c then rest else c :: rest))
  ⟨scheme, authority, path, t.query, t.fragment⟩

/-- The URL of a scheme and what follows the slashes. -/
def readAbsolute (scheme : Scheme) (text : List Char) : Except UrlFault Url :=
  match readAuthority scheme (text.takeWhile (!endsAuthority ·)) with
  | .ok a => .ok (withTail scheme a (text.dropWhile (!endsAuthority ·)))
  | .error f => .error f

/-- The scheme of a name. -/
def scheme? (name : List Char) : Option Scheme :=
  if name = Scheme.http.name.toList then some .http
  else if name = Scheme.https.name.toList then some .https
  else none

/-- The URL that a text is. -/
def parse (text : String) : Except UrlFault Url :=
  match splitScheme (clean text.toList) with
  | none => .error .noScheme
  | some (name, rest) =>
    match scheme? name with
    | none => .error .otherScheme
    | some scheme => readAbsolute scheme (rest.dropWhile isSlash)

/-- The URL that a text without a scheme refers to from a base. -/
def joinPath (base : Url) (text : List Char) : Except UrlFault Url :=
  match text with
  | [] => .ok { base with fragment := none }
  | c :: rest =>
    if isSlash c then
      match rest with
      | d :: more =>
        if isSlash d then readAbsolute base.scheme (more.dropWhile isSlash)
        else .ok (withTail base.scheme base.authority text)
      | [] => .ok (withTail base.scheme base.authority text)
    else
      let t := splitTail text
      if c = '#' then .ok { base with fragment := t.fragment }
      else if c = '?' then .ok { base with query := t.query, fragment := t.fragment }
      else
        .ok { base with
          path := resolve base.path.dropLast (segments t.path)
          query := t.query
          fragment := t.fragment }

/-- The URL that a reference means in a document of a base. -/
def join (base : Url) (reference : String) : Except UrlFault Url :=
  let text := clean reference.toList
  match splitScheme text with
  | none => joinPath base text
  | some (name, rest) =>
    match scheme? name with
    | none => .error .otherScheme
    | some scheme =>
      if scheme = base.scheme ∧ (rest.takeWhile isSlash).length < 2 then joinPath base rest
      else readAbsolute scheme (rest.dropWhile isSlash)

end Url
end Net
end RdfExport
