import RdfExport.Net.Host

/-!
# RdfExport.Net.Url

HTTP and HTTPS URLs.

* `Url`: a URL by its parts, each in its written form.
* `Url.render`: the one text of a URL.
* `Url.effectivePort`: the port that a connection goes to.
* `UserInfo.credentials?`, `Url.withoutUser`: who asks, and the URL that does not tell.
-/

namespace RdfExport
namespace Net

inductive Scheme where
  | http
  | https
  deriving DecidableEq

def Scheme.name : Scheme → String
  | .http => "http"
  | .https => "https"

def Scheme.defaultPort : Scheme → Nat
  | .http => 80
  | .https => 443

/-- Who asks: a name and perhaps a password, both percent-encoded. -/
structure UserInfo where
  name : List Char
  password : Option (List Char)
  deriving DecidableEq

namespace UserInfo

/-- A name and a password, decoded. A password that is not UTF-8 counts as none; where the name is
not UTF-8, or is empty and without a password, there are no credentials. -/
def credentials? (user : UserInfo) : Option (String × Option String) :=
  let decode (part : List Char) := Utf8.toString? (Percent.decode (Utf8.encode part))
  match decode user.name, user.password.bind decode with
  | none, _ => none
  | some name, none => if name.isEmpty then none else some (name, none)
  | some name, some password => some (name, some password)

/-- What stays in a URL that is sent: credentials do not, anything else does. -/
def kept (user : UserInfo) : UserInfo := if user.credentials?.isSome then ⟨[], none⟩ else user

theorem kept_of_isSome {user : UserInfo} (h : user.credentials?.isSome) : user.kept = ⟨[], none⟩ :=
  if_pos h

theorem kept_of_none {user : UserInfo} (h : user.credentials? = none) : user.kept = user := by
  simp [kept, h]

@[simp] theorem kept_nobody : kept ⟨[], none⟩ = ⟨[], none⟩ := ite_self _

end UserInfo

/-- What a URL names before its path. The port is given where it is not the scheme's own. -/
structure Authority where
  user : UserInfo
  host : Host
  port : Option Nat
  deriving DecidableEq

/-- A URL. The path is given by its segments, of which there is at least one. -/
structure Url where
  scheme : Scheme
  authority : Authority
  path : List (List Char)
  query : Option (List Char)
  fragment : Option (List Char)
  deriving DecidableEq

namespace Url

/-- The port that a connection goes to. -/
def effectivePort (u : Url) : Nat := u.authority.port.getD u.scheme.defaultPort

def renderPort (u : Url) : List Char :=
  match u.authority.port with
  | none => []
  | some n => ':' :: Nat.toDigits 10 n

/-- The host, and the port where it is not the scheme's own. -/
def hostPort (u : Url) : List Char := u.authority.host.render ++ u.renderPort

def renderUser (u : UserInfo) : List Char :=
  match u.name, u.password with
  | [], none => []
  | name, none => name ++ ['@']
  | name, some password => name ++ ':' :: password ++ ['@']

def renderPath (u : Url) : List Char := u.path.flatMap ('/' :: ·)

/-- An optional part after its mark. -/
def renderPart (mark : Char) : Option (List Char) → List Char
  | none => []
  | some part => mark :: part

/-- The text of a URL. -/
def chars (u : Url) : List Char :=
  u.scheme.name.toList ++ "://".toList ++ renderUser u.authority.user ++ u.hostPort ++
    u.renderPath ++ renderPart '?' u.query ++ renderPart '#' u.fragment

def render (u : Url) : String := String.ofList u.chars

/-- The URL without the part that is never sent. -/
def withoutFragment (u : Url) : Url := { u with fragment := none }

/-- The URL without credentials. -/
def withoutUser (u : Url) : Url :=
  { u with authority := { u.authority with user := u.authority.user.kept } }

end Url
end Net
end RdfExport
