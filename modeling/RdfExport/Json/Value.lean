/-!
# RdfExport.Json.Value

JSON documents as they are written: members in order and with repetition, numbers as text.

* `Json`: a document. A string is `none` if one of its escapes names half a character only; such
  a string may stand where nobody reads it.
* `Json.text?`, `Json.bool?`, `Json.nat?`: what a document says, if it is of that kind.
* `Json.lone?`, `Json.entry?`: a named value, in an object and in an object or array.
* `Json.choice?`: the name of a choice.
-/

namespace RdfExport

inductive Json where
  | null
  | bool (b : Bool)
  | number (text : List Char)
  | string (text : Option String)
  | array (items : List Json)
  | object (members : List (Option String × Json))

namespace Json

/-- The document of a string. -/
def str (s : String) : Json := .string (some s)

/-- The document of a natural number. -/
def nat (n : Nat) : Json := .number (Nat.toDigits 10 n)

def text? : Json → Option String
  | .string t => t
  | _ => none

def bool? : Json → Option Bool
  | .bool b => some b
  | _ => none

/-- The value of decimal digits. -/
def digits (cs : List Char) : Nat := cs.foldl (fun n c => n * 10 + (c.toNat - '0'.toNat)) 0

/-- A number written with digits only, below `bound`. -/
def nat? (bound : Nat) : Json → Option Nat
  | .number cs =>
    if cs.all Char.isDigit && digits cs < bound then some (digits cs) else none
  | _ => none

def array? : Json → Option (List Json)
  | .array items => some items
  | _ => none

/-- What a reader makes of the member of a name: `missing` without one. More than one, or one that
the reader refuses, is no answer. -/
def lone? {α : Type} (members : List (Option String × Json)) (name : String) (missing : Option α)
    (read : Json → Option α) : Option α :=
  match members.filter (·.1 == some name) with
  | [] => missing
  | [m] => read m.2
  | _ => none

/-- Whether a document can hold named values: an array, or an object whose names are all text. -/
def isRecord : Json → Bool
  | .array _ => true
  | .object members => members.all (·.1.isSome)
  | _ => false

/-- What a reader makes of a named value: of the only member of the name in an object, of the item
at the index in an array, and `missing` where there is none. -/
def entry? {α : Type} (j : Json) (index : Nat) (name : String) (missing : Option α)
    (read : Json → Option α) : Option α :=
  match j with
  | .object members => lone? members name missing read
  | .array items =>
    match items[index]? with
    | some v => read v
    | none => missing
  | _ => none

/-- Text, or `null` for none. -/
def optionalText? : Json → Option (Option String)
  | .null => some none
  | .string t => t.map some
  | _ => none

/-- The name of a choice, written as a string or as the only name of an object, with `null`. -/
def choice? : Json → Option String
  | .string t => t
  | .object [(name, .null)] => name
  | _ => none

end Json
end RdfExport
