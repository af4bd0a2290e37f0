import RdfExport.Error
import RdfExport.Json.Value
import RdfExport.Text.Blank

/-!
# RdfExport.Toggle

Feature toggles: switches between strategies that deliver the same export.

* `Toggle.parse`: a toggle by its name, in any case and with white space around it.
* `Toggles`: the set of toggles that are on.
-/

namespace RdfExport

inductive Toggle where
  /-- Export by tuple queries instead of the Graph Store Protocol. -/
  | noGsp
  deriving DecidableEq

def Toggle.name : Toggle → String
  | .noGsp => "No_GSP"

/-- A toggle by its name in a JSON document, where case counts. -/
def Toggle.ofJson? (j : Json) : Option Toggle :=
  j.choice?.bind fun name => [Toggle.noGsp].find? (·.name == name)

def Toggle.toJson (t : Toggle) : Json := .str t.name

def Toggle.parse (s : String) : Except ExportError Toggle :=
  let name := Text.trimmed s
  if name.toList.map Char.toLower = Toggle.noGsp.name.toList.map Char.toLower then .ok .noGsp
  else .error (.config (.unknownToggle name))

/-- A set of toggles, without repetition. -/
structure Toggles where
  enabled : List Toggle
  deriving DecidableEq

namespace Toggles

def none : Toggles := ⟨[]⟩

def insert (ts : Toggles) (t : Toggle) : Toggles :=
  if ts.enabled.contains t then ts else ⟨ts.enabled ++ [t]⟩

def ofList (l : List Toggle) : Toggles := l.foldl insert none

def contains (ts : Toggles) (t : Toggle) : Bool := ts.enabled.contains t

def isEmpty (ts : Toggles) : Bool := ts.enabled.isEmpty

/-- The set of the toggles with these names; the first unknown name is an error. -/
def parse (names : List String) : Except ExportError Toggles := (names.mapM Toggle.parse).map ofList

/-- The set of the toggles in an array. -/
def ofJson? (j : Json) : Option Toggles :=
  j.array?.bind fun items => (items.mapM Toggle.ofJson?).map ofList

def toJson (ts : Toggles) : Json := .array (ts.enabled.map Toggle.toJson)

end Toggles
end RdfExport
