import RdfExport.Error

/-!
# RdfExport.Sink

Where decoded records go. A sink is a state machine that may refuse any record, and says why.

* `Record`: a row of a result table or a statement.
* `Sink`: what a receiver does with a record and at the end of all records.
-/

namespace RdfExport

open Rdf

inductive Record where
  | row (bindings : Bindings)
  | statement (triple : Triple)
  deriving DecidableEq

/-- The outcome of an action on a state `σ`: done or failed, and the state after it. -/
abbrev Outcome (σ : Type) := Except ExportError Unit × σ

/-- A receiver of records with a state `σ`. -/
structure Sink (σ : Type) where
  accept : Record → σ → Outcome σ
  finish : σ → Outcome σ

end RdfExport
