import RdfExport.Proofs.Projection

/-!
# RdfExport.Proofs.Call.Log

What a call does to its surroundings, action by action.

* `Action`: an action together with its outcome.
* `Environment.logged`: the same environment, which also keeps a log.
* `Environment.logged_projects`: nobody notices the log.
-/

namespace RdfExport

/-- An action of a call on its surroundings, and its outcome. -/
inductive Action where
  /-- Opens the output. -/
  | opened (outcome : Except ExportError Unit)
  /-- Makes the sink, told which toggles are on. -/
  | sinkMade (toggles : Toggles) (outcome : Except ExportError Unit)
  /-- Signs a request for a region. -/
  | signed (region : String) (request : Http.Request) (outcome : Except ExportError Http.Request)
  /-- Sends a request for a user agent. -/
  | sent (agent : String) (request : Http.Request) (answer : Except IoError Http.Response)
  /-- Offers a record to the sink. -/
  | offered (record : Record) (outcome : Except ExportError Unit)
  /-- Tells the sink that there are no more records. -/
  | finished (outcome : Except ExportError Unit)
  | sinkDropped
  /-- Closes the output. -/
  | closed (outcome : Except IoError Unit)

abbrev Log := List Action

variable {ω α : Type}

/-- An action that enters itself into the log. -/
def Log.enter (act : ω → α × ω) (entry : α → Action) (s : ω × Log) : α × (ω × Log) :=
  ((act s.1).1, (act s.1).2, s.2 ++ [entry (act s.1).1])

def Log.pass (act : ω → α × ω) (s : ω × Log) : α × (ω × Log) :=
  ((act s.1).1, (act s.1).2, s.2)

def Sink.logged (sink : Sink ω) : Sink (ω × Log) where
  accept record := Log.enter (sink.accept record) (.offered record)
  finish := Log.enter sink.finish .finished

/-- The same target with a log. What the sink writes to the output is the sink's own affair. -/
def Target.logged (t : Target ω) : Target (ω × Log) where
  output := { put := fun bytes => Log.pass (t.output.put bytes), flush := Log.pass t.output.flush }
  openOutput := Log.enter t.openOutput .opened
  openSink toggles := Log.enter (t.openSink toggles) (.sinkMade toggles)
  sink := t.sink.logged
  dropSink s := (t.dropSink s.1, s.2 ++ [.sinkDropped])
  closeOutput := Log.enter t.closeOutput .closed

def Environment.logged (env : Environment ω) : Environment (ω × Log) where
  target := env.target.logged
  send agent request := Log.enter (env.send agent request) (.sent agent request)
  sign region request := Log.enter (env.sign region request) (.signed region request)
  draw n := Log.pass (env.draw n)

theorem Sink.logged_projects (sink : Sink ω) : sink.logged.Projects Prod.fst sink where
  accept _ _ := rfl
  finish _ := rfl

theorem Environment.logged_projects (env : Environment ω) : env.logged.Projects Prod.fst env where
  openOutput _ := rfl
  openSink _ _ := rfl
  sink := Sink.logged_projects env.target.sink
  dropSink _ := rfl
  closeOutput _ := rfl
  send _ _ _ := rfl
  sign _ _ _ := rfl
  draw _ _ := rfl

end RdfExport
