import RdfExport.Json.Value
import RdfExport.Text.Percent

/-!
# RdfExport.Query

What an endpoint is asked for.

* `QueryKind`: the kinds of requests and the formats of their answers.
* `GraphSelector`: which graph the Graph Store Protocol delivers.
* `completeExportQuery`, `namedGraphQuery`: the queries for all graphs and for one.
-/

namespace RdfExport

inductive QueryKind where
  | tuple
  | graph
  | graphStore
  deriving DecidableEq

namespace QueryKind

def name : QueryKind → String
  | .tuple => "tuple"
  | .graph => "graph"
  | .graphStore => "graph-store"

/-- The name in JSON documents. -/
def key : QueryKind → String
  | .tuple => "tuple"
  | .graph => "graph"
  | .graphStore => "graph_store"

def ofJson? (j : Json) : Option QueryKind :=
  j.choice?.bind fun name => [QueryKind.tuple, .graph, .graphStore].find? (·.key == name)

def toJson (k : QueryKind) : Json := .str k.key

/-- The media type of the answer. -/
def accept : QueryKind → String
  | .tuple => "text/tab-separated-values"
  | .graph => "application/n-triples"
  | .graphStore => "application/n-triples"

end QueryKind

/-- The default graph or the graph of a name. -/
inductive GraphSelector where
  | default
  | named (name : String)
  deriving DecidableEq

namespace GraphSelector

/-- The query string that selects a graph. -/
def queryString : GraphSelector → String
  | .default => "default"
  | .named name => "graph=" ++ Percent.encode name

/-- The selector for people: the name as it is. -/
def label : GraphSelector → String
  | .default => "default"
  | .named name => "graph=" ++ name

end GraphSelector

/-- Every statement of every named graph, with its graph. -/
def completeExportQuery : String := "SELECT * WHERE \x7b GRAPH ?g \x7b ?s ?p ?o \x7d \x7d"

/-- Every statement of one graph, with its graph. -/
def namedGraphQuery (graph : String) : String :=
  "SELECT * WHERE \x7b GRAPH ?g \x7b ?s ?p ?o \x7d FILTER(?g = <" ++ graph ++ ">) .\x7d"

end RdfExport
