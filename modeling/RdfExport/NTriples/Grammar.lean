import RdfExport.NTriples.Lexer

/-!
# RdfExport.NTriples.Grammar

Statements from tokens. A statement stands on one line: subject, predicate, object, dot. After its
object it is complete, whatever follows. What follows may still be a fault, and then starts the
next statement.

* `Expect`: what the tokens read so far let come next.
* `Reply`: what a token, a line end or the end of the input makes of it.
* `Expect.onToken`, `Expect.onLineEnd`, `Expect.onEnd`: the replies.
* `Move`, `move`: one step over octets.
-/

namespace RdfExport
namespace NTriples

open Rdf

inductive Expect where
  | subject
  | predicate (s : Node)
  | object (s : Node) (p : Iri)
  | afterValue (s : Node) (p : Iri) (value : String)
  | datatype (s : Node) (p : Iri) (value : String)
  | dot (statement : Triple)
  | lineEnd
  /-- A fault has been found in the line, and the rest of it says nothing. -/
  | recovery
  deriving DecidableEq

/-- What is expected next, the statement that is complete, and the faults found, the latest
first. -/
structure Reply where
  expect : Expect
  statement : Option Triple
  faults : List Fault
  deriving DecidableEq

namespace Reply

/-- Nothing to report. -/
def quiet (e : Expect) : Reply := ⟨e, none, []⟩

/-- A fault that makes the rest of the line meaningless. -/
def refuse (f : Fault) : Reply := ⟨.recovery, none, [f]⟩

/-- A complete statement and a fault, before the reply to what follows. -/
def before (statement : Option Triple) (f : Fault) (r : Reply) : Reply :=
  { r with statement, faults := r.faults ++ [f] }

end Reply

/-- Whether a literal without a language may have a datatype. -/
def allowsDatatype (mode : Mode) (datatype : Iri) : Bool :=
  mode = .lenient || datatype ≠ rdfLangString

/-- A token at the start of a statement. -/
def onFirst : Token → Reply
  | .iri i => .quiet (.predicate (.iri i))
  | .blank b => .quiet (.predicate (.blank b))
  | _ => .refuse .unexpectedToken

/-- A token after a statement. Another than the dot starts the next one, after a fault. -/
def onDot (statement : Triple) : Token → Reply
  | .dot => ⟨.lineEnd, some statement, []⟩
  | t => (onFirst t).before (some statement) .missingDot

/-- What a token makes of the expectation. -/
def Expect.onToken (mode : Mode) : Expect → Token → Reply
  | .subject, t => onFirst t
  | .predicate s, .iri p => .quiet (.object s p)
  | .object s p, .iri i => .quiet (.dot ⟨s, p, .node (.iri i)⟩)
  | .object s p, .blank b => .quiet (.dot ⟨s, p, .node (.blank b)⟩)
  | .object s p, .value v => .quiet (.afterValue s p v)
  | .afterValue s p v, .tag t => .quiet (.dot ⟨s, p, .literal (.tagged v t)⟩)
  | .afterValue s p v, .datatypeMark => .quiet (.datatype s p v)
  | .afterValue s p v, t => onDot ⟨s, p, .literal (.plain v)⟩ t
  | .datatype s p v, .iri d =>
    ⟨.dot ⟨s, p, .literal (.ofDatatype v d)⟩, none,
      if allowsDatatype mode d then [] else [.langStringDatatype]⟩
  | .dot statement, t => onDot statement t
  | .lineEnd, t => (onFirst t).before none .missingLineEnd
  | .recovery, _ => .quiet .recovery
  | _, _ => .refuse .unexpectedToken

/-- The complete statement and the faults of a line that ends. -/
def Expect.atLineEnd : Expect → Option Triple × List Fault
  | .subject | .lineEnd | .recovery => (none, [])
  | .afterValue s p v => (some ⟨s, p, .literal (.plain v)⟩, [.missingDot])
  | .dot statement => (some statement, [.missingDot])
  | _ => (none, [.unexpectedLineEnd])

/-- What a line end makes of the expectation. The next line starts anew. -/
def Expect.onLineEnd (e : Expect) : Reply := ⟨.subject, e.atLineEnd.1, e.atLineEnd.2⟩

/-- The complete statement and the faults at the end of the input. It may not come in the middle
of a line that has a fault. -/
def Expect.onEnd : Expect → Option Triple × List Fault
  | .subject | .lineEnd => (none, [])
  | .afterValue s p v => (some ⟨s, p, .literal (.plain v)⟩, [.missingDot])
  | .dot statement => (some statement, [.missingDot])
  | _ => (none, [.unexpectedEnd])

/-- One step of a reader. `size` octets are done with. A reader that has seen the end of its input
expects nothing any more (`none`). -/
inductive Move where
  | step (size : Nat) (expect : Option Expect) (statement : Option Triple) (faults : List Fault)
  | wait
  deriving DecidableEq

/-- The step that a reply makes. -/
def Move.ofReply (size : Nat) : Option Reply → Move
  | none => .step size none none []
  | some r => .step size (some r.expect) r.statement r.faults

/-- The step over octets that are no token. -/
def Move.overFault (size : Nat) (expect : Option Expect) (f : Fault) : Move :=
  .step size (expect.map fun _ => .recovery) none [f]

/-- The step at the octets `b :: rest`. -/
def move (mode : Mode) (ended : Bool) (expect : Option Expect) (b : UInt8) (rest : Bytes) : Move :=
  if b = octet ' ' || b = octet '\t' then .step 1 expect none []
  else
    match lexeme mode ended b rest with
    | .token t size => .ofReply size (expect.map (·.onToken mode t))
    | .lineEnd size => .ofReply size (expect.map (·.onLineEnd))
    | .comment size => .step size expect none []
    | .fault f size => .overFault size expect f
    | .wait => if ended then .overFault (rest.length + 1) expect .unexpectedEnd else .wait

end NTriples
end RdfExport
