import RdfExport.Text.Utf8
import RdfExport.Text.Blank
import RdfExport.Text.Hex
import RdfExport.Text.Hidden
import RdfExport.Text.Quoted
import RdfExport.Text.Percent
import RdfExport.Text.Base64
import RdfExport.Text.CodeRange
import RdfExport.Text.Composition
import RdfExport.Text.Normal
import RdfExport.Net.Ipv4
import RdfExport.Net.Ipv6
import RdfExport.Net.Punycode
import RdfExport.Net.Idna.Mapping
import RdfExport.Net.Idna.Classes
import RdfExport.Net.Idna
import RdfExport.Net.Host
import RdfExport.Net.Url
import RdfExport.Net.Url.Reader
import RdfExport.Rdf.Name
import RdfExport.Rdf.Iri
import RdfExport.Rdf.LanguageTag
import RdfExport.Rdf.Term
import RdfExport.Rdf.Term.Printer
import RdfExport.Rdf.Term.Escape
import RdfExport.Rdf.Term.Reader
import RdfExport.Rdf.Bindings
import RdfExport.NTriples.Token
import RdfExport.NTriples.Foreign
import RdfExport.NTriples.Escape
import RdfExport.NTriples.Enclosed
import RdfExport.NTriples.Lexer
import RdfExport.NTriples.Grammar
import RdfExport.Error.Wording
import RdfExport.Error
import RdfExport.Toggle
import RdfExport.Query
import RdfExport.Sink
import RdfExport.Decoder
import RdfExport.Decoder.Tuple
import RdfExport.Decoder.Graph
import RdfExport.Json.Value
import RdfExport.Json.Reader
import RdfExport.Json.Writer
import RdfExport.Notice
import RdfExport.Output
import RdfExport.Target
import RdfExport.Http.Message
import RdfExport.Http.Body
import RdfExport.Diagnostic
import RdfExport.Strategy
import RdfExport.Config
import RdfExport.Config.Document
import RdfExport.Endpoint
import RdfExport.Pool
import RdfExport.Transfer
import RdfExport.Call
import RdfExport.Client
import RdfExport.Http.Redirect
import RdfExport.Rehearsal.World
import RdfExport.Rehearsal.Target
import RdfExport.Rehearsal.Server
import RdfExport.Proofs.Lines
import RdfExport.Proofs.Chunks
import RdfExport.Proofs.Table
import RdfExport.Proofs.Frames
import RdfExport.Proofs.Recovery
import RdfExport.Proofs.NTriples.Enclosed
import RdfExport.Proofs.NTriples.Lookahead
import RdfExport.Proofs.Emission
import RdfExport.Proofs.Rows
import RdfExport.Proofs.Reading
import RdfExport.Proofs.Statements
import RdfExport.Proofs.Projection
import RdfExport.Proofs.Call.Log
import RdfExport.Proofs.Call.Course
import RdfExport.Proofs.Call.Protocol
import RdfExport.Proofs.Call.Records
import RdfExport.Proofs.Call.Outcome
import RdfExport.Proofs.Cuts
import RdfExport.Proofs.Text.Utf8
import RdfExport.Proofs.Rdf.Iri
import RdfExport.Proofs.Rdf.LanguageTag
import RdfExport.Proofs.Rdf.WellFormed
import RdfExport.Proofs.NTriples.Printed
import RdfExport.Proofs.Rdf.Fields
import RdfExport.Proofs.Writing
import RdfExport.Proofs.Documents
import RdfExport.Proofs.Rendering
import RdfExport.Proofs.Strategies
import RdfExport.Proofs.Call.Trailers
import RdfExport.Proofs.Search
import RdfExport.Proofs.Opening
import RdfExport.Proofs.Call.Turns
import RdfExport.Proofs.Call.Signing
import RdfExport.Proofs.Forwarding
import RdfExport.Proofs.Text.Hex
import RdfExport.Proofs.Json.Numbers
import RdfExport.Proofs.Json.Strings
import RdfExport.Proofs.Json.Grammar
import RdfExport.Proofs.Json.Written
import RdfExport.Proofs.Json.Members
import RdfExport.Proofs.Settings
import RdfExport.Proofs.NTriples.Shape
import RdfExport.Proofs.Accepted
import RdfExport.Proofs.Net.Host
import RdfExport.Proofs.Net.Url
import RdfExport.Proofs.Addresses
import RdfExport.Proofs.Text.Percent
import RdfExport.Proofs.Selectors
import RdfExport.Proofs.Call.NamedGraph
import RdfExport.Proofs.Conversion
import RdfExport.Proofs.Unambiguous
import RdfExport.Proofs.RowLines
import RdfExport.Proofs.Spacing
import RdfExport.Proofs.Counting
import RdfExport.Proofs.RowTerms
import RdfExport.Proofs.Capacity
import RdfExport.Proofs.NTriples.Leniency
import RdfExport.Proofs.Leniency
import RdfExport.Proofs.Requirements
import RdfExport.Proofs.Pulling
import RdfExport.Proofs.NTriples.Heard
import RdfExport.Proofs.Offers
import RdfExport.Proofs.Call.Refusal
import RdfExport.Proofs.Diagnostic
import RdfExport.Proofs.Causes
import RdfExport.Proofs.Credentials
