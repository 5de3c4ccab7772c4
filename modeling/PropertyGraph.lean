import PropertyGraph.Text.Blank
import PropertyGraph.Text.Printable
import PropertyGraph.Text.Quoted
import PropertyGraph.Decimal.Digits
import PropertyGraph.Decimal.Double
import PropertyGraph.Decimal.Layout
import PropertyGraph.Decimal.Reading
import PropertyGraph.Decimal.Shortest
import PropertyGraph.Entries
import PropertyGraph.Json.Basic
import PropertyGraph.Json.Draft
import PropertyGraph.Json.Numeral
import PropertyGraph.Json.Reader
import PropertyGraph.Json.Writer
import PropertyGraph.Graph.Entity
import PropertyGraph.Graph.Identity
import PropertyGraph.Graph.Properties
import PropertyGraph.Graph.Row
import PropertyGraph.Graph.Value
import PropertyGraph.Cypher.Anchor
import PropertyGraph.Cypher.Clauses
import PropertyGraph.Cypher.Ends
import PropertyGraph.Cypher.Joining
import PropertyGraph.Cypher.NodeStatement
import PropertyGraph.Cypher.Paging
import PropertyGraph.Cypher.Properties
import PropertyGraph.Cypher.RelationStatement
import PropertyGraph.Cypher.Statement
import PropertyGraph.Decode.Basic
import PropertyGraph.Decode.Document
import PropertyGraph.Decode.Fault
import PropertyGraph.Decode.Requests
import PropertyGraph.Decode.Schema
import PropertyGraph.Decode.Variants
import PropertyGraph.Store.ByCount
import PropertyGraph.Store.Column
import PropertyGraph.Store.Failure
import PropertyGraph.Store.Operation
import PropertyGraph.Store.Plan
import PropertyGraph.Store.Requests
import PropertyGraph.Store.Run
import PropertyGraph.Store.Settings
import PropertyGraph.Proofs.Command
import PropertyGraph.Proofs.Skeleton
import PropertyGraph.Proofs.Text.Scanner
import PropertyGraph.Proofs.Cypher.Slots
import PropertyGraph.Proofs.Decimal.Characters
import PropertyGraph.Proofs.Cypher.Respect
import PropertyGraph.Proofs.Cypher.Containment
import PropertyGraph.Proofs.Cypher.Placeholders
import PropertyGraph.Proofs.Text.Readable
import PropertyGraph.Proofs.Json.Strings
import PropertyGraph.Proofs.Json.Unambiguous
import PropertyGraph.Proofs.Cypher.Parts
import PropertyGraph.Proofs.Cypher.Page
import PropertyGraph.Proofs.Cypher.FaithfulNodes
import PropertyGraph.Proofs.Cypher.FaithfulRelations
import PropertyGraph.Proofs.Store.Reading
import PropertyGraph.Proofs.Store.Sessions
import PropertyGraph.Proofs.Store.Independence
import PropertyGraph.Proofs.Store.Columns
import PropertyGraph.Proofs.Store.Probes
import PropertyGraph.Proofs.Store.Criteria
import PropertyGraph.Proofs.Cypher.Composition
import PropertyGraph.Proofs.Decimal.Numerals
import PropertyGraph.Proofs.Json.ReadBack
import PropertyGraph.Proofs.Json.Nesting
import PropertyGraph.Proofs.Decode.Kinds
import PropertyGraph.Proofs.Decode.Modes
import PropertyGraph.Proofs.Json.Names
import PropertyGraph.Proofs.Decode.Endpoints
import PropertyGraph.Proofs.Decode.Positions
import PropertyGraph.Proofs.Decode.Edits
import PropertyGraph.Proofs.Cypher.Literals
import PropertyGraph.Proofs.Store.Normalization
import PropertyGraph.Proofs.Decimal.Runs
import PropertyGraph.Proofs.Graph.Parsing
import PropertyGraph.Proofs.Graph.Words
import PropertyGraph.Proofs.Decode.Identities
import PropertyGraph.Proofs.Decode.Spellings
import PropertyGraph.Proofs.Graph.SortedMaps
import PropertyGraph.Proofs.Json.Induction
import PropertyGraph.Proofs.Text.Utf8
import PropertyGraph.Proofs.Graph.RoundTrip
import PropertyGraph.Proofs.Cypher.Sorting
import PropertyGraph.Proofs.Cypher.Steps
import PropertyGraph.Proofs.Decode.SortOrders
import PropertyGraph.Proofs.Cypher.Contributions
import PropertyGraph.Proofs.Cypher.Selection
import PropertyGraph.Proofs.Graph.Rows
import PropertyGraph.Proofs.Decode.LenientIdentities
