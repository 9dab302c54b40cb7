import TreeQuery.Graph.Connectivity
import TreeQuery.Graph.Dump
import TreeQuery.Graph.Edit
import TreeQuery.Json.Reader
import TreeQuery.Query.Compile
import TreeQuery.Relation.Exchange
import TreeQuery.Pattern.PropertyNames
import TreeQuery.Text.Word
import TreeQuery.Proofs.Graph.Operation
import TreeQuery.Proofs.Graph.History
import TreeQuery.Proofs.Query.Expression
import TreeQuery.Proofs.Query.Reading
import TreeQuery.Proofs.Query.Search
import TreeQuery.Proofs.Query.Discovery
import TreeQuery.Proofs.Query.Scope
import TreeQuery.Proofs.Query.Coverage
import TreeQuery.Proofs.Graph.Refusal
import TreeQuery.Proofs.LabelTable
import TreeQuery.Proofs.Query.Progress
import TreeQuery.Proofs.Query.Report
import TreeQuery.Proofs.Query.Outcome
import TreeQuery.Proofs.Query.Resolution
import TreeQuery.Proofs.Query.Decoding
import TreeQuery.Proofs.Query.Matching
import TreeQuery.Proofs.Relation.Operator
import TreeQuery.Proofs.Query.Recovery
import TreeQuery.Proofs.Graph.Handles
import TreeQuery.Proofs.Graph.Faults
import TreeQuery.Proofs.Query.Locality
import TreeQuery.Proofs.Graph.Replacement
import TreeQuery.Proofs.Graph.Reachability
import TreeQuery.Proofs.LabelTable.Allocation
import TreeQuery.Proofs.Graph.Removal
import TreeQuery.Proofs.Query.Erasure
import TreeQuery.Proofs.Query.Spelling
import TreeQuery.Proofs.Query.Nesting
import TreeQuery.Proofs.Query.Equivariance
import TreeQuery.Proofs.Graph.Incidence
import TreeQuery.Proofs.Graph.Reversal
import TreeQuery.Proofs.Query.Options
import TreeQuery.Proofs.Query.NamedGroups
import TreeQuery.Proofs.Graph.Dump
import TreeQuery.Proofs.Palette
import TreeQuery.Proofs.Relation.Exchange
