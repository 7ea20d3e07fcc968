import RestQuery.Call.Named
import RestQuery.Client
import RestQuery.Snapshot
import RestQuery.Proofs.Clause.Ordering
import RestQuery.Proofs.Clause.Preorder
import RestQuery.Proofs.Group.Unambiguous
import RestQuery.Proofs.QueryString.Reading
import RestQuery.Proofs.Clause.ColumnPath
import RestQuery.Proofs.Value.TextKey
import RestQuery.Proofs.Response.Positions
import RestQuery.Proofs.Call.Channels
import RestQuery.Proofs.Call.Independence
import RestQuery.Proofs.Json.Exact
import RestQuery.Proofs.Snapshot.Fields
import RestQuery.Proofs.Snapshot.Agreement
import RestQuery.Proofs.Snapshot.Clauses
import RestQuery.Proofs.Snapshot.CacheKey
import RestQuery.Proofs.Value.Comparing
import RestQuery.Proofs.Exchange.Classified
import RestQuery.Proofs.Value.Digests
import RestQuery.Proofs.QueryString.Equal
import RestQuery.Proofs.Clause.SelectItem
import RestQuery.Proofs.Clause.SelectReading
import RestQuery.Proofs.QueryString.Unwritten
import RestQuery.Proofs.Settings.Blocks
import RestQuery.Proofs.Filter.OperandReading
import RestQuery.Proofs.Header.Merging
import RestQuery.Proofs.Clause.PathNames
import RestQuery.Proofs.Selection.Refused
import RestQuery.Proofs.Value.Equates
import RestQuery.Proofs.Value.Equivalence
import RestQuery.Proofs.Selection.Distinct
import RestQuery.Proofs.Number.Rounding
import RestQuery.Proofs.Response.Count
import RestQuery.Proofs.Response.Pages
import RestQuery.Proofs.QueryString.Readable
import RestQuery.Proofs.Text.Occurrence
import RestQuery.Proofs.Exchange.MediaType
import RestQuery.Proofs.Selection.Restricted
import RestQuery.Proofs.Filter.Grouping
