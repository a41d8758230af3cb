import DocStore.Client.Basic
import DocStore.Json.Reader
import DocStore.Stream.Script
import DocStore.Proofs.Binary64.Shortest
import DocStore.Proofs.Client.Balance
import DocStore.Proofs.Client.Custody
import DocStore.Proofs.Client.Insertion
import DocStore.Proofs.Client.Iterator
import DocStore.Proofs.Client.Protocol
import DocStore.Proofs.Client.Reads
import DocStore.Proofs.Document.Edits
import DocStore.Proofs.Engine.Counting
import DocStore.Proofs.Engine.Exhaustion
import DocStore.Proofs.Engine.Restarts
import DocStore.Proofs.Engine.Separation
import DocStore.Proofs.Engine.Status
import DocStore.Proofs.Filter.Kinds
import DocStore.Proofs.Filter.Ranges
import DocStore.Proofs.Options
import DocStore.Proofs.Pipeline.Computed
import DocStore.Proofs.Pipeline.Exchange
import DocStore.Proofs.Pipeline.Extremes
import DocStore.Proofs.Pipeline.Keys
import DocStore.Proofs.Pipeline.Sums
import DocStore.Proofs.Store.Batches
import DocStore.Proofs.Store.Damage
import DocStore.Proofs.Store.Durability
import DocStore.Proofs.Store.Ids
import DocStore.Proofs.Stream.Fetches
import DocStore.Proofs.Json.Numbers
import DocStore.Proofs.Json.Values
import DocStore.Proofs.Keys
