import Trellis.Dataset
import Trellis.Main
import Trellis.Proofs.Additions
import Trellis.Proofs.Ascending
import Trellis.Proofs.Candidates
import Trellis.Proofs.Consequences
import Trellis.Proofs.Derive
import Trellis.Proofs.Distinct
import Trellis.Proofs.EdgeIdentity
import Trellis.Proofs.EdgeKey
import Trellis.Proofs.Except
import Trellis.Proofs.FailedGeneration
import Trellis.Proofs.Graph.Arena
import Trellis.Proofs.Graph.BucketKey
import Trellis.Proofs.Graph.Buckets
import Trellis.Proofs.Graph.Coherence
import Trellis.Proofs.Graph.Insertion
import Trellis.Proofs.Graph.Lookup
import Trellis.Proofs.Graph.Postings
import Trellis.Proofs.Graph.Reachable
import Trellis.Proofs.Graph.Removal
import Trellis.Proofs.Graph.SlotMap
import Trellis.Proofs.Graph.Stats
import Trellis.Proofs.Graph.Tombstones
import Trellis.Proofs.Growth
import Trellis.Proofs.Incremental
import Trellis.Proofs.Interleaving
import Trellis.Proofs.LetterCase
import Trellis.Proofs.LoadOrder
import Trellis.Proofs.Mirror
import Trellis.Proofs.NameSearch
import Trellis.Proofs.Pattern.CommaList
import Trellis.Proofs.Pattern.Grammar
import Trellis.Proofs.Pattern.Layout
import Trellis.Proofs.Pattern.LetterCase
import Trellis.Proofs.Pattern.Node
import Trellis.Proofs.Pattern.Query
import Trellis.Proofs.Pattern.RuleDialect
import Trellis.Proofs.Pattern.Token
import Trellis.Proofs.PlainStore
import Trellis.Proofs.Plan
import Trellis.Proofs.Pruning
import Trellis.Proofs.Query
import Trellis.Proofs.Rebuild
import Trellis.Proofs.Rerun
import Trellis.Proofs.Resolve
import Trellis.Proofs.Rule
import Trellis.Proofs.RuleOrder
import Trellis.Proofs.SameReads
import Trellis.Proofs.Saturation
import Trellis.Proofs.ScopeSeparation
import Trellis.Proofs.Stages
import Trellis.Proofs.Tag
import Trellis.Proofs.Text.Blank
import Trellis.Proofs.Text.LetterCase
import Trellis.Proofs.Text.Lowercase
import Trellis.Proofs.Text.Sigma
import Trellis.Proofs.Transitivity
import Trellis.Proofs.Walk
