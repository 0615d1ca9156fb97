import Criteria.Builder.Call
import Criteria.Model.Declare
import Criteria.Proofs.Admission
import Criteria.Proofs.Alignment
import Criteria.Proofs.Alternatives
import Criteria.Proofs.Atomicity
import Criteria.Proofs.Blankness
import Criteria.Proofs.ClosedForm
import Criteria.Proofs.Condition
import Criteria.Proofs.Conjunction
import Criteria.Proofs.Derivation
import Criteria.Proofs.Exposure
import Criteria.Proofs.Fallback
import Criteria.Proofs.Fitness
import Criteria.Proofs.Immutability
import Criteria.Proofs.Interchange
import Criteria.Proofs.Listing
import Criteria.Proofs.Memo
import Criteria.Proofs.Misuse
import Criteria.Proofs.Neighbour
import Criteria.Proofs.Parameterisation
import Criteria.Proofs.Pattern
import Criteria.Proofs.Queries
import Criteria.Proofs.Recovery
import Criteria.Proofs.Renumbering
import Criteria.Proofs.Resumption
import Criteria.Proofs.Snapshot
import Criteria.Proofs.Trail
import Criteria.Proofs.SameButBuilders
import Criteria.Proofs.Walks
import Criteria.Release
import Criteria.Value.Numeral
