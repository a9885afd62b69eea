import MiniLisp.Main
import MiniLisp.Sink
import MiniLisp.Proofs.ErrorFree
import MiniLisp.Proofs.RoundTrip
import MiniLisp.Proofs.FaultFree
import MiniLisp.Proofs.Assigning
import MiniLisp.Proofs.Encapsulation
import MiniLisp.Proofs.Layout
import MiniLisp.Proofs.FrameTree
import MiniLisp.Proofs.WellFormed
import MiniLisp.Proofs.IntegerRange
import MiniLisp.Proofs.Provenance
import MiniLisp.Proofs.Chunking
import MiniLisp.Proofs.Resuming
import MiniLisp.Proofs.Sessions
import MiniLisp.Proofs.Increments
import MiniLisp.Proofs.Loading
import MiniLisp.Proofs.Refusal
import MiniLisp.Proofs.Batches
import MiniLisp.Proofs.FirstError
import MiniLisp.Proofs.Delivery
import MiniLisp.Proofs.Tiling
import MiniLisp.Proofs.Submission
import MiniLisp.Proofs.Completeness
import MiniLisp.Proofs.Division
import MiniLisp.Proofs.Expansion
import MiniLisp.Proofs.Bodies
import MiniLisp.Proofs.Quotation
import MiniLisp.Proofs.TargetQuoting
import MiniLisp.Proofs.Visibility
import MiniLisp.Proofs.Parameters
import MiniLisp.Proofs.MalformedCalls
import MiniLisp.Proofs.Laps
import MiniLisp.Proofs.Identities
import MiniLisp.Proofs.Positions
import MiniLisp.Proofs.Masking
import MiniLisp.Proofs.Conservation
