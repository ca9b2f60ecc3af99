import GatherScatter.Serial
import GatherScatter.Proofs.Adjoint
import GatherScatter.Proofs.BlockInvariance
import GatherScatter.Proofs.Safety
import GatherScatter.Proofs.Determinism
import GatherScatter.Proofs.Multiplicity
import GatherScatter.Proofs.ReaderGuard
import GatherScatter.Proofs.HookContract
import GatherScatter.Proofs.Delegation
import GatherScatter.Proofs.DerivedCopies
import GatherScatter.Proofs.BlockByBlock
import GatherScatter.Proofs.PointByPoint
import GatherScatter.Proofs.Acceptance
import GatherScatter.Proofs.ForwardValues
import GatherScatter.Proofs.EndlessChains
import GatherScatter.Proofs.Lookup
import GatherScatter.Proofs.EntryLayout
import GatherScatter.Proofs.StridedTwins
import GatherScatter.Proofs.Coherence
import GatherScatter.Proofs.PaddingPermutation
import GatherScatter.Proofs.CurlMultiplicity
import GatherScatter.Proofs.EmptyRequests
import GatherScatter.Proofs.CompressedRows
