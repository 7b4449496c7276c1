import Conform.Result.Chain
import Conform.Result.Frozen
import Conform.Schema.AsValue
import Conform.Schema.Record
import Conform.Text.Hex
import Conform.Proofs.Value.Lookup
import Conform.Proofs.Schema.Desugaring
import Conform.Proofs.Schema.Rearrangement
import Conform.Proofs.Schema.Interchange
import Conform.Proofs.Schema.Visibility
import Conform.Proofs.Schema.Appearance
import Conform.Proofs.Schema.ShortCircuit
import Conform.Proofs.Schema.Nesting
import Conform.Proofs.Schema.Refinement
import Conform.Proofs.Schema.LengthBounds
import Conform.Proofs.Schema.BoundWording
import Conform.Proofs.Schema.Merging
import Conform.Proofs.Schema.Equality
import Conform.Proofs.Session.Settled
import Conform.Proofs.Session.Disclosure
import Conform.Proofs.Session.Readings
import Conform.Proofs.Session.Propagation
import Conform.Proofs.Value.Display
import Conform.Proofs.Schema.Widening
import Conform.Proofs.Result.Laws
import Conform.Proofs.Session.Guards
import Conform.Proofs.Schema.Membership
import Conform.Proofs.Session.LevelNames
