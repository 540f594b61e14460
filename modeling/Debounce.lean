import Debounce.Session.Background
import Debounce.Session.Bench
import Debounce.Session.Registered
import Debounce.Session.Timers
import Debounce.Proofs.Balance
import Debounce.Proofs.Burst
import Debounce.Proofs.Cap
import Debounce.Proofs.ClosedForm
import Debounce.Proofs.Contexts
import Debounce.Proofs.Cut
import Debounce.Proofs.Delivery
import Debounce.Proofs.Endless
import Debounce.Proofs.Failure
import Debounce.Proofs.Fates
import Debounce.Proofs.Firing
import Debounce.Proofs.FirstPolicy
import Debounce.Proofs.HeldBack
import Debounce.Proofs.Interchange
import Debounce.Proofs.Isolation
import Debounce.Proofs.LeadingEdge
import Debounce.Proofs.Lifetimes
import Debounce.Proofs.MissingWork
import Debounce.Proofs.Orphans
import Debounce.Proofs.Passthrough
import Debounce.Proofs.Rearming
import Debounce.Proofs.Rejections
import Debounce.Proofs.Renewal
import Debounce.Proofs.Retries
import Debounce.Proofs.Shapes
import Debounce.Proofs.Shifted
import Debounce.Proofs.Spacing
import Debounce.Proofs.Stamps
import Debounce.Proofs.Watched
