import P11Scope.Edge.Effects
import P11Scope.Edge.Sharing
import P11Scope.Semantics.Pseudonyms
import P11Scope.Semantics.Custody
import P11Scope.Capture.AuthorizedWalk
import P11Scope.Capture.Accepted
import P11Scope.Feed.Batches
import P11Scope.Registry.Accounting
import P11Scope.Inventory.Laws
import P11Scope.Inventory.Evidence
import P11Scope.Identity.Soundness
import P11Scope.Callers.Retirement
import P11Scope.Counters.Transactions
import P11Scope.Discovery.Rotation
