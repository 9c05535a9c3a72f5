import GaugeMesh.Interleaving.Safety
import GaugeMesh.Storage.Reload
import GaugeMesh.Upstream.Shutdown
import GaugeMesh.Proxy.NotDispatched
import GaugeMesh.Proxy.Orphans
import GaugeMesh.Task.Chain
import GaugeMesh.Storage.Invariant
import GaugeMesh.Storage.Isolation
import GaugeMesh.Run.History
import GaugeMesh.Storage.Idempotency
import GaugeMesh.Conserve.Debit
import GaugeMesh.Lease.Authority
import GaugeMesh.Runtime.Fairness
import GaugeMesh.Runtime.CircuitBreaker
import GaugeMesh.Route.Verify
import GaugeMesh.Policy.Gate
import GaugeMesh.Policy.Order
import GaugeMesh.Mesh.Tools
import GaugeMesh.Model.Spend
import GaugeMesh.Pool.Isolation
import GaugeMesh.Admission.Bounds
import GaugeMesh.Run.Commitment
import GaugeMesh.Proxy.Window
import GaugeMesh.Proxy.Attempts
import GaugeMesh.Run.Conformance
import GaugeMesh.Run.Cycle
import GaugeMesh.Causal.Graph
import GaugeMesh.Document
import GaugeMesh.Mesh.Grammar
import GaugeMesh.Lease.Membership
import GaugeMesh.Security.Literal
import GaugeMesh.Security.Origin
import GaugeMesh.Model.Estimate
import GaugeMesh.Mesh.Resolution
import GaugeMesh.Mesh.Pages
import GaugeMesh.Mesh.Listing
import GaugeMesh.Run.Stop
import GaugeMesh.Run.Fixpoint
import GaugeMesh.Run.Evidence
import GaugeMesh.Run.Progress
import GaugeMesh.Run.Reach
