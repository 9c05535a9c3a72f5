import GaugeMesh.Interleaving.Safety
import GaugeMesh.Interleaving.Justified
import GaugeMesh.Proxy.TaskProxy
import GaugeMesh.Storage.Isolation

/-! Any number of task proxies over one route store and one clock that never goes back.
Each operation on the store is atomic or fails without effect, drawn ids are fresh, and the
upstreams answer whatever they like. -/
namespace GaugeMesh
open Json Interleaving

structure Shared (σ : Type) where
  store : σ
  clock : Nat
  drawn : List PublicTaskId

inductive ProxyRequest where
  | submit (proxy : TaskProxy) (tool : FederatedTool) (arguments : JsonObject)
    (submission : Value) (identity : AuthenticatedIdentity)
  | recoverSubmission (proxy : TaskProxy) (tool : FederatedTool) (arguments : JsonObject)
    (submission : Value) (identity : AuthenticatedIdentity)
  | getTask (proxy : TaskProxy) (taskId : String) (identity : AuthenticatedIdentity)
  | updateTask (taskId : String) (identity : AuthenticatedIdentity)
  | cancelTask (taskId : String) (identity : AuthenticatedIdentity)
  | purgeExpired (maxRecords : Nat)
  deriving DecidableEq

inductive ProxyResponse where
  | submitted (result : Except McpError CallToolResponse)
  | task (result : Except McpError GetTaskResult)
  | done (result : Except McpError Unit)

namespace ProxySystem

variable {σ : Type} [TaskRouteStorage σ]

/-- A store operation has its whole effect, or it fails and changes nothing. -/
def Stores (s : Shared σ) (performed : Except TaskRouteStorageError α × σ)
    (reply : Except TaskRouteStorageError α) (s' : Shared σ) : Prop :=
  (reply = performed.1 ∧ s' = { s with store := performed.2 }) ∨
    ∃ error, reply = .error error ∧ s' = s

def act : (op : ProxyOp) → Shared σ → op.Ret → Shared σ → Prop
  | .now, s, reply, s' => (reply = none ∨ reply = some s.clock) ∧ s' = s
  | .randomTaskId, s, reply, s' => reply ∉ s.drawn ∧ s' = { s with drawn := reply :: s.drawn }
  | .findTaskRoute caller key, s, reply, s' =>
      Stores s (TaskRouteStorage.findTaskRoute s.store caller key,s.store) reply s'
  | .beginOrExisting record, s, reply, s' =>
      Stores s (TaskRouteStorage.beginOrExisting record s.store) reply s'
  | .getTaskRoute caller id, s, reply, s' =>
      Stores s (TaskRouteStorage.getTaskRoute s.store caller id,s.store) reply s'
  | .compareAndSetTaskRoute caller id version update, s, reply, s' =>
      Stores s (TaskRouteStorage.compareAndSetTaskRoute caller id version update s.store) reply s'
  | .purgeExpiredTaskRoutes now limit, s, reply, s' =>
      Stores s (TaskRouteStorage.purgeExpiredTaskRoutes now limit s.store) reply s'
  | .sourceSnapshotDigest _, s, _, s' => s' = s
  | .sourceSessionId _, s, _, s' => s' = s
  | .sourceConfigurationDigest _, s, _, s' => s' = s
  | .callTool .., s, _, s' => s' = s
  | .getTask .., s, _, s' => s' = s
  | .cancelTask .., s, _, s' => s' = s

variable [FloatText] [Sha256] [Rmcp] [Chrono]

omit [TaskRouteStorage σ] [FloatText] [Sha256] [Rmcp] [Chrono] in
/-- A purge of what has expired by the clock. -/
def purgeExpired (maxRecords : Nat) : Proxy Unit := do
  TaskProxy.purge (← TaskProxy.nowUnixMs) maxRecords

omit [TaskRouteStorage σ] in
def serve : ProxyRequest → Prog ProxyOp ProxyOp.Ret ProxyResponse
  | .submit proxy tool arguments submission identity =>
      (proxy.submit tool arguments submission identity).run.bind fun r => .pure (.submitted r)
  | .recoverSubmission proxy tool arguments submission identity =>
      (proxy.recoverSubmission tool arguments submission identity).run.bind fun r =>
        .pure (.submitted r)
  | .getTask proxy taskId identity =>
      (proxy.getTask taskId identity).run.bind fun r => .pure (.task r)
  | .updateTask taskId identity =>
      (TaskProxy.updateTask taskId identity).run.bind fun r => .pure (.done r)
  | .cancelTask taskId identity =>
      (TaskProxy.cancelTask taskId identity).run.bind fun r => .pure (.done r)
  | .purgeExpired maxRecords => (purgeExpired maxRecords).run.bind fun r => .pure (.done r)

end ProxySystem

/-- Proxies over a store that was empty at first. -/
def proxySystem (σ : Type) [TaskRouteStorage σ] [FloatText] [Sha256] [Rmcp] [Chrono] :
    System (Shared σ) ProxyOp ProxyOp.Ret ProxyRequest ProxyResponse where
  initial s := s.store = TaskRouteStorage.empty ∧ s.drawn = []
  act _ := ProxySystem.act
  drift s s' := s.clock ≤ s'.clock ∧ s' = { s with clock := s'.clock }
  body := ProxySystem.serve

abbrev ProxyWorld (σ : Type) := World (Shared σ) ProxyOp ProxyOp.Ret ProxyRequest
abbrev ProxyEvent := Event ProxyOp ProxyOp.Ret

end GaugeMesh
