import GaugeMesh.Lease.Storage
import GaugeMesh.Proxy.Answers

/-! `mcp.rs`: the meta tools that issue a lease, act under one and release it. Every call
carries what it reads of the clock and the identifier it would draw. -/
namespace GaugeMesh
open Json

inductive MetaTool where
  | lease
  | invoke
  | submit
  | release
  deriving DecidableEq

structure MetaCall where
  tool : MetaTool
  arguments : JsonObject
  identity : AuthenticatedIdentity
  clientSupportsTasks : Bool
  clock : Option Nat
  uuid : String
  deriving DecidableEq

/-- What a call is answered with, or where it goes on. -/
inductive MetaResponse where
  | toolError (code : String)
  | structured (content : Value)
  | callUpstream (tool : FederatedTool) (arguments : Option JsonObject)
  | submitTask (tool : FederatedTool) (arguments : JsonObject) (task : Value)
  deriving DecidableEq

/-- The sources that are configured and those that take tasks; either part may be absent. -/
structure MeshServer where
  federation : Federation
  upstreams : Option (SourceId → Bool)
  taskProxy : Option (SourceId → Bool)

abbrev MetaAnswer := Except McpError MetaResponse

def toolError (code : String) : MetaAnswer := .ok (.toolError code)

def sideEffectInvalid : String := "GM_LEASE_SIDE_EFFECT_INVALID"

def sideEffectOf : Option String → Except String SideEffectClass
  | some "read_only" => .ok .readOnly
  | some "idempotent_write" => .ok .idempotentWrite
  | some "non_idempotent_write" => .ok .nonIdempotentWrite
  | _ => .error sideEffectInvalid

def collectSideEffects (effects : Finset SideEffectClass) :
    List Value → Except String (Finset SideEffectClass)
  | [] => .ok effects
  | value :: rest => do
    let effect ← sideEffectOf value.asStr
    reject (effect ∈ effects) sideEffectInvalid
    collectSideEffects (insert effect effects) rest

def explicitSideEffects : Option Value → Except String (Finset SideEffectClass)
  | none => .ok {.readOnly}
  | some value => do
    let values ← okOr value.asArray sideEffectInvalid
    reject (values = [] ∨ values.length > 3) sideEffectInvalid
    collectSideEffects ∅ values

def localPrincipal : PrincipalId := ⟨"local-demo"⟩
def localTenant : TenantId := ⟨"local"⟩

def requiredScope : SideEffectClass → Option String
  | .readOnly => none
  | .idempotentWrite => some "gaugemesh:effect:idempotent-write"
  | .nonIdempotentWrite => some "gaugemesh:effect:non-idempotent-write"

def identityAuthorizesEffect (identity : AuthenticatedIdentity) (effect : SideEffectClass) : Bool :=
  if identity.principal = localPrincipal ∧ identity.tenant = localTenant then true
  else
    match requiredScope effect with
    | none => true
    | some required => identity.scopes.contains required

def leaseErrorCode : LeaseError → String
  | .expired => "GM_LEASE_EXPIRED"
  | .principal => "GM_LEASE_PRINCIPAL_MISMATCH"
  | .tenant => "GM_LEASE_TENANT_MISMATCH"
  | .capability => "GM_LEASE_CAPABILITY_OUTSIDE_CONE"
  | .staleSchema => "GM_LEASE_STALE_SCHEMA"
  | .manifest => "GM_LEASE_MANIFEST_TAMPERED"

theorem mapError_ok {result : Except ε α} {convert : ε → δ} {a : α} :
    result.mapError convert = .ok a ↔ result = .ok a := by
  cases result <;> simp [Except.mapError]

def clockInvalid : McpError := .internalError "GM_CLOCK_INVALID"
def storageRead : McpError := .internalError "GM_STORAGE_READ"
def storageWrite : McpError := .internalError "GM_STORAGE_WRITE"

namespace MetaCall

def argument (call : MetaCall) (name : String) : Option Value := Value.find name call.arguments

/-- `arguments.get(name).and_then(Value::as_str).unwrap_or("")`. -/
def text (call : MetaCall) (name : String) : String :=
  ((call.argument name).bind Value.asStr).getD ""

def leaseId (call : MetaCall) : String := call.text "leaseId"

end MetaCall

section
variable [FloatText] [Sha256]

/-- A lease does not preserve scopes that the caller no longer has. -/
def authorizeCurrentInvocation (lease : CapabilityLease) (identity : AuthenticatedIdentity)
    (capability : CapabilityId) (effect : SideEffectClass) (now : Nat) : Except String Unit := do
  (lease.authorizeInvocation identity.principal identity.tenant capability effect now).mapError
    leaseErrorCode
  reject (identityAuthorizesEffect identity effect = false) "GM_LEASE_SIDE_EFFECT_SCOPE_REQUIRED"

def toolResult (tool : FederatedTool) (arguments : Option JsonObject) : Value :=
  let query := ((arguments.bind (Value.find "query")).bind Value.asStr).getD ""
  .object [
    ("capabilityId",toValue tool.identity.digest),
    ("query",.string query),
    ("source",toValue tool.identity.source),
    ("value",tool.fixtureResult)]

namespace MeshServer

def invokeTool (server : MeshServer) (tool : FederatedTool) (arguments : Option JsonObject) :
    MetaAnswer :=
  match server.upstreams with
  | none => .ok (.structured (toolResult tool arguments))
  | some containsSource =>
    if ¬containsSource tool.identity.source then
      .error (.internalError "GM_MCP_UPSTREAM_SOURCE_UNAVAILABLE")
    else .ok (.callUpstream tool arguments)

def leaseTtl : Option Value → Except String Nat
  | none => .ok 60000
  | some value =>
    match value.asU64 with
    | some ttl => if 1 ≤ ttl ∧ ttl ≤ 600000 then .ok ttl else .error "GM_LEASE_LIMIT_INVALID"
    | none => .error "GM_LEASE_LIMIT_INVALID"

/-- The lease a call asks for, and for how long. -/
def leaseOf (server : MeshServer) (call : MetaCall) : Except MetaAnswer (CapabilityLease × Nat) := do
  let aliases ← okOr ((call.argument "aliases").bind Value.asArray)
    (toolError "GM_LEASE_CAPABILITY_OUTSIDE_CONE")
  reject (aliases = [] ∨ aliases.length > 32) (toolError "GM_LEASE_LIMIT_INVALID")
  let tools := (aliases.filterMap Value.asStr).filterMap server.federation.tool
  reject (tools.length ≠ aliases.length ∨ tools = [])
    (toolError "GM_LEASE_CAPABILITY_OUTSIDE_CONE")
  let sideEffects ← (explicitSideEffects (call.argument "sideEffects")).mapError toolError
  reject (∃ effect ∈ sideEffects, identityAuthorizesEffect call.identity effect = false)
    (toolError "GM_LEASE_SIDE_EFFECT_SCOPE_REQUIRED")
  reject (∃ tool ∈ tools, tool.sideEffect ∉ sideEffects)
    (toolError "GM_LEASE_SIDE_EFFECT_OUTSIDE_CONE")
  let ttl ← (leaseTtl (call.argument "ttlMs")).mapError toolError
  let now ← okOr call.clock (.error clockInvalid)
  return (.issueWithSideEffects ⟨call.uuid⟩ call.identity.principal call.identity.tenant
    "mcp-request" (tools.map (·.identity)) ⟨∅⟩ (saturatingAdd now ttl) 0 4096 1 sideEffects,ttl)

def leaseContent (lease : CapabilityLease) (ttl : Nat) : Value := .object [
  ("capabilities",toValue (lease.capabilities.map CapabilityId.digest)),
  ("expiresInMs",toValue ttl),
  ("leaseId",toValue lease.id.text),
  ("manifestDigest",toValue lease.manifestDigest)]

variable {σ : Type} [LeaseStorage σ]

def gaugemeshLease (server : MeshServer) (call : MetaCall) (s : σ) : MetaAnswer × σ :=
  match server.leaseOf call with
  | .error answer => (answer,s)
  | .ok (lease,ttl) =>
    match LeaseStorage.put lease s with
    | (.error _,after) => (toolError "GM_STORAGE_WRITE",after)
    | (.ok (),after) => (.ok (.structured (leaseContent lease ttl)),after)

/-- The lease that is read for a call. -/
def readLease (call : MetaCall) (s : σ) : Except MetaAnswer CapabilityLease := do
  let found ← (LeaseStorage.get s call.leaseId).mapError fun _ => .error storageRead
  okOr found (toolError "GM_LEASE_CAPABILITY_OUTSIDE_CONE")

def gaugemeshInvoke (server : MeshServer) (call : MetaCall) (s : σ) :
    Except MetaAnswer MetaAnswer := do
  let tool ← okOr (server.federation.tool (call.text "alias")) (toolError Federation.notFound)
  let lease ← readLease call s
  let now ← okOr call.clock (.error clockInvalid)
  (authorizeCurrentInvocation lease call.identity tool.identity tool.sideEffect now).mapError
    toolError
  return server.invokeTool tool ((call.argument "arguments").bind Value.asObject)

def gaugemeshSubmit (server : MeshServer) (call : MetaCall) (s : σ) :
    Except MetaAnswer MetaAnswer := do
  reject (call.clientSupportsTasks = false) (toolError "GM_TASK_CLIENT_CAPABILITY_REQUIRED")
  let sourceSupported ← okOr server.taskProxy (toolError "GM_TASK_DURABLE_ROUTE_UNAVAILABLE")
  let arguments ← okOr ((call.argument "arguments").bind Value.asObject)
    (toolError "GM_TASK_ARGUMENTS_REQUIRED")
  let task ← okOr (call.argument "task") (toolError "GM_TASK_SUBMISSION_REQUIRED")
  let tool ← okOr (server.federation.tool (call.text "alias")) (toolError Federation.notFound)
  reject (sourceSupported tool.identity.source = false) (toolError "GM_TASK_UPSTREAM_UNSUPPORTED")
  let lease ← readLease call s
  let now ← okOr call.clock (.error clockInvalid)
  (authorizeCurrentInvocation lease call.identity tool.identity .nonIdempotentWrite now).mapError
    toolError
  return .ok (.submitTask tool arguments task)

/-- Whether the caller is whom the lease was issued to. -/
def owns (identity : AuthenticatedIdentity) (lease : CapabilityLease) : Bool :=
  decide (lease.principal = identity.principal ∧ lease.tenant = identity.tenant)

def gaugemeshRelease (call : MetaCall) (s : σ) : MetaAnswer × σ :=
  match LeaseStorage.get s call.leaseId with
  | .error _ => (.error storageRead,s)
  | .ok found =>
    let released := found.any (owns call.identity)
    if found.isSome ∧ ¬released then (toolError "GM_LEASE_PRINCIPAL_MISMATCH",s)
    else
      match LeaseStorage.remove call.leaseId s with
      | (.error _,after) => (.error storageWrite,after)
      | (.ok (),after) => (.ok (.structured (.object [("released",.bool released)])),after)

/-- The tool and the side effect an answer goes to the upstream with. -/
def dispatched : MetaAnswer → Option (FederatedTool × SideEffectClass)
  | .ok (.callUpstream tool _) => some (tool,tool.sideEffect)
  | .ok (.submitTask tool _ _) => some (tool,.nonIdempotentWrite)
  | _ => none

/-- An early answer is the answer. -/
def answered : Except MetaAnswer MetaAnswer → MetaAnswer
  | .ok answer => answer
  | .error answer => answer

def callMetaTool (server : MeshServer) (call : MetaCall) (s : σ) : MetaAnswer × σ :=
  match call.tool with
  | .lease => server.gaugemeshLease call s
  | .invoke => (answered (server.gaugemeshInvoke call s),s)
  | .submit => (answered (server.gaugemeshSubmit call s),s)
  | .release => gaugemeshRelease call s

/-- The store after some calls. -/
def callAll (server : MeshServer) (calls : List MetaCall) (s : σ) : σ :=
  calls.foldl (fun s call => (server.callMetaTool call s).2) s

end MeshServer
end
end GaugeMesh
