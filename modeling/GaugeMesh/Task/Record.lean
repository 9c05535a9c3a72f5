import GaugeMesh.Capability

/-! `task.rs`: the durable record of one routed task, the updates it accepts and
the transition that applies one. Every record carries a digest of its own fields. -/
namespace GaugeMesh
open Json

def taskRouteSchemaVersion : UInt16 := 1
def maxSubmissionBindingBytes : Nat := 16 * 1024
def maxCachedTerminalStateBytes : Nat := 64 * 1024
def maxIdentifierBytes : Nat := 128
def maxUpstreamTaskIdBytes : Nat := 1024
def maxSqliteInteger : Nat := 2^63 - 1
def maxU64 : Nat := 2^64 - 1

def checkedAdd (a b : Nat) : Option Nat := if a + b ≤ maxU64 then some (a + b) else none
def saturatingAdd (a b : Nat) : Nat := min (a + b) maxU64

/-- `char::is_control`: the Unicode category Cc. -/
def isControl (c : Char) : Bool := c.toNat < 32 || (127 ≤ c.toNat && c.toNat < 160)

@[ext] structure PublicTaskId where
  text : String
  deriving DecidableEq

@[ext] structure TaskRouteIdempotencyKey where
  text : String
  deriving DecidableEq

@[ext] structure UpstreamTaskId where
  text : String
  deriving DecidableEq

@[ext] structure TaskRouteCaller where
  principal : PrincipalId
  tenant : TenantId
  deriving DecidableEq

inductive TaskRoutePhase where
  | prepared
  | dispatching
  | routed
  | terminal
  | reconciliationRequired
  | cancelRequested
  deriving DecidableEq

structure TaskRouteRecord where
  schemaVersion : UInt16
  publicTaskId : PublicTaskId
  caller : TaskRouteCaller
  idempotencyKey : Option TaskRouteIdempotencyKey
  requestDigest : Sha256Digest
  submissionBinding : Value
  capability : CapabilityId
  capabilitySource : SourceId
  upstreamSessionId : String
  upstreamTaskId : Option UpstreamTaskId
  dispatchOwnerId : Option String
  phase : TaskRoutePhase
  createdAtUnixMs : Nat
  updatedAtUnixMs : Nat
  ttlMs : Nat
  expiresAtUnixMs : Nat
  transitionVersion : Nat
  cachedTerminalState : Option Value
  integrityDigest : Sha256Digest
  deriving DecidableEq

structure TaskRouteUpdate where
  phase : TaskRoutePhase
  upstreamTaskId : Option UpstreamTaskId
  dispatchOwnerId : Option String
  updatedAtUnixMs : Nat
  cachedTerminalState : Option Value
  deriving DecidableEq

namespace TaskRouteUpdate

def dispatching (dispatchOwnerId : String) (updatedAtUnixMs : Nat) : TaskRouteUpdate :=
  ⟨.dispatching,none,some dispatchOwnerId,updatedAtUnixMs,none⟩

def routed (upstreamTaskId : UpstreamTaskId) (updatedAtUnixMs : Nat) : TaskRouteUpdate :=
  ⟨.routed,some upstreamTaskId,none,updatedAtUnixMs,none⟩

def terminal (updatedAtUnixMs : Nat) (cachedTerminalState : Value) : TaskRouteUpdate :=
  ⟨.terminal,none,none,updatedAtUnixMs,some cachedTerminalState⟩

def reconciliationRequired (updatedAtUnixMs : Nat) : TaskRouteUpdate :=
  ⟨.reconciliationRequired,none,none,updatedAtUnixMs,none⟩

def cancelRequested (updatedAtUnixMs : Nat) : TaskRouteUpdate :=
  ⟨.cancelRequested,none,none,updatedAtUnixMs,none⟩

def cancelRequestedWithUpstream (upstreamTaskId : UpstreamTaskId) (updatedAtUnixMs : Nat) :
    TaskRouteUpdate :=
  ⟨.cancelRequested,some upstreamTaskId,none,updatedAtUnixMs,none⟩

end TaskRouteUpdate

inductive TaskRouteError where
  | invalidIdentifier (name : String)
  | invalidTtl
  | invalidTimestamp
  | numericRange
  | capabilitySourceMismatch
  | requestDigestMismatch
  | submissionBindingTooLarge (actual maximum : Nat)
  | terminalStateTooLarge (actual maximum : Nat)
  | terminalStateOutsideTerminalPhase
  | terminalStateMissing
  | preparedHasUpstreamTask
  | routedWithoutUpstreamTask
  | notPreparedForBegin
  | upstreamTaskChanged
  | upstreamTaskAssignedOutsideRoutedTransition
  | invalidTransition (source target : TaskRoutePhase)
  | integrityMismatch
  deriving DecidableEq

/-- `if condition { return Err(error) }`. -/
def reject (condition : Prop) [Decidable condition] (error : ε) : Except ε Unit :=
  if condition then .error error else .ok ()

@[simp] theorem reject_ok (condition : Prop) [Decidable condition] (error : ε) :
    reject condition error = .ok () ↔ ¬condition := by
  unfold reject
  split <;> simp_all

theorem Except.bind_ok {x : Except ε α} {f : α → Except ε β} :
    (x >>= f) = .ok b ↔ ∃ a, x = .ok a ∧ f a = .ok b := by
  cases x with
  | error e => simp [bind,Except.bind]
  | ok a => simp [bind,Except.bind]

def validateIdentifier (value : String) (maximumBytes : Nat) (name : String) :
    Except TaskRouteError Unit :=
  reject (value.isEmpty ∨ value.utf8ByteSize > maximumBytes ∨ value.toList.any isControl)
    (.invalidIdentifier name)

def PublicTaskId.new (value : String) : Except TaskRouteError PublicTaskId := do
  validateIdentifier value maxIdentifierBytes "public task ID"
  return ⟨value⟩

def TaskRouteIdempotencyKey.new (value : String) :
    Except TaskRouteError TaskRouteIdempotencyKey := do
  validateIdentifier value maxIdentifierBytes "idempotency key"
  return ⟨value⟩

def UpstreamTaskId.new (value : String) : Except TaskRouteError UpstreamTaskId := do
  validateIdentifier value maxUpstreamTaskIdBytes "upstream task ID"
  return ⟨value⟩

def TaskRouteCaller.new (principal : PrincipalId) (tenant : TenantId) :
    Except TaskRouteError TaskRouteCaller := do
  validateIdentifier principal.text maxIdentifierBytes "principal ID"
  validateIdentifier tenant.text maxIdentifierBytes "tenant ID"
  return ⟨principal,tenant⟩

def canTransition : TaskRoutePhase → TaskRoutePhase → Bool
  | .prepared, .dispatching | .prepared, .terminal | .prepared, .reconciliationRequired
  | .prepared, .cancelRequested => true
  | .dispatching, .routed | .dispatching, .terminal | .dispatching, .reconciliationRequired
  | .dispatching, .cancelRequested => true
  | .routed, .terminal | .routed, .reconciliationRequired | .routed, .cancelRequested => true
  | .reconciliationRequired, .routed | .reconciliationRequired, .terminal
  | .reconciliationRequired, .cancelRequested => true
  | .cancelRequested, .cancelRequested | .cancelRequested, .terminal => true
  | _, _ => false

instance : Serde PublicTaskId := ⟨fun i => .string i.text,fun v => v.asStr.map .mk⟩
instance : LawfulSerde PublicTaskId := ⟨fun _ => rfl⟩
instance : Serde TaskRouteIdempotencyKey := ⟨fun k => .string k.text,fun v => v.asStr.map .mk⟩
instance : LawfulSerde TaskRouteIdempotencyKey := ⟨fun _ => rfl⟩
instance : NonNull TaskRouteIdempotencyKey := ⟨fun _ => by simp [toValue]⟩
instance : Serde UpstreamTaskId := ⟨fun i => .string i.text,fun v => v.asStr.map .mk⟩
instance : LawfulSerde UpstreamTaskId := ⟨fun _ => rfl⟩
instance : NonNull UpstreamTaskId := ⟨fun _ => by simp [toValue]⟩

namespace TaskRouteCaller

def encode (c : TaskRouteCaller) : Value :=
  .object [("principal",toValue c.principal),("tenant",toValue c.tenant)]

def decode (v : Value) : Option TaskRouteCaller := do
  let fields ← structFields ["principal","tenant"] v
  return ⟨← field fields "principal",← field fields "tenant"⟩

theorem decode_encode (c : TaskRouteCaller) : decode c.encode = some c := by
  simp [decode,encode,structFields,field]

instance : Serde TaskRouteCaller := ⟨encode,decode⟩
instance : LawfulSerde TaskRouteCaller := ⟨decode_encode⟩

end TaskRouteCaller

namespace TaskRoutePhase

def name : TaskRoutePhase → String
  | prepared => "prepared"
  | dispatching => "dispatching"
  | routed => "routed"
  | terminal => "terminal"
  | reconciliationRequired => "reconciliation_required"
  | cancelRequested => "cancel_requested"

def all : List TaskRoutePhase :=
  [prepared,dispatching,routed,terminal,reconciliationRequired,cancelRequested]

instance : Serde TaskRoutePhase :=
  ⟨fun p => .string p.name,fun v => (unitVariant v).bind fun s => all.find? (·.name == s)⟩
instance : LawfulSerde TaskRoutePhase := ⟨fun p => by cases p <;> decide⟩

end TaskRoutePhase

namespace TaskRouteRecord

/-- All fields but the integrity digest, which is taken over them. -/
def sealedFields (r : TaskRouteRecord) : List (String × Value) := [
  ("schema_version",toValue r.schemaVersion),
  ("public_task_id",toValue r.publicTaskId),
  ("caller",toValue r.caller),
  ("idempotency_key",toValue r.idempotencyKey),
  ("request_digest",toValue r.requestDigest),
  ("submission_binding",toValue r.submissionBinding),
  ("capability",toValue r.capability),
  ("capability_source",toValue r.capabilitySource),
  ("upstream_session_id",toValue r.upstreamSessionId),
  ("upstream_task_id",toValue r.upstreamTaskId),
  ("dispatch_owner_id",toValue r.dispatchOwnerId),
  ("phase",toValue r.phase),
  ("created_at_unix_ms",toValue r.createdAtUnixMs),
  ("updated_at_unix_ms",toValue r.updatedAtUnixMs),
  ("ttl_ms",toValue r.ttlMs),
  ("expires_at_unix_ms",toValue r.expiresAtUnixMs),
  ("transition_version",toValue r.transitionVersion),
  ("cached_terminal_state",toValue r.cachedTerminalState)]

def encode (r : TaskRouteRecord) : Value :=
  .object (r.sealedFields ++ [("integrity_digest",toValue r.integrityDigest)])

def decode (v : Value) : Option TaskRouteRecord := do
  let fields ← structFields ["schema_version","public_task_id","caller","idempotency_key",
    "request_digest","submission_binding","capability","capability_source",
    "upstream_session_id","upstream_task_id","dispatch_owner_id","phase","created_at_unix_ms",
    "updated_at_unix_ms","ttl_ms","expires_at_unix_ms","transition_version",
    "cached_terminal_state","integrity_digest"] v
  return {
    schemaVersion := ← field fields "schema_version"
    publicTaskId := ← field fields "public_task_id"
    caller := ← field fields "caller"
    idempotencyKey := ← optionalField fields "idempotency_key"
    requestDigest := ← field fields "request_digest"
    submissionBinding := ← field fields "submission_binding"
    capability := ← field fields "capability"
    capabilitySource := ← field fields "capability_source"
    upstreamSessionId := ← field fields "upstream_session_id"
    upstreamTaskId := ← optionalField fields "upstream_task_id"
    dispatchOwnerId := ← optionalField fields "dispatch_owner_id"
    phase := ← field fields "phase"
    createdAtUnixMs := ← field fields "created_at_unix_ms"
    updatedAtUnixMs := ← field fields "updated_at_unix_ms"
    ttlMs := ← field fields "ttl_ms"
    expiresAtUnixMs := ← field fields "expires_at_unix_ms"
    transitionVersion := ← field fields "transition_version"
    cachedTerminalState := ← optionalField fields "cached_terminal_state"
    integrityDigest := ← field fields "integrity_digest" }

/-- What reading a written record gives: a cached null comes back as absent. -/
def reread (r : TaskRouteRecord) : TaskRouteRecord :=
  { r with cachedTerminalState := r.cachedTerminalState.filter (· ≠ .null) }

/-- An optional JSON value comes back without a null. -/
theorem fromValue_cached (cached : Option Value) :
    (fromValue (toValue cached) : Option (Option Value)) = some (cached.filter (· ≠ .null)) := by
  rcases cached with _ | v
  · rfl
  · by_cases null : v = .null <;> simp [toValue,fromValue,Option.filter,null]

theorem decode_encode (r : TaskRouteRecord) : decode r.encode = some r.reread := by
  refine (structFields_object (List.Subset.refl _)).trans ?_
  unfold sealedFields
  simp only [List.cons_append,List.nil_append]
  iterate 3 refine field_then (by simp only [Value.find_cons,↓reduceIte,String.reduceEq]; rfl) ?_
  refine optionalField_then (by simp only [Value.find_cons,↓reduceIte,String.reduceEq]; rfl)
    (fromValue_toValue _) ?_
  iterate 5 refine field_then (by simp only [Value.find_cons,↓reduceIte,String.reduceEq]; rfl) ?_
  iterate 2
    refine optionalField_then (by simp only [Value.find_cons,↓reduceIte,String.reduceEq]; rfl)
      (fromValue_toValue _) ?_
  iterate 6 refine field_then (by simp only [Value.find_cons,↓reduceIte,String.reduceEq]; rfl) ?_
  refine optionalField_then (by simp only [Value.find_cons,↓reduceIte,String.reduceEq]; rfl)
    (fromValue_cached _) ?_
  refine field_then (by simp only [Value.find_cons,↓reduceIte,String.reduceEq]; rfl) ?_
  rfl

theorem reread_eq (r : TaskRouteRecord) : r.reread = r ↔ r.cachedTerminalState ≠ some .null := by
  have update : r.reread = r ↔
      r.cachedTerminalState.filter (· ≠ .null) = r.cachedTerminalState := by
    constructor
    · exact fun same => congrArg cachedTerminalState same
    · intro same
      rw [reread,same]
  rw [update]
  rcases r.cachedTerminalState with _ | v
  · simp
  · by_cases null : v = .null <;> simp [Option.filter,null]

end TaskRouteRecord
end GaugeMesh
