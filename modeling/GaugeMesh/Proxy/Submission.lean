import GaugeMesh.Task.Transition

/-! `task_proxy.rs`: what a caller submits, how it is checked and how it is bound to the
route. The deadline lies within the retention of the route it is accepted for. -/
namespace GaugeMesh
open Json

def taskSubmissionSchema : String := "gaugemesh.task-submission/1"
def taskExecutionSchema : String := "gaugemesh.task-execution/1"
def taskRouteSchema : String := "gaugemesh.task-route/1"
def maxTaskInputBytes : Nat := 64 * 1024
def maxTaskRuntimeMs : Nat := 30000
def maxTaskLifecycleRequestMs : Nat := 5000
def maxTaskOutputBytes : Nat := 64 * 1024
def maxTaskArtifactBytes : Nat := 8 * 1024 * 1024
def maxTaskRetentionMs : Nat := 60 * 60 * 1000
def maxTaskIdentifierBytes : Nat := 128

structure TaskLimits where
  maxRuntimeMs : Nat
  maxOutputBytes : Nat
  maxArtifactBytes : Nat
  maxAttempts : UInt16
  deriving DecidableEq

structure TaskSubmission where
  schemaVersion : String
  logicalTaskId : String
  attemptId : String
  correlationId : String
  idempotencyKey : String
  inputSha256 : Sha256Digest
  acceptancePolicySha256 : Sha256Digest
  artifactScopeSha256 : Sha256Digest
  providerInterfaceVersion : String
  deadlineUnixMs : Nat
  retentionMs : Nat
  limits : TaskLimits
  permittedEffect : SideEffectClass
  cleanupRequired : Bool
  deriving DecidableEq

namespace TaskLimits

/-- As a value, in key order. -/
def encode (l : TaskLimits) : Value := .object [
  ("maxArtifactBytes",toValue l.maxArtifactBytes),
  ("maxAttempts",toValue l.maxAttempts),
  ("maxOutputBytes",toValue l.maxOutputBytes),
  ("maxRuntimeMs",toValue l.maxRuntimeMs)]

def decode (v : Value) : Option TaskLimits := do
  let fields ← structFields ["maxRuntimeMs","maxOutputBytes","maxArtifactBytes","maxAttempts"] v
  return {
    maxRuntimeMs := ← field fields "maxRuntimeMs"
    maxOutputBytes := ← field fields "maxOutputBytes"
    maxArtifactBytes := ← field fields "maxArtifactBytes"
    maxAttempts := ← field fields "maxAttempts" }

theorem decode_encode (l : TaskLimits) : decode l.encode = some l := by
  refine (structFields_object (by simp)).trans ?_
  iterate 4 refine field_then (by simp only [Value.find_cons,↓reduceIte,String.reduceEq]; rfl) ?_
  rfl

instance : Serde TaskLimits := ⟨encode,decode⟩
instance : LawfulSerde TaskLimits := ⟨decode_encode⟩

end TaskLimits

namespace TaskSubmission

/-- As a value, in key order. -/
def encode (s : TaskSubmission) : Value := .object [
  ("acceptancePolicySha256",toValue s.acceptancePolicySha256),
  ("artifactScopeSha256",toValue s.artifactScopeSha256),
  ("attemptId",toValue s.attemptId),
  ("cleanupRequired",toValue s.cleanupRequired),
  ("correlationId",toValue s.correlationId),
  ("deadlineUnixMs",toValue s.deadlineUnixMs),
  ("idempotencyKey",toValue s.idempotencyKey),
  ("inputSha256",toValue s.inputSha256),
  ("limits",toValue s.limits),
  ("logicalTaskId",toValue s.logicalTaskId),
  ("permittedEffect",toValue s.permittedEffect),
  ("providerInterfaceVersion",toValue s.providerInterfaceVersion),
  ("retentionMs",toValue s.retentionMs),
  ("schemaVersion",toValue s.schemaVersion)]

/-- A digest of the caller's. -/
def digestField (fields : List (String × Value)) (name : String) : Option Sha256Digest := do
  Sha256Digest.fromStr (← field fields name)

def decode (v : Value) : Option TaskSubmission := do
  let fields ← structFields ["schemaVersion","logicalTaskId","attemptId","correlationId",
    "idempotencyKey","inputSha256","acceptancePolicySha256","artifactScopeSha256",
    "providerInterfaceVersion","deadlineUnixMs","retentionMs","limits","permittedEffect",
    "cleanupRequired"] v
  return {
    schemaVersion := ← field fields "schemaVersion"
    logicalTaskId := ← field fields "logicalTaskId"
    attemptId := ← field fields "attemptId"
    correlationId := ← field fields "correlationId"
    idempotencyKey := ← field fields "idempotencyKey"
    inputSha256 := ← digestField fields "inputSha256"
    acceptancePolicySha256 := ← digestField fields "acceptancePolicySha256"
    artifactScopeSha256 := ← digestField fields "artifactScopeSha256"
    providerInterfaceVersion := ← field fields "providerInterfaceVersion"
    deadlineUnixMs := ← field fields "deadlineUnixMs"
    retentionMs := ← field fields "retentionMs"
    limits := ← field fields "limits"
    permittedEffect := ← field fields "permittedEffect"
    cleanupRequired := ← field fields "cleanupRequired" }

/-- The digests that a caller gives are thirty-two bytes each. -/
structure Whole (s : TaskSubmission) : Prop where
  input : s.inputSha256.Whole
  policy : s.acceptancePolicySha256.Whole
  scope : s.artifactScopeSha256.Whole

theorem digestField_then {fields : List (String × Value)} {name : String} {digest : Sha256Digest}
    {f : Sha256Digest → Option β} (found : Value.find name fields = some (toValue digest))
    (whole : digest.Whole) (rest : f digest = b) : (digestField fields name >>= f) = b := by
  have read : digestField fields name = some digest := by
    rw [digestField,field,found]
    exact Sha256Digest.fromStr_toString whole
  rw [read]
  exact rest

theorem digestField_whole {fields : List (String × Value)} {name : String} {digest : Sha256Digest}
    (read : digestField fields name = some digest) : digest.Whole := by
  obtain ⟨text,-,parsed⟩ := Option.bind_eq_some_iff.mp read
  exact Sha256Digest.fromStr_whole parsed

theorem decode_encode {s : TaskSubmission} (whole : s.Whole) : decode s.encode = some s := by
  refine (structFields_object (by simp)).trans ?_
  iterate 5 refine field_then (by simp only [Value.find_cons,↓reduceIte,String.reduceEq]; rfl) ?_
  refine digestField_then (by simp only [Value.find_cons,↓reduceIte,String.reduceEq])
    whole.input ?_
  refine digestField_then (by simp only [Value.find_cons,↓reduceIte])
    whole.policy ?_
  refine digestField_then (by simp only [Value.find_cons,↓reduceIte,String.reduceEq])
    whole.scope ?_
  iterate 6 refine field_then (by simp only [Value.find_cons,↓reduceIte,String.reduceEq]; rfl) ?_
  rfl

theorem decode_whole {v : Value} {s : TaskSubmission} (read : decode v = some s) : s.Whole := by
  rw [decode] at read
  -- The entries, and the five texts before the digests.
  iterate 6 obtain ⟨_,-,read⟩ := Option.bind_eq_some_iff.mp read
  obtain ⟨input,first,read⟩ := Option.bind_eq_some_iff.mp read
  obtain ⟨policy,second,read⟩ := Option.bind_eq_some_iff.mp read
  obtain ⟨scope,third,read⟩ := Option.bind_eq_some_iff.mp read
  iterate 6 obtain ⟨_,-,read⟩ := Option.bind_eq_some_iff.mp read
  obtain rfl := Option.some.inj read
  exact ⟨digestField_whole first,digestField_whole second,digestField_whole third⟩

instance : Serde TaskSubmission := ⟨encode,decode⟩

/-- `char::is_whitespace`: the Unicode property White_Space. -/
def isWhitespace (c : Char) : Bool :=
  (9 ≤ c.toNat && c.toNat ≤ 13) || (0x2000 ≤ c.toNat && c.toNat ≤ 0x200A) ||
    [0x20,0x85,0xA0,0x1680,0x2028,0x2029,0x202F,0x205F,0x3000].contains c.toNat

def validIdentifier (value : String) : Bool :=
  !value.isEmpty && decide (value.utf8ByteSize ≤ maxTaskIdentifierBytes) &&
    value.toList.all fun c => !isControl c && !isWhitespace c

variable [FloatText] [Sha256]

def parse (value : Value) (arguments : Entries Value) (expectedProviderInterfaceVersion : String)
    (requiredEffect : SideEffectClass) (nowUnixMs : Nat) : Except String TaskSubmission := do
  reject ((Value.object arguments).byteLength > maxTaskInputBytes) "GM_TASK_INPUT_LIMIT_EXCEEDED"
  let submission ← okOr (decode value) "GM_TASK_SUBMISSION_INVALID"
  reject (submission.schemaVersion ≠ taskSubmissionSchema) "GM_TASK_SCHEMA_UNSUPPORTED"
  reject (¬[submission.logicalTaskId,submission.attemptId,submission.correlationId,
    submission.idempotencyKey,submission.providerInterfaceVersion].all validIdentifier)
    "GM_TASK_IDENTITY_INVALID"
  reject (submission.inputSha256 ≠ .ofJson (.object arguments)) "GM_TASK_INPUT_IDENTITY_MISMATCH"
  reject (submission.providerInterfaceVersion ≠ expectedProviderInterfaceVersion)
    "GM_TASK_PROVIDER_VERSION_UNSUPPORTED"
  reject (submission.acceptancePolicySha256 = .default ∨ submission.artifactScopeSha256 = .default)
    "GM_TASK_POLICY_IDENTITY_INVALID"
  reject (submission.deadlineUnixMs ≤ nowUnixMs ∨
    submission.deadlineUnixMs - nowUnixMs > maxTaskRetentionMs) "GM_TASK_DEADLINE_INVALID"
  reject (submission.retentionMs < submission.limits.maxRuntimeMs ∨
    submission.deadlineUnixMs > saturatingAdd nowUnixMs submission.retentionMs ∨
    submission.retentionMs > maxTaskRetentionMs ∨
    submission.limits.maxRuntimeMs = 0 ∨ submission.limits.maxRuntimeMs > maxTaskRuntimeMs ∨
    submission.limits.maxOutputBytes = 0 ∨ submission.limits.maxOutputBytes > maxTaskOutputBytes ∨
    submission.limits.maxArtifactBytes = 0 ∨
    submission.limits.maxArtifactBytes > maxTaskArtifactBytes ∨
    submission.limits.maxAttempts ≠ 1) "GM_TASK_RESOURCE_LIMIT_INVALID"
  reject (submission.permittedEffect ≠ requiredEffect) "GM_TASK_EFFECT_MISMATCH"
  reject (¬submission.cleanupRequired) "GM_TASK_CLEANUP_REQUIRED"
  return submission

/-- What the routing uses of an accepted submission. -/
structure Accepted (value : Value) (now : Nat) (s : TaskSubmission) : Prop where
  decoded : decode value = some s
  ahead : now < s.deadlineUnixMs
  deadline : s.deadlineUnixMs ≤ now + s.retentionMs
  runtime : 0 < s.limits.maxRuntimeMs

theorem parse_ok {value : Value} {arguments : Entries Value} {version : String}
    {effect : SideEffectClass} {now : Nat} {s : TaskSubmission}
    (parsed : parse value arguments version effect now = .ok s) : Accepted value now s := by
  simp only [parse,Except.then_ok,okOr_bind_ok,reject_ok,not_or,not_le,not_lt] at parsed
  obtain ⟨-,x,decoded,-,-,-,-,-,⟨ahead,-⟩,⟨-,deadline,-,runtime,-⟩,-,-,same⟩ := parsed
  cases same
  refine ⟨decoded,ahead,?_,by omega⟩
  unfold saturatingAdd at deadline
  omega

end TaskSubmission

variable [FloatText] [Sha256]

def submissionBinding (tool : FederatedTool) (task : TaskSubmission)
    (sourceSnapshotDigest : Sha256Digest) : Value := .object [
  ("capabilityId",toValue tool.identity.digest),
  ("capabilitySchemaSha256",toValue tool.identity.schemaDigest),
  ("capabilitySource",toValue tool.identity.source),
  ("schemaVersion",toValue taskRouteSchema),
  ("sourceConfigurationSha256",toValue tool.identity.sourceConfigurationDigest),
  ("sourceSnapshotSha256",toValue sourceSnapshotDigest),
  ("task",toValue task)]

namespace TaskRouteRecord

omit [FloatText] [Sha256]

def outputLimit (record : TaskRouteRecord) : Nat :=
  ((record.submissionBinding.pointer "/task/limits/maxOutputBytes").bind Value.asU64).getD
    maxTaskOutputBytes

def deadline (record : TaskRouteRecord) : Nat :=
  ((record.submissionBinding.pointer "/task/deadlineUnixMs").bind Value.asU64).getD
    record.expiresAtUnixMs

def runtime (record : TaskRouteRecord) : Nat :=
  ((record.submissionBinding.pointer "/task/limits/maxRuntimeMs").bind Value.asU64).getD
    maxTaskRuntimeMs

def executionCutoff (record : TaskRouteRecord) : Nat :=
  min record.deadline (saturatingAdd record.createdAtUnixMs record.runtime)

theorem executionCutoff_le (record : TaskRouteRecord) :
    record.executionCutoff ≤ record.deadline := min_le_left ..

end TaskRouteRecord

/-- A binding is written in key order already. -/
theorem canonicalJson_binding (tool : FederatedTool) (task : TaskSubmission)
    (snapshot : Sha256Digest) :
    canonicalJson (submissionBinding tool task snapshot) = submissionBinding tool task snapshot := by
  have text : ∀ t : String, canonicalJson (.string t) = .string t := fun t => by
    simp only [canonicalJson]
  have number : ∀ n, canonicalJson (.number n) = .number n := fun n => by
    simp only [canonicalJson]
  have flag : ∀ b, canonicalJson (.bool b) = .bool b := fun b => by simp only [canonicalJson]
  have limits : canonicalJson task.limits.encode = task.limits.encode := by
    refine canonicalJson_object (by simp only [Entries.Sorted,List.map_cons,List.map_nil]; decide) ?_
    simp [toValue,number]
  have encoded : canonicalJson task.encode = task.encode := by
    refine canonicalJson_object (by simp only [Entries.Sorted,List.map_cons,List.map_nil]; decide) ?_
    simpa [toValue,number,text,flag] using limits
  refine canonicalJson_object (by simp only [Entries.Sorted,List.map_cons,List.map_nil]; decide) ?_
  simpa [toValue,text] using encoded

theorem deadline_bound (record : TaskRouteRecord) {tool : FederatedTool} {task : TaskSubmission}
    {snapshot : Sha256Digest}
    (binding : record.submissionBinding = submissionBinding tool task snapshot) :
    record.deadline = task.deadlineUnixMs := by
  rw [TaskRouteRecord.deadline,binding]
  rfl

end GaugeMesh
