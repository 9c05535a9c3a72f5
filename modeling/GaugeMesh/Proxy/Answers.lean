import GaugeMesh.Proxy.Submission
import GaugeMesh.Storage.Interface

/-! `task_proxy.rs`: the protocol values a task proxy reads and answers with, made from
the record of a route. The types of the protocol library are given by their fields. -/
namespace GaugeMesh
open Json

def taskExecutionMetaKey : String := "dev.gaugemesh/taskExecution"

inductive McpError where
  | invalidParams (message : String)
  | internalError (message : String)
  deriving DecidableEq

inductive TaskStatus where
  | working
  | inputRequired
  | completed
  | failed
  | cancelled
  deriving DecidableEq

def TaskStatus.isTerminal : TaskStatus → Bool
  | completed | failed | cancelled => true
  | working | inputRequired => false

structure McpTask where
  taskId : String
  status : TaskStatus
  statusMessage : Option String
  createdAt : String
  lastUpdatedAt : String
  ttlMs : Option Nat
  pollIntervalMs : Option Nat
  deriving DecidableEq

abbrev JsonObject := Entries Value
abbrev MetaObject := Entries Value

inductive TaskPayload where
  | working
  | inputRequired (inputRequests : Value)
  | completed (result : JsonObject)
  | failed (error : JsonObject)
  | cancelled
  deriving DecidableEq

def TaskPayload.error : TaskPayload → Option JsonObject
  | failed error => some error
  | _ => none

structure DetailedTask where
  task : McpTask
  payload : TaskPayload
  deriving DecidableEq

structure GetTaskResult where
  isComplete : Bool
  task : DetailedTask
  metaObject : Option MetaObject
  deriving DecidableEq

structure CreateTaskResult where
  task : McpTask
  metaObject : Option MetaObject
  deriving DecidableEq

/-- The content of a completed call is only passed on. -/
structure CallToolResult where
  content : Value
  metaObject : Option MetaObject
  deriving DecidableEq

inductive CallToolResponse where
  | task (created : CreateTaskResult)
  | complete (result : CallToolResult)
  | inputRequired
  | other
  deriving DecidableEq

structure CallToolRequestParams where
  name : String
  arguments : JsonObject
  metaObject : MetaObject
  deriving DecidableEq

/-- The protocol library: how its values are written and read. A detailed task has a
top-level `error` exactly when it failed. -/
class Rmcp where
  detailedTask : DetailedTask → Option Value
  readDetailedTask : Value → Option DetailedTask
  status : DetailedTask → TaskStatus
  callToolResult : CallToolResult → Option Value
  getTaskResultBytes : GetTaskResult → Option Nat
  detailedTask_error : detailedTask detailed = some v →
    v.get "error" = detailed.payload.error.map Value.object

/-- The calendar library: UTC time with milliseconds, where the date is in range. -/
class Chrono where
  toRfc3339 : Nat → Option String

def rfc3339 [Chrono] (unixMs : Nat) : String :=
  ((if unixMs ≤ 2^63 - 1 then some unixMs else none).bind Chrono.toRfc3339).getD
    "1970-01-01T00:00:00.000Z"

def phaseDebug : TaskRoutePhase → String
  | .prepared => "Prepared"
  | .dispatching => "Dispatching"
  | .routed => "Routed"
  | .terminal => "Terminal"
  | .reconciliationRequired => "ReconciliationRequired"
  | .cancelRequested => "CancelRequested"

def TaskRouteError.text : TaskRouteError → String
  | invalidIdentifier name => "GM_TASK_ROUTE_INVALID_IDENTIFIER:" ++ name
  | invalidTtl => "GM_TASK_ROUTE_INVALID_TTL"
  | invalidTimestamp => "GM_TASK_ROUTE_INVALID_TIMESTAMP"
  | numericRange => "GM_TASK_ROUTE_NUMERIC_RANGE"
  | capabilitySourceMismatch => "GM_TASK_ROUTE_CAPABILITY_SOURCE_MISMATCH"
  | requestDigestMismatch => "GM_TASK_ROUTE_REQUEST_DIGEST_MISMATCH"
  | submissionBindingTooLarge actual maximum => "GM_TASK_ROUTE_SUBMISSION_BINDING_TOO_LARGE:" ++
      toString actual ++ ">" ++ toString maximum
  | terminalStateTooLarge actual maximum => "GM_TASK_ROUTE_TERMINAL_STATE_TOO_LARGE:" ++
      toString actual ++ ">" ++ toString maximum
  | terminalStateOutsideTerminalPhase => "GM_TASK_ROUTE_TERMINAL_STATE_OUTSIDE_TERMINAL_PHASE"
  | terminalStateMissing => "GM_TASK_ROUTE_TERMINAL_STATE_MISSING"
  | preparedHasUpstreamTask => "GM_TASK_ROUTE_PREPARED_HAS_UPSTREAM_TASK"
  | routedWithoutUpstreamTask => "GM_TASK_ROUTE_ROUTED_WITHOUT_UPSTREAM_TASK"
  | notPreparedForBegin => "GM_TASK_ROUTE_NOT_PREPARED_FOR_BEGIN"
  | upstreamTaskChanged => "GM_TASK_ROUTE_UPSTREAM_TASK_CHANGED"
  | upstreamTaskAssignedOutsideRoutedTransition =>
      "GM_TASK_ROUTE_UPSTREAM_TASK_ASSIGNED_OUTSIDE_ROUTED_TRANSITION"
  | invalidTransition source target => "GM_TASK_ROUTE_INVALID_TRANSITION:" ++
      phaseDebug source ++ "->" ++ phaseDebug target
  | integrityMismatch => "GM_TASK_ROUTE_INTEGRITY_MISMATCH"

/-- The texts of the database and of the parser behind the first two are left out. -/
def TaskRouteStorageError.text : TaskRouteStorageError → String
  | sqlite => "GM_STORAGE_SQLITE"
  | json => "GM_STORAGE_SERIALIZATION"
  | taskRoute error => "GM_STORAGE_TASK_ROUTE:" ++ error.text
  | poisoned => "GM_STORAGE_LOCK_POISONED"
  | taskRouteIntegrity => "GM_STORAGE_TASK_ROUTE_INTEGRITY"
  | idempotencyConflict => "GM_STORAGE_IDEMPOTENCY_CONFLICT"
  | publicTaskIdCollision => "GM_STORAGE_PUBLIC_TASK_ID_COLLISION"
  | taskRouteCapacity => "GM_STORAGE_TASK_ROUTE_CAPACITY"
  | staleTransition => "GM_STORAGE_STALE_TRANSITION"

def unknownTask : McpError := .invalidParams "GM_TASK_NOT_FOUND"

def invalidTaskRoute (error : TaskRouteError) : McpError := .invalidParams error.text

def storageError : TaskRouteStorageError → McpError
  | .idempotencyConflict => .invalidParams "GM_TASK_IDEMPOTENCY_CONFLICT"
  | .staleTransition => .invalidParams "GM_TASK_STALE_TRANSITION"
  | .taskRouteCapacity => .invalidParams "GM_TASK_ROUTE_CAPACITY"
  | other => .internalError other.text

section Answers
variable [FloatText] [Sha256] [Chrono]

omit [FloatText] [Sha256] in
def taskFromRecord (record : TaskRouteRecord) (status : TaskStatus) (message : String) : McpTask where
  taskId := record.publicTaskId.text
  status := status
  statusMessage := some message
  createdAt := rfc3339 record.createdAtUnixMs
  lastUpdatedAt := rfc3339 record.updatedAtUnixMs
  ttlMs := some record.ttlMs
  pollIntervalMs := some 100

/-- What a cached terminal state says about the execution. -/
def executionState (cached : Value) : Option String :=
  (cached.pointer "/error/data/executionState").bind Value.asStr

def limitations : List String := [
  "upstream completion is not independent verification",
  "task routing does not provide hostile-code containment",
  "remote workers must enforce declared runtime and artifact limits; no autonomous watchdog runs after acknowledgement",
  "no exactly-once external-execution claim"]

def routeExecutionState (record : TaskRouteRecord) : String :=
  match record.phase with
  | .prepared => "not_dispatched"
  | .dispatching => "acknowledgement_pending"
  | .routed => "upstream_reported"
  | .cancelRequested => "cancellation_requested"
  | .reconciliationRequired => "unknown"
  | .terminal => (record.cachedTerminalState.bind executionState).getD "upstream_reported"

def routeMeta (record : TaskRouteRecord) (verificationStatus : String) : MetaObject := [
  ("dev.gaugemesh/taskRoute",.object [
    ("capabilityId",toValue record.capability.digest),
    ("executionState",toValue (routeExecutionState record)),
    ("limitations",toValue limitations),
    ("policyAcceptance",.string "not_evaluated_by_gaugemesh"),
    ("publicTaskId",toValue record.publicTaskId),
    ("reconciliationRequired",toValue (decide (record.phase = .reconciliationRequired ∨
      record.phase = .cancelRequested))),
    ("requestSha256",toValue record.requestDigest),
    ("routePhase",toValue record.phase),
    ("schemaVersion",toValue taskRouteSchema),
    ("source",toValue record.capabilitySource),
    ("submission",record.submissionBinding),
    ("transactionOutcome",.string "not_applicable_to_task_routing"),
    ("transitionVersion",toValue record.transitionVersion),
    ("verificationStatus",toValue verificationStatus)])]

def executionEnvelope (record : TaskRouteRecord) : Value := .object [
  ("publicTaskId",toValue record.publicTaskId),
  ("requestSha256",toValue record.requestDigest),
  ("schemaVersion",toValue taskExecutionSchema),
  ("submission",record.submissionBinding),
  ("upstreamSessionId",toValue record.upstreamSessionId)]

def executionAckMatches (metaObject : Option MetaObject) (record : TaskRouteRecord) : Bool :=
  ((metaObject.bind (Value.find taskExecutionMetaKey)).map fun v =>
    v.same (executionEnvelope record)).getD false

/-- The route a call is made for, as its envelope tells. -/
def CallToolRequestParams.publicTaskId (request : CallToolRequestParams) : Option String :=
  ((Value.find taskExecutionMetaKey request.metaObject).bind (Value.get "publicTaskId")).bind Value.asStr

def rejectionError (code executionState : String) : JsonObject := [
  ("code",.number (.negInt 32000)),
  ("data",.object [
    ("automaticResubmission",.bool false),
    ("brokerAcceptance",.string "rejected"),
    ("executionState",.string executionState),
    ("reconciliationRequired",.bool false)]),
  ("message",.string code)]

def knownRejectionTask (record : TaskRouteRecord) (code executionState : String) :
    GetTaskResult where
  isComplete := true
  task := ⟨taskFromRecord record .failed code,.failed (rejectionError code executionState)⟩
  metaObject := some (routeMeta record "rejected")

def workingTaskWithCode (record : TaskRouteRecord) (code : String) : GetTaskResult where
  isComplete := true
  task := ⟨taskFromRecord record .working code,.working⟩
  metaObject := some (routeMeta record "not_performed")

def workingTask (record : TaskRouteRecord) : GetTaskResult :=
  workingTaskWithCode record "submission is durable; routing acknowledgement is pending"

def reconciliationTaskWithCode (record : TaskRouteRecord) (code : String) : GetTaskResult :=
  workingTaskWithCode record code

def reconciliationTask (record : TaskRouteRecord) : GetTaskResult :=
  reconciliationTaskWithCode record "GM_TASK_RECONCILIATION_REQUIRED"

variable [Rmcp]

def taskHandle (record : TaskRouteRecord) (status : Option TaskStatus) : CallToolResponse :=
  let status := status.getD (match record.phase with
    | .terminal => ((record.cachedTerminalState.bind Rmcp.readDetailedTask).map Rmcp.status).getD .failed
    | .prepared | .dispatching | .routed | .reconciliationRequired | .cancelRequested => .working)
  let message := match record.phase with
    | .prepared => "submission is durable; routing acknowledgement is pending"
    | .dispatching => "dispatch intent is durable; upstream acknowledgement is pending"
    | .reconciliationRequired => "GM_TASK_RECONCILIATION_REQUIRED"
    | .cancelRequested => "cancellation requested; poll for terminal state"
    | .routed => "routed to the bound upstream capability"
    | .terminal => "terminal state is durably cached"
  .task ⟨taskFromRecord record status message,some (routeMeta record "not_performed")⟩

omit [FloatText] [Sha256] [Chrono] in
def cachedDetailedTask (record : TaskRouteRecord) : Except McpError DetailedTask := do
  let cached ← okOr record.cachedTerminalState (.internalError "GM_TASK_TERMINAL_STATE_MISSING")
  okOr (Rmcp.readDetailedTask cached) (.internalError "GM_TASK_TERMINAL_STATE_INVALID")

def cachedTask (record : TaskRouteRecord) : Except McpError GetTaskResult := do
  let detailed ← cachedDetailedTask record
  return {
    isComplete := true
    task := { detailed with task := { detailed.task with taskId := record.publicTaskId.text } }
    metaObject := some (routeMeta record "not_performed") }

end Answers

variable [Rmcp]

/-- Only a failed task has an execution state, the one its error names. -/
theorem executionState_detailed {detailed : DetailedTask} {v : Value}
    (written : Rmcp.detailedTask detailed = some v) : executionState v =
      detailed.payload.error.bind fun error =>
        ((Value.object error).pointer "/data/executionState").bind Value.asStr := by
  have error := Rmcp.detailedTask_error written
  have step : v.pointer "/error/data/executionState" =
      (v.get "error").bind fun e => e.pointer "/data/executionState" := by
    cases v <;> rfl
  rw [executionState,step,error]
  rcases detailed.payload.error <;> rfl

omit [Rmcp] in
theorem executionState_rejection (code state : String) :
    ((Value.object (rejectionError code state)).pointer "/data/executionState").bind Value.asStr =
      some state := rfl

omit [Rmcp] in
theorem publicTaskId_envelope (name : String) (arguments : JsonObject) (record : TaskRouteRecord) :
    CallToolRequestParams.publicTaskId
      ⟨name,arguments,[(taskExecutionMetaKey,executionEnvelope record)]⟩ =
        some record.publicTaskId.text := rfl

end GaugeMesh
