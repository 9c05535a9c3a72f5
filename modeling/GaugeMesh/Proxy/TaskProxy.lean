import GaugeMesh.Interleaving.Program
import GaugeMesh.Proxy.Answers

/-! `task_proxy.rs`: the operations of a task proxy as programs over the route store, the
clock and the upstreams. The per-route locks, which only hold callers of one proxy apart,
are left out: without them there are more interleavings, not fewer. -/
namespace GaugeMesh
open Json Interleaving

def maxRouteCasAttempts : Nat := 4
def maxRawManagementTaskIdBytes : Nat := 4 * 1024

/-- What an upstream request with a time limit comes back with. -/
inductive UpstreamReply (α : Type) where
  | elapsed
  | failed
  | ok (value : α)

inductive ProxyOp where
  | now
  | randomTaskId
  | findTaskRoute (caller : TaskRouteCaller) (key : TaskRouteIdempotencyKey)
  | beginOrExisting (record : TaskRouteRecord)
  | getTaskRoute (caller : TaskRouteCaller) (publicTaskId : PublicTaskId)
  | compareAndSetTaskRoute (caller : TaskRouteCaller) (publicTaskId : PublicTaskId)
    (expectedTransitionVersion : Nat) (update : TaskRouteUpdate)
  | purgeExpiredTaskRoutes (nowUnixMs maxRecords : Nat)
  | sourceSnapshotDigest (source : SourceId)
  | sourceSessionId (source : SourceId)
  | sourceConfigurationDigest (source : SourceId)
  | callTool (source : SourceId) (request : CallToolRequestParams) (sessionId : String)
    (timeoutMs : Nat)
  | getTask (source : SourceId) (taskId sessionId : String) (timeoutMs : Nat)
  | cancelTask (source : SourceId) (taskId sessionId : String)
  deriving DecidableEq

/-- `none` from the clock is a clock that cannot be read; a cancel answers whether it
was acknowledged in time. -/
@[reducible] def ProxyOp.Ret : ProxyOp → Type
  | now => Option Nat
  | randomTaskId => PublicTaskId
  | findTaskRoute .. => Except TaskRouteStorageError (Option TaskRouteRecord)
  | beginOrExisting _ => Except TaskRouteStorageError BeginTaskRouteResult
  | getTaskRoute .. => Except TaskRouteStorageError (Option TaskRouteRecord)
  | compareAndSetTaskRoute .. => Except TaskRouteStorageError (Option TaskRouteRecord)
  | purgeExpiredTaskRoutes .. => Except TaskRouteStorageError Nat
  | sourceSnapshotDigest _ => Option Sha256Digest
  | sourceSessionId _ => Option String
  | sourceConfigurationDigest _ => Option Sha256Digest
  | callTool .. => UpstreamReply CallToolResponse
  | getTask .. => UpstreamReply GetTaskResult
  | cancelTask .. => Bool

abbrev Proxy := Fallible ProxyOp ProxyOp.Ret McpError

structure TaskProxy where
  instanceId : String
  deriving DecidableEq

namespace TaskProxy

def ask (op : ProxyOp) : Proxy op.Ret := Fallible.perform op

/-- `result.map_err(convert)?`. -/
def orElse (result : Except ε α) (convert : ε → McpError) : Proxy α :=
  Fallible.ofExcept (match result with
    | .ok a => .ok a
    | .error error => .error (convert error))

/-- `option.ok_or(error)?`. -/
def required (value : Option α) (error : McpError) : Proxy α := Fallible.ofExcept (okOr value error)

def callerOf (identity : AuthenticatedIdentity) : Except McpError TaskRouteCaller :=
  match TaskRouteCaller.new identity.principal identity.tenant with
  | .ok caller => .ok caller
  | .error error => .error (invalidTaskRoute error)

def nowUnixMs : Proxy Nat := do
  required (← ask .now) (.internalError "GM_CLOCK_INVALID")

def transitionTime (record : TaskRouteRecord) : Proxy Nat := do
  return max (← nowUnixMs) record.updatedAtUnixMs

def readTaskRoute (caller : TaskRouteCaller) (publicTaskId : PublicTaskId) :
    Proxy TaskRouteRecord := do
  required (← orElse (← ask (.getTaskRoute caller publicTaskId)) storageError) unknownTask

def update (record : TaskRouteRecord) (change : TaskRouteUpdate) : Proxy TaskRouteRecord := do
  match ← ask (.compareAndSetTaskRoute record.caller record.publicTaskId record.transitionVersion
      change) with
  | .ok (some updated) => return updated
  | .ok none => throw unknownTask
  | .error .staleTransition => readTaskRoute record.caller record.publicTaskId
  | .error error => throw (storageError error)

def persistCancellation : Nat → TaskRouteRecord → Proxy TaskRouteRecord
  | 0, _ => throw (.internalError "GM_TASK_STALE_TRANSITION")
  | attempts + 1, current =>
    if current.phase = .cancelRequested ∨ current.phase = .terminal then return current
    else do
      let time ← transitionTime current
      let next ← update current (.cancelRequested time)
      persistCancellation attempts next

def persistCancellationIntent (record : TaskRouteRecord) : Proxy TaskRouteRecord :=
  persistCancellation maxRouteCasAttempts record

def markReconciliation : Nat → TaskRouteRecord → Proxy TaskRouteRecord
  | 0, _ => throw (.internalError "GM_TASK_STALE_TRANSITION")
  | attempts + 1, current =>
    if current.phase = .reconciliationRequired ∨ current.phase = .cancelRequested ∨
        current.phase = .terminal then return current
    else do
      let time ← transitionTime current
      let next ← update current (.reconciliationRequired time)
      markReconciliation attempts next

def markReconciliationRequired (record : TaskRouteRecord) : Proxy TaskRouteRecord :=
  markReconciliation maxRouteCasAttempts record

section
variable [Rmcp] [Chrono]

def finishTerminalWithin : Nat → TaskRouteRecord → DetailedTask → Proxy TaskRouteRecord
  | 0, _, _ => throw (.internalError "GM_TASK_RECONCILIATION_REQUIRED")
  | attempts + 1, current, detailed =>
    if current.phase = .terminal then return current
    else do
      let terminalTime ← transitionTime current
      let stamped : DetailedTask :=
        { detailed with task := { detailed.task with lastUpdatedAt := rfc3339 terminalTime } }
      let cached ← required (Rmcp.detailedTask stamped) (.internalError "GM_TASK_RESULT_SERIALIZATION")
      let next ← update current (.terminal terminalTime cached)
      finishTerminalWithin attempts next stamped

def finishTerminal (record : TaskRouteRecord) (detailed : DetailedTask) : Proxy TaskRouteRecord :=
  finishTerminalWithin maxRouteCasAttempts record detailed

end

def bindUpstream (record : TaskRouteRecord) (upstreamTaskId : UpstreamTaskId) :
    Nat → TaskRouteRecord → Proxy (TaskRouteRecord × Bool)
  | 0, _ => throw (.internalError "GM_TASK_STALE_TRANSITION")
  | attempts + 1, current =>
    if current.upstreamTaskId = some upstreamTaskId then
      return (current,decide (current.phase = .cancelRequested))
    else if current.upstreamTaskId.isSome ∨ current.phase = .terminal then return (current,true)
    else if current.phase = .dispatching ∧ current.dispatchOwnerId ≠ record.dispatchOwnerId then
      return (current,true)
    else if current.phase = .prepared ∨ current.phase = .routed then
      throw (.internalError "GM_TASK_ROUTE_INVALID")
    else do
      let time ← transitionTime current
      let change := if current.phase = .cancelRequested
        then TaskRouteUpdate.cancelRequestedWithUpstream upstreamTaskId time
        else .routed upstreamTaskId time
      match ← ask (.compareAndSetTaskRoute current.caller current.publicTaskId
          current.transitionVersion change) with
      | .ok (some bound) => return (bound,decide (bound.phase = .cancelRequested))
      | .ok none => throw unknownTask
      | .error .staleTransition =>
        let next ← readTaskRoute record.caller record.publicTaskId
        bindUpstream record upstreamTaskId attempts next
      | .error error => throw (storageError error)

def bindUpstreamTask (record : TaskRouteRecord) (upstreamTaskId : UpstreamTaskId) :
    Proxy (TaskRouteRecord × Bool) :=
  bindUpstream record upstreamTaskId maxRouteCasAttempts record

def cancelUpstream (record : TaskRouteRecord) (upstreamTaskId : UpstreamTaskId) : Proxy Bool :=
  ask (.cancelTask record.capabilitySource upstreamTaskId.text record.upstreamSessionId)

def cancelRawUpstream (record : TaskRouteRecord) (upstreamTaskId : String) : Proxy Bool :=
  if upstreamTaskId.isEmpty ∨ upstreamTaskId.utf8ByteSize > maxRawManagementTaskIdBytes ∨
      upstreamTaskId.toList.any isControl then return false
  else ask (.cancelTask record.capabilitySource upstreamTaskId record.upstreamSessionId)

def requestCancellation (record : TaskRouteRecord) : Proxy TaskRouteRecord := do
  let cancelling ← persistCancellationIntent record
  if cancelling.phase = .terminal then return cancelling
  else match cancelling.upstreamTaskId with
    | none => return cancelling
    | some upstreamTaskId =>
      if ← cancelUpstream cancelling upstreamTaskId then return cancelling
      else markReconciliationRequired cancelling

/-- The conditions are checked one after the other, as far as they hold. -/
def sourceBindingIsCurrent (record : TaskRouteRecord) : Proxy Bool := do
  let expected := ((record.submissionBinding.get "sourceSnapshotSha256").bind Value.asStr).bind
    Sha256Digest.fromStr
  if expected.isNone then return false
  else if (← ask (.sourceSessionId record.capabilitySource)) ≠ some record.upstreamSessionId then
    return false
  else if (← ask (.sourceSnapshotDigest record.capabilitySource)) ≠ expected then return false
  else return decide ((← ask (.sourceConfigurationDigest record.capabilitySource)) =
    some record.capability.sourceConfigurationDigest)

/-- Whether a route the check concerns is bound to a source that has changed. -/
def drifted (record : TaskRouteRecord) (concerned : Prop) [Decidable concerned] : Proxy Bool :=
  if concerned then do return !(← sourceBindingIsCurrent record) else return false

variable [FloatText] [Sha256] [Rmcp] [Chrono]

def finishNonDispatchOnce (record : TaskRouteRecord) (code : String) : Proxy TaskRouteRecord := do
  let time ← transitionTime record
  let cached ← required (Rmcp.detailedTask (knownRejectionTask record code "not_dispatched").task)
    (.internalError "GM_TASK_RESULT_SERIALIZATION")
  -- the verdict is bound to the observed version: a stale one is not tried again
  match ← ask (.compareAndSetTaskRoute record.caller record.publicTaskId record.transitionVersion
      (.terminal time cached)) with
  | .ok (some updated) => return updated
  | .ok none => throw unknownTask
  | .error .staleTransition => readTaskRoute record.caller record.publicTaskId
  | .error error => throw (storageError error)

def existingSubmission (record : TaskRouteRecord) : Proxy CallToolResponse :=
  match record.phase with
  | .terminal => do
    let cached ← Fallible.ofExcept (cachedDetailedTask record)
    return taskHandle record (some (Rmcp.status cached))
  | .routed | .cancelRequested => return taskHandle record none
  | .prepared | .dispatching | .reconciliationRequired => return taskHandle record (some .working)

def finishKnownRejection (record : TaskRouteRecord) (code : String) : Proxy CallToolResponse := do
  let terminal ← finishTerminal record (knownRejectionTask record code "completed").task
  let cached ← Fallible.ofExcept (cachedDetailedTask terminal)
  return taskHandle terminal (some (Rmcp.status cached))

def finishKnownNonDispatch (record : TaskRouteRecord) (code : String) : Proxy CallToolResponse := do
  existingSubmission (← finishNonDispatchOnce record code)

def finishKnownRejectionResult (record : TaskRouteRecord) (code : String) :
    Proxy GetTaskResult := do
  let terminal ← finishTerminal record (knownRejectionTask record code "completed").task
  Fallible.ofExcept (cachedTask terminal)

def finishKnownNonDispatchResult (record : TaskRouteRecord) (code : String) :
    Proxy GetTaskResult := do
  let current ← finishNonDispatchOnce record code
  if current.phase = .terminal then Fallible.ofExcept (cachedTask current)
  else return workingTask current

/-- A lost race is not an error. -/
def claimDispatch (proxy : TaskProxy) (record : TaskRouteRecord) :
    Proxy (Option TaskRouteRecord) := do
  let time ← transitionTime record
  match ← ask (.compareAndSetTaskRoute record.caller record.publicTaskId record.transitionVersion
      (.dispatching proxy.instanceId time)) with
  | .ok (some claimed) => return some claimed
  | .ok none => throw unknownTask
  | .error .staleTransition => return none
  | .error error => throw (storageError error)

/-- `mark_reconciliation_required` and the handle of a route whose outcome is unknown. -/
def reconciled (record : TaskRouteRecord) : Proxy CallToolResponse := do
  let unknown ← markReconciliationRequired record
  return taskHandle unknown (some .working)

/-- The upstream acknowledged the call with a task of its own. -/
def acknowledged (record : TaskRouteRecord) (created : CreateTaskResult) :
    Proxy CallToolResponse :=
  match UpstreamTaskId.new created.task.taskId with
  | .error _ => do
    let _ ← cancelRawUpstream record created.task.taskId
    reconciled record
  | .ok upstreamTaskId => do
    let bound ← ExceptT.lift (bindUpstreamTask record upstreamTaskId).run
    match bound with
    | .error error => do
      let _ ← cancelUpstream record upstreamTaskId
      throw error
    | .ok (routed,cancellationRequired) =>
      if cancellationRequired then
        if routed.upstreamTaskId = some upstreamTaskId ∧ routed.phase ≠ .terminal then do
          let cancelling ← requestCancellation routed
          return taskHandle cancelling none
        else do
          let _ ← cancelUpstream routed upstreamTaskId
          return taskHandle routed none
      else if routed.phase ≠ .routed then do
        let _ ← cancelUpstream routed upstreamTaskId
        return taskHandle routed none
      else if ¬executionAckMatches created.metaObject routed then do
        let cancelling ← requestCancellation routed
        reconciled cancelling
      else if (← nowUnixMs) ≥ routed.executionCutoff then do
        let cancelling ← requestCancellation routed
        return taskHandle cancelling none
      else return taskHandle routed (some .working)

/-- The upstream answered with the result itself. -/
def completed (record : TaskRouteRecord) (result : CallToolResult) : Proxy CallToolResponse :=
  if ¬executionAckMatches result.metaObject record then reconciled record
  else do
    if (← nowUnixMs) ≥ record.executionCutoff then
      finishKnownRejection record "GM_TASK_DEADLINE_EXCEEDED"
    else do
      let failure := McpError.internalError "GM_TASK_RESULT_SERIALIZATION"
      let object ← required ((Rmcp.callToolResult result).bind Value.asObject) failure
      let detailed : DetailedTask :=
        ⟨taskFromRecord record .completed "execution completed",.completed object⟩
      let serialized ← required (Rmcp.detailedTask detailed) failure
      if serialized.byteLength > record.outputLimit ∨
          serialized.byteLength > maxCachedTerminalStateBytes then
        finishKnownRejection record "GM_TASK_OUTPUT_LIMIT_EXCEEDED"
      else do
        let terminal ← finishTerminal record detailed
        let cached ← Fallible.ofExcept (cachedDetailedTask terminal)
        return taskHandle terminal (some (Rmcp.status cached))

def settle (record : TaskRouteRecord) : UpstreamReply CallToolResponse → Proxy CallToolResponse
  | .ok (.task created) => acknowledged record created
  | .ok (.complete result) => completed record result
  | .elapsed | .failed | .ok .inputRequired | .ok .other => reconciled record

/-- The one call of a claimed route, if there is time left for it. -/
def dispatch (tool : FederatedTool) (arguments : JsonObject) (record : TaskRouteRecord) :
    Proxy CallToolResponse := do
  let request : CallToolRequestParams :=
    ⟨tool.nativeName,arguments,[(taskExecutionMetaKey,executionEnvelope record)]⟩
  let remainingMs := min (record.executionCutoff - (← nowUnixMs)) maxTaskRuntimeMs
  if remainingMs = 0 then finishKnownNonDispatch record "GM_TASK_RUNTIME_BOUND_REACHED"
  else do
    let response ← ask (.callTool tool.identity.source request record.upstreamSessionId remainingMs)
    settle record response

def purge (nowUnixMs maxRecords : Nat) : Proxy Unit := do
  let _ ← orElse (← ask (.purgeExpiredTaskRoutes nowUnixMs maxRecords)) storageError
  return ()

/-- An elapsed deadline does not prevent the recovery of a retained acceptance. -/
def recover (tool : FederatedTool) (arguments : JsonObject) (submission : Value)
    (caller : TaskRouteCaller) (now : Nat) : Proxy CallToolResponse := do
  let text ← required ((submission.get "idempotencyKey").bind Value.asStr)
    (.invalidParams "GM_TASK_SUBMISSION_INVALID")
  let key ← orElse (TaskRouteIdempotencyKey.new text) invalidTaskRoute
  let found ← orElse (← ask (.findTaskRoute caller key)) storageError
  let record ← required (found.filter fun record => !record.isExpired now)
    (.invalidParams "GM_TASK_DEADLINE_INVALID")
  let parsed ← orElse (TaskSubmission.parse submission arguments
    tool.identity.schemaDigest.toString .nonIdempotentWrite record.createdAtUnixMs) .invalidParams
  let snapshot ← required (← ask (.sourceSnapshotDigest tool.identity.source))
    (.invalidParams "GM_TASK_UPSTREAM_UNAVAILABLE")
  if .ofJson (submissionBinding tool parsed snapshot) ≠ record.requestDigest then
    throw (storageError .idempotencyConflict)
  else if record.phase = .prepared then
    finishKnownNonDispatch record "GM_TASK_RUNTIME_BOUND_REACHED"
  else if record.phase = .terminal then existingSubmission record
  else if record.phase = .dispatching then do
    existingSubmission (← markReconciliationRequired record)
  else if ← sourceBindingIsCurrent record then existingSubmission record
  else do existingSubmission (← markReconciliationRequired record)

/-- The route is stored; whoever claims it may dispatch it. -/
def accepted (proxy : TaskProxy) (tool : FederatedTool) (arguments : JsonObject) (now : Nat)
    (record : TaskRouteRecord) (inserted : Bool) : Proxy CallToolResponse := do
  if ← drifted record (¬inserted ∧ record.phase ≠ .terminal) then do existingSubmission (← markReconciliationRequired record)
  else if inserted then do
    let claimed ← required (← claimDispatch proxy record)
      (.internalError "GM_TASK_DISPATCH_CLAIM_FAILED")
    dispatch tool arguments claimed
  else if record.phase = .prepared then do
    match ← claimDispatch proxy record with
    | some claimed => dispatch tool arguments claimed
    | none => existingSubmission record
  else if record.phase = .dispatching ∧ (record.dispatchOwnerId ≠ some proxy.instanceId ∨
      record.executionCutoff ≤ now) then do
    existingSubmission (← markReconciliationRequired record)
  else existingSubmission record

def submitMode (proxy : TaskProxy) (tool : FederatedTool) (arguments : JsonObject)
    (submission : Value) (identity : AuthenticatedIdentity) (recoveryOnly : Bool) :
    Proxy CallToolResponse := do
  let caller ← Fallible.ofExcept (callerOf identity)
  let now ← nowUnixMs
  purge now 128
  if recoveryOnly ∨ (((submission.get "deadlineUnixMs").bind Value.asU64).any (· ≤ now)) then
    recover tool arguments submission caller now
  else do
    let parsed ← orElse (TaskSubmission.parse submission arguments
      tool.identity.schemaDigest.toString .nonIdempotentWrite now) .invalidParams
    let snapshot ← required (← ask (.sourceSnapshotDigest tool.identity.source))
      (.invalidParams "GM_TASK_UPSTREAM_UNAVAILABLE")
    let session ← required (← ask (.sourceSessionId tool.identity.source))
      (.invalidParams "GM_TASK_UPSTREAM_UNAVAILABLE")
    let binding := submissionBinding tool parsed snapshot
    let key ← orElse (TaskRouteIdempotencyKey.new parsed.idempotencyKey) invalidTaskRoute
    let publicTaskId ← ask .randomTaskId
    let record ← orElse (TaskRouteRecord.prepareWithId publicTaskId caller (some key)
      (.ofJson binding) binding tool.identity session now parsed.retentionMs) invalidTaskRoute
    match ← orElse (← ask (.beginOrExisting record)) storageError with
    | .existing existing => accepted proxy tool arguments now existing false
    | .inserted inserted => accepted proxy tool arguments now inserted true

def submit (proxy : TaskProxy) (tool : FederatedTool) (arguments : JsonObject)
    (submission : Value) (identity : AuthenticatedIdentity) : Proxy CallToolResponse :=
  submitMode proxy tool arguments submission identity false

/-- Recovery cannot create an absent route or dispatch a prepared one. -/
def recoverSubmission (proxy : TaskProxy) (tool : FederatedTool) (arguments : JsonObject)
    (submission : Value) (identity : AuthenticatedIdentity) : Proxy CallToolResponse :=
  submitMode proxy tool arguments submission identity true

omit [FloatText] [Sha256] [Rmcp] [Chrono] in
def routedUpstreamId (record : TaskRouteRecord) : Except McpError UpstreamTaskId := do
  reject (¬(record.phase = .routed ∨ record.phase = .reconciliationRequired ∨
    record.phase = .cancelRequested)) (McpError.invalidParams "GM_TASK_RECONCILIATION_REQUIRED")
  okOr record.upstreamTaskId (.internalError "GM_TASK_ROUTE_INVALID")

def cancelledAtBound (record : TaskRouteRecord) (code : String) : Proxy GetTaskResult := do
  let cancelling ← requestCancellation record
  return workingTaskWithCode cancelling code

omit [FloatText] [Sha256] [Rmcp] [Chrono] in
/-- A route under reconciliation is routed again. -/
def readmitted (record : TaskRouteRecord) (upstreamId : UpstreamTaskId) : Proxy TaskRouteRecord :=
  if record.phase = .reconciliationRequired then do
    let time ← transitionTime record
    update record (.routed upstreamId time)
  else return record

/-- A poll that was answered: what the upstream reports is taken over, if it is about this
route, in time and small enough. -/
def polled (record : TaskRouteRecord) (upstreamId : UpstreamTaskId) (response : GetTaskResult) :
    Proxy GetTaskResult := do
  if ¬response.isComplete ∨ response.task.task.taskId ≠ upstreamId.text ∨
      ¬executionAckMatches response.metaObject record then do
    let unknown ← markReconciliationRequired record
    return reconciliationTaskWithCode unknown "GM_TASK_EXECUTION_BINDING_MISMATCH"
  else
  let upstreamStatus := Rmcp.status response.task
  if (← nowUnixMs) ≥ record.executionCutoff ∧ upstreamStatus ≠ .cancelled then
    if upstreamStatus.isTerminal then finishKnownRejectionResult record "GM_TASK_DEADLINE_EXCEEDED"
    else cancelledAtBound record "GM_TASK_RUNTIME_BOUND_REACHED"
  else
  let bytes ← required (Rmcp.getTaskResultBytes response)
    (.internalError "GM_TASK_RESULT_SERIALIZATION")
  if bytes > record.outputLimit ∧ ¬upstreamStatus.isTerminal then
    cancelledAtBound record "GM_TASK_OUTPUT_LIMIT_EXCEEDED"
  else if bytes > record.outputLimit then
    finishKnownRejectionResult record "GM_TASK_OUTPUT_LIMIT_EXCEEDED"
  else
  let active ← readmitted record upstreamId
  if active.phase = .terminal then Fallible.ofExcept (cachedTask active)
  else if active.phase = .cancelRequested ∧ ¬upstreamStatus.isTerminal then
    return workingTaskWithCode active
      "cancellation requested; upstream terminal state is pending"
  else
  let statusMessage := if upstreamStatus.isTerminal
    then "upstream reported a terminal execution state"
    else "upstream reported a nonterminal execution state"
  let task : DetailedTask :=
    ⟨taskFromRecord active upstreamStatus statusMessage,response.task.payload⟩
  if upstreamStatus.isTerminal then do
    let terminal ← finishTerminal active task
    Fallible.ofExcept (cachedTask terminal)
  else return { response with
    task := task, metaObject := some (routeMeta active "not_performed") }

def pollUpstream (record : TaskRouteRecord) : Proxy GetTaskResult := do
  let upstreamId ← Fallible.ofExcept (routedUpstreamId record)
  if record.phase = .cancelRequested then
    let _ ← cancelUpstream record upstreamId
  let remainingMs := record.executionCutoff - (← nowUnixMs)
  if remainingMs = 0 ∧ record.phase ≠ .cancelRequested then
    cancelledAtBound record "GM_TASK_RUNTIME_BOUND_REACHED"
  else do
    let pollTimeoutMs := if remainingMs = 0 then maxTaskLifecycleRequestMs
      else min remainingMs maxTaskLifecycleRequestMs
    match ← ask (.getTask record.capabilitySource upstreamId.text record.upstreamSessionId
        pollTimeoutMs) with
    | .ok response => polled record upstreamId response
    | .failed => do
      let unknown ← markReconciliationRequired record
      return reconciliationTask unknown
    | .elapsed => cancelledAtBound record "GM_TASK_RUNTIME_BOUND_REACHED"

def getTask (proxy : TaskProxy) (taskId : String) (identity : AuthenticatedIdentity) :
    Proxy GetTaskResult := do
  let caller ← Fallible.ofExcept (callerOf identity)
  let publicId ← orElse (PublicTaskId.new taskId) invalidTaskRoute
  let record ← readTaskRoute caller publicId
  let now ← nowUnixMs
  if record.isExpired now then throw unknownTask
  else if record.phase = .terminal then Fallible.ofExcept (cachedTask record)
  else
  if ← drifted record record.upstreamTaskId.isSome then do
    let unknown ← markReconciliationRequired record
    return reconciliationTaskWithCode unknown "GM_TASK_SOURCE_SNAPSHOT_CHANGED"
  else if record.phase = .dispatching ∧ record.dispatchOwnerId ≠ some proxy.instanceId then do
    let unknown ← markReconciliationRequired record
    return reconciliationTask unknown
  else if record.phase = .prepared ∧ record.executionCutoff ≤ now then
    finishKnownNonDispatchResult record "GM_TASK_RUNTIME_BOUND_REACHED"
  else if record.phase = .dispatching ∧ record.executionCutoff ≤ now then do
    let unknown ← markReconciliationRequired record
    return reconciliationTaskWithCode unknown "GM_TASK_RUNTIME_BOUND_REACHED"
  else if record.phase = .prepared ∨ record.phase = .dispatching then return workingTask record
  else if (record.phase = .routed ∨ record.phase = .reconciliationRequired) ∧
      record.executionCutoff ≤ now ∧ record.upstreamTaskId.isSome then
    cancelledAtBound record "GM_TASK_RUNTIME_BOUND_REACHED"
  else if record.phase = .reconciliationRequired ∧ record.upstreamTaskId.isNone then
    return reconciliationTask record
  else if record.phase = .cancelRequested ∧ record.upstreamTaskId.isNone then
    return workingTaskWithCode record "GM_TASK_CANCELLATION_RECONCILIATION_REQUIRED"
  else pollUpstream record

omit [FloatText] [Sha256] [Rmcp] [Chrono] in
/-- An update is never forwarded: the route has no durable state for it. -/
def updateTask (taskId : String) (identity : AuthenticatedIdentity) : Proxy Unit := do
  let caller ← Fallible.ofExcept (callerOf identity)
  let publicId ← orElse (PublicTaskId.new taskId) invalidTaskRoute
  let record ← readTaskRoute caller publicId
  let now ← nowUnixMs
  if record.isExpired now then throw unknownTask
  else if record.phase ≠ .routed then throw (.invalidParams "GM_TASK_NOT_UPDATEABLE")
  else throw (.invalidParams "GM_TASK_UPDATE_UNSUPPORTED_DURABLE")

omit [FloatText] [Sha256] [Rmcp] [Chrono] in
def cancelTask (taskId : String) (identity : AuthenticatedIdentity) : Proxy Unit := do
  let caller ← Fallible.ofExcept (callerOf identity)
  let publicId ← orElse (PublicTaskId.new taskId) invalidTaskRoute
  let record ← readTaskRoute caller publicId
  let now ← nowUnixMs
  if record.isExpired now then throw unknownTask
  else if record.phase = .terminal then return ()
  else
  let cancelling ← persistCancellationIntent record
  if ← drifted cancelling cancelling.upstreamTaskId.isSome then throw (.internalError "GM_TASK_SOURCE_SNAPSHOT_CHANGED")
  else do
    let _ ← requestCancellation cancelling
    return ()

end TaskProxy
end GaugeMesh
