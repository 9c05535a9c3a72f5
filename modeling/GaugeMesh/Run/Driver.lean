import GaugeMesh.Interleaving.Program
import GaugeMesh.Run.State
import GaugeMesh.Run.Store

/-! `runs.rs`: the actions on a run as programs over the run store, the clock, the leases, the
artifact files and the task proxy. The lock that holds the resumes of one process apart is left
out: without it there are more interleavings, not fewer. -/
namespace GaugeMesh
open Json Interleaving

/-- A call of the task proxy; the first two fields only say for which step it is made. -/
structure StepCall where
  runId : String
  stepId : String
  tool : FederatedTool
  arguments : Entries Value
  submission : Value
  identity : AuthenticatedIdentity
  deriving DecidableEq

inductive RunOp where
  | now
  | findRun (caller : TaskRouteCaller) (key : String)
  | beginRun (caller : TaskRouteCaller) (key : String) (data : Value)
  | getRun (caller : TaskRouteCaller) (runId : String)
  | advanceRun (old : RunRecord) (data : Value) (event : String)
  | getLease (leaseId : String)
  | openRoot (path : String)
  | readArtifact (root path : String) (maxBytes : Nat)
  | submit (call : StepCall)
  | recoverSubmission (call : StepCall)
  | cancelTask (taskId : String) (identity : AuthenticatedIdentity)
  | getTask (taskId : String) (identity : AuthenticatedIdentity)

/-- `none` from the clock and from the leases is a clock or a storage that cannot be read. -/
@[reducible] def RunOp.Ret : RunOp → Type
  | now => Option Nat
  | findRun .. => Except RunError (Option RunRecord)
  | beginRun .. => Except RunError RunRecord
  | getRun .. => Except RunError (Option RunRecord)
  | advanceRun .. => Except RunError RunRecord
  | getLease _ => Option (Option CapabilityLease)
  | openRoot _ => Except String Unit
  | readArtifact .. => Except String (List UInt8)
  | submit _ => Except McpError CallToolResponse
  | recoverSubmission _ => Except McpError CallToolResponse
  | cancelTask .. => Except McpError Unit
  | getTask .. => Except McpError GetTaskResult

abbrev Driver := Fallible RunOp RunOp.Ret RunFailure

structure RunContext where
  federation : Federation
  sourceSupported : SourceId → Bool
  identity : AuthenticatedIdentity

/-- The record a driver holds, and the state it has made of it. -/
structure Driving where
  record : RunRecord
  state : RunState

namespace RunDriver

def ask (op : RunOp) : Fallible RunOp RunOp.Ret ε op.Ret := Fallible.perform op

def demand (condition : Prop) [Decidable condition] (error : ε) : Fallible RunOp RunOp.Ret ε Unit :=
  Fallible.ofExcept (ensure condition error)

/-- `option.context(error)?`. -/
def required (value : Option α) (error : ε) : Fallible RunOp RunOp.Ret ε α :=
  Fallible.ofExcept (okOr value error)

def stored (result : Except RunError α) : Driver α := Fallible.ofExcept (result.mapError .store)

/-- A check whose error is a message. -/
def checked (result : Except String α) : Driver α := Fallible.ofExcept (bailed result)

def nowUnixMs : Driver Nat := do required (← ask .now) .library

def stateInvalid : RunFailure := .bail "GM_RUN_STATE_INVALID"

def toolOf (context : RunContext) (step : RunStep) : Driver FederatedTool :=
  required (context.federation.tool step.aliasName) (.bail Federation.notFound)

/-- `state.steps[&step.id]`. -/
def stepOf (state : RunState) (step : RunStep) : Driver StepState :=
  required (state.step? step.id) stateInvalid

section
variable [SerdeJson] [SerdeJson.Bytes] [Sha256] [RmcpTexts]

/-- One step against the tool it is bound to and the lease. -/
def authorizeStep (plan : RunPlan) (lease : CapabilityLease) (context : RunContext)
    (step : RunStep) : Driver Unit := do
  let tool ← toolOf context step
  demand (tool.identity.digest = step.capabilityId ∧
    tool.identity.schemaDigest.toString = step.providerInterfaceVersion ∧
    context.sourceSupported tool.identity.source) (.bail "GM_RUN_PROVIDER_BINDING_CHANGED")
  let sample ← checked (sampleArguments plan step)
  demand ((Value.object sample).byteLength ≤ 8192) (.bail "GM_RUN_RESOLVED_INPUT_BOUND")
  checked (Inputs.validateInput tool.inputSchema (.object sample) 0)
  let now ← nowUnixMs
  checked (authorizeCurrentInvocation lease context.identity tool.identity step.permittedEffect now)

def authorizeSteps (plan : RunPlan) (lease : CapabilityLease) (context : RunContext) :
    List RunStep → Driver Unit
  | [] => return
  | step :: rest => do
    authorizeStep plan lease context step
    authorizeSteps plan lease context rest

def authorizePlan (plan : RunPlan) (args : JsonObject) (context : RunContext) : Driver Unit := do
  let leaseId ← required ((Value.find "leaseId" args).bind Value.asStr) (.bail "GM_RUN_LEASE_REQUIRED")
  let read ← required (← ask (.getLease leaseId)) .library
  let lease ← required read (.bail "GM_RUN_LEASE_REVOKED_OR_UNKNOWN")
  authorizeSteps plan lease context plan.steps

/-- The accepted artifact and the report on it, or why there is none. -/
def verifyStep (runId : String) (plan : RunPlan) (step : RunStep) (state : StepState) :
    Fallible RunOp RunOp.Ret String (Value × Value) := do
  let terminal ← required state.terminal "GM_RUN_RESULT_MISSING"
  let outcome := terminal.index "result"
  demand ((terminal.index "status").asStr = some "completed" ∧ outcome.index "isError" ≠ .bool true)
    "GM_RUN_EXECUTION_NOT_SUCCESSFUL"
  let result := outcome.index "structuredContent"
  let binding := (outcome.index "_meta").index taskExecutionMetaKey
  let submission ← required state.submission "GM_RUN_SUBMISSION_MISSING"
  demand (BoundResult runId plan step state submission result binding) "GM_RUN_RESULT_BINDING_INVALID"
  let path ← required ((result.index "artifact").index "path").asStr
    "GM_RUN_ARTIFACT_DESCRIPTOR_MISSING"
  let read ← ask (.readArtifact plan.artifactRoot path step.maxArtifactBytes)
  let bytes ← Fallible.ofExcept read
  demand (((result.index "artifact").index "sha256").asStr =
    some (Sha256Digest.ofBytes bytes).toString) "GM_RUN_ARTIFACT_DIGEST_MISMATCH"
  let artifact ← required (SerdeJson.Bytes.fromSlice bytes) "GM_RUN_ARTIFACT_JSON_INVALID"
  let described ← required result.asObject "GM_RUN_RESULT_INVALID"
  demand (artifact.same (.object (Keyed.remove "artifact" described)) ∧
    (artifact.index "binding").same binding) "GM_RUN_ARTIFACT_SWAPPED_OR_STALE"
  demand (state.verifiedArtifact.all (·.same artifact)) "GM_RUN_STORED_VERIFICATION_MISMATCH"
  demand (step.policy.Accepts artifact) "GM_RUN_REQUIRED_VERIFICATION_FAILED"
  return (artifact,verificationReport step bytes artifact)

/-- A verification whose failure is looked at. -/
def tryVerify (runId : String) (plan : RunPlan) (step : RunStep) (state : StepState) :
    Driver (Except String (Value × Value)) := ExceptT.lift (verifyStep runId plan step state).run

def save (driving : Driving) (state : RunState) (event : String) : Driver Driving := do
  let record ← stored (← ask (.advanceRun driving.record (toValue state) event))
  return ⟨record,state⟩

def saveStep (driving : Driving) (step : RunStep) (s : StepState) (event : String) : Driver Driving :=
  save driving (driving.state.set step.id s) event

def observeDeadline (driving : Driving) : Driver Driving := do
  let now ← nowUnixMs
  if now ≥ driving.state.plan.deadlineUnixMs ∧ ¬driving.state.deadlineObserved then
    save driving { driving.state with deadlineObserved := true } "deadline_observed"
  else return driving

/-- An accepted artifact is verified again. -/
def reverifyStep (driving : Driving) (step : RunStep) : Driver Driving := do
  let s ← stepOf driving.state step
  if s.phase = .verified then
    match ← tryVerify driving.record.runId driving.state.plan step s with
    | .ok _ => return driving
    | .error error =>
      let failed : StepState := { s with
        phase := .failed
        diagnostic := some ("GM_RUN_PREDECESSOR_INVALID:" ++ error) }
      saveStep driving step failed "artifact_reverification_failed"
  else return driving

def submitStep (context : RunContext) (driving : Driving) (step : RunStep) : Driver Driving := do
  let s ← stepOf driving.state step
  let tool ← toolOf context step
  let arguments ← required s.arguments stateInvalid
  let submission ← required s.submission stateInvalid
  let call : StepCall :=
    ⟨driving.record.runId,step.id,tool,arguments,submission,context.identity⟩
  let response ← if driving.state.stopped then ask (.recoverSubmission call) else ask (.submit call)
  saveStep driving step (s.acknowledged response) "task_identity_observed"

/-- A submission whose answer never reached the run is sent again or recovered. -/
def recoverStep (context : RunContext) (driving : Driving) (step : RunStep) : Driver Driving := do
  let s ← stepOf driving.state step
  if s.phase = .submitting then submitStep context driving step
  else return driving

/-- The intent is saved before the cancellation is attempted, the response only where it says
something new. -/
def cancelStep (context : RunContext) (driving : Driving) (step : RunStep) (id : String) :
    Driver Driving := do
  let s ← stepOf driving.state step
  if driving.state.ending ∧ ¬s.cancellationAcknowledged then
    let intended ←
      if s.cancellationIntent then pure driving
      else saveStep driving step { s with cancellationIntent := true } "task_cancellation_intent"
    let cancellation ← ask (.cancelTask id context.identity)
    let s ← stepOf intended.state step
    let responded := s.responded cancellation
    if Sha256Digest.ofJson (toValue responded) ≠ Sha256Digest.ofJson (toValue s) then
      saveStep intended step responded "task_cancellation_response"
    else return ⟨intended.record,intended.state.set step.id responded⟩
  else return driving

/-- What a task that completed makes of its step. -/
def completeStep (driving : Driving) (step : RunStep) (s : StepState) : Driver StepState := do
  match ← tryVerify driving.record.runId driving.state.plan step s with
  | .ok (artifact,report) =>
    return { s with
      phase := .verified
      verifiedArtifact := some artifact
      verification := some report }
  | .error error => return { s with phase := .failed, diagnostic := some error }

/-- What a poll makes of a step; none where it says nothing new. -/
def observe (driving : Driving) (step : RunStep) (s : StepState) :
    Except McpError GetTaskResult → Driver (Option StepState)
  | .error error =>
    let text := RmcpTexts.errorText error
    if s.phase = .unknown ∧ s.diagnostic = some text then return none
    else return some { s with phase := .unknown, diagnostic := some text }
  | .ok result => do
    let value ← required (RmcpTexts.getTaskResult result) .library
    if (((value.index "_meta").index taskRouteMetaKey).index "routePhase").asStr =
        some "reconciliation_required" then
      if s.phase = .unknown ∧ s.terminal.any (·.same value) then return none
      else return some { s with
        phase := .unknown
        terminal := some value
        diagnostic := some "GM_RUN_TASK_RECONCILIATION_REQUIRED" }
    else
      match (value.index "status").asStr with
      | some "completed" =>
        return some (← completeStep driving step { s with terminal := some value })
      | some "failed" => return some { s with phase := .failed, terminal := some value }
      | some "cancelled" => return some { s with phase := .cancelled, terminal := some value }
      | _ => return none

/-- One step is polled; whether an outcome was saved. -/
def pollStep (context : RunContext) (driving : Driving) (step : RunStep) :
    Driver (Driving × Bool) := do
  let s ← stepOf driving.state step
  match s.polledFor with
  | none => return (driving,false)
  | some id =>
    let cancelled ← cancelStep context driving step id
    let result ← ask (.getTask id context.identity)
    let s ← stepOf cancelled.state step
    match ← observe cancelled step s result with
    | none => return (cancelled,false)
    | some next => return (← saveStep cancelled step next "task_outcome_observed",true)

/-- A step whose predecessors are verified is authorized once more, saved and submitted. -/
def dispatchStep (args : JsonObject) (context : RunContext) (driving : Driving) (step : RunStep)
    (s : StepState) : Driver Driving := do
  let plan := driving.state.plan
  authorizePlan plan args context
  let arguments ← checked (resolveInputs step driving.state)
  let tool ← toolOf context step
  checked (Inputs.validateInput tool.inputSchema (.object arguments) 0)
  demand ((Value.object arguments).byteLength ≤ 8192) (.bail "GM_RUN_RESOLVED_INPUT_BOUND")
  let now ← nowUnixMs
  let submitting : StepState := { s with
    phase := .submitting
    arguments := some arguments
    submission := some (stepSubmission driving.record.runId plan step arguments now) }
  let saved ← saveStep driving step submitting "task_submission_intent"
  submitStep context saved step

def reverify : List RunStep → Driving → Driver Driving
  | [],driving => return driving
  | step :: rest,driving => do reverify rest (← reverifyStep driving step)

def recover (context : RunContext) : List RunStep → Driving → Driver Driving
  | [],driving => return driving
  | step :: rest,driving => do recover context rest (← recoverStep context driving step)

/-- Whether any outcome was saved comes back too. -/
def poll (context : RunContext) : List RunStep → Driving → Driver (Driving × Bool)
  | [],driving => return (driving,false)
  | step :: rest,driving => do
    let (polled,observed) ← pollStep context driving step
    let (last,later) ← poll context rest polled
    return (last,observed || later)

def ready (state : RunState) (step : RunStep) (s : StepState) : Bool :=
  s.phase == .pending && step.dependsOn.all fun id => state.phaseOf id == some .verified

def dispatch (args : JsonObject) (context : RunContext) : List RunStep → Driving → Driver Driving
  | [],driving => return driving
  | step :: rest,driving => do
    if driving.state.activeSteps ≥ driving.state.plan.maxConcurrency then return driving
    else
      let s ← stepOf driving.state step
      if ready driving.state step s then
        let sent ← dispatchStep args context driving step s
        if sent.state.blocked then return sent
        else dispatch args context rest sent
      else dispatch args context rest driving

def summarize (driving : Driving) : Driver Value := Fallible.ofExcept (summary driving.record)

/-- One sweep over the run. -/
def drive (record : RunRecord) (args : JsonObject) (context : RunContext) : Driver Value := do
  let state ← Fallible.ofExcept (stateFrom record)
  if ¬state.cancelRequested then authorizePlan state.plan args context
  let steps := state.plan.steps
  let dated ← observeDeadline ⟨record,state⟩
  let verified ← reverify steps dated
  let recovered ← recover context steps verified
  let (polled,observed) ← poll context steps recovered
  if polled.state.stopped then
    let skipped ←
      if polled.state.unsent then save polled polled.state.skipUnsent "unsent_steps_skipped"
      else pure polled
    summarize skipped
  else if observed then summarize polled
  else summarize (← dispatch args context steps polled)

def verifySteps (runId : String) (state : RunState) : List RunStep → Driver Nat
  | [] => return 0
  | step :: rest => do
    let s ← stepOf state step
    if s.phase = .verified then
      let _ ← checked (← tryVerify runId state.plan step s)
      return (← verifySteps runId state rest) + 1
    else verifySteps runId state rest

def verifyRecord (record : RunRecord) : Driver Value := do
  let state ← Fallible.ofExcept (stateFrom record)
  let verified ← verifySteps record.runId state state.plan.steps
  return .object [
    ("authenticity",.string ("integrity hashes are not signatures; a trusted original export " ++
      "is required")),
    ("complete",.bool (verified == state.plan.steps.length)),
    ("executionPerformed",.bool false),
    ("integrity",.string "verified"),
    ("runId",toValue record.runId),
    ("schemaVersion",.string "gaugemesh.run-verification/1"),
    ("totalSteps",toValue state.plan.steps.length),
    ("verifiedSteps",toValue verified)]

def submitRun (caller : TaskRouteCaller) (args : JsonObject) (context : RunContext) :
    Driver Value := do
  let value ← required (Value.find "plan" args) (.bail "GM_RUN_PLAN_REQUIRED")
  demand (value.byteLength ≤ 256 * 1024) (.bail "GM_RUN_PLAN_BOUND")
  let plan ← required (RunPlan.decode value) (.bail "GM_RUN_PLAN_INVALID")
  let acceptedAt ← nowUnixMs
  let existing ← stored (← ask (.findRun caller plan.runKey))
  let retained := existing.bind fun record => (record.data.index "acceptedAtUnixMs").asU64
  checked (plan.validate (retained.getD acceptedAt))
  checked (← ask (.openRoot plan.artifactRoot))
  authorizePlan plan args context
  let begun ← ask (.beginRun caller plan.runKey (toValue (RunState.accepted plan acceptedAt)))
  Fallible.ofExcept (summary (← stored begun))

def cancelRun (record : RunRecord) : Driver Value := do
  let state ← Fallible.ofExcept (stateFrom record)
  if state.cancelRequested then Fallible.ofExcept (summary record)
  else
    let cancelled ← save ⟨record,state⟩ { state with cancelRequested := true } "cancellation_intent"
    summarize cancelled

def readRun (caller : TaskRouteCaller) (id : String) : Driver RunRecord := do
  required (← stored (← ask (.getRun caller id))) (.bail "GM_RUN_NOT_FOUND")

def act (caller : TaskRouteCaller) (action : String) (id : String) (args : JsonObject)
    (context : RunContext) : Driver Value := do
  let record ← readRun caller id
  match action with
  | "status" => Fallible.ofExcept (summary record)
  | "export" => return exportRecord record
  | "verify" => verifyRecord record
  | "cancel" => cancelRun record
  | "resume" => drive (← readRun caller id) args context
  | _ => throw (.bail "GM_RUN_ACTION_UNSUPPORTED")

def call (args : JsonObject) (context : RunContext) : Driver Value := do
  demand (context.identity.principal = localPrincipal ∧ context.identity.tenant = localTenant)
    (.bail "GM_RUN_REMOTE_NOT_QUALIFIED")
  let caller ← Fallible.ofExcept ((TaskRouteCaller.new context.identity.principal
    context.identity.tenant).mapError fun error => .bail error.text)
  let action ← required ((Value.find "action" args).bind Value.asStr) (.bail "GM_RUN_ACTION_REQUIRED")
  if action = "submit" then submitRun caller args context
  else
    let id ← required ((Value.find "runId" args).bind Value.asStr) (.bail "GM_RUN_ID_REQUIRED")
    demand (id.utf8ByteSize ≤ 128) (.bail "GM_RUN_ID_INVALID")
    act caller action id args context

end

end RunDriver
end GaugeMesh
