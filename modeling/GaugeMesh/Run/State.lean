import GaugeMesh.Keyed
import GaugeMesh.Lease.MetaTools
import GaugeMesh.Run.Inputs
import GaugeMesh.Run.Record

/-! `runs.rs`: what the driver reads of the state of a run and what it makes of it, but for
the calls it sends. A step is found by its id; every step of an accepted plan has one. -/
namespace GaugeMesh
open Json

/-- The protocol library, as far as the driver writes it down: results as documents, errors and
unexpected responses as texts. -/
class RmcpTexts where
  getTaskResult : GetTaskResult → Option Value
  errorText : McpError → String
  debugResponse : Except McpError CallToolResponse → String

inductive RunFailure where
  | bail (message : String)
  | store (error : RunError)
  | library
  deriving DecidableEq

def bailed (result : Except String α) : Except RunFailure α := result.mapError .bail

def taskRouteMetaKey : String := "dev.gaugemesh/taskRoute"

namespace StepState

/-- What is left of a step after the response to its cancellation. -/
def responded [RmcpTexts] (s : StepState) (answer : Except McpError Unit) : StepState :=
  { s with
    cancellationRequestSent := true
    cancellationAcknowledged := answer.isOk
    diagnostic := match answer with
      | .ok _ => s.diagnostic
      | .error error => some (RmcpTexts.errorText error) }

def reconciliationRequired (created : CreateTaskResult) : Bool :=
  match created.metaObject.bind (Value.find taskRouteMetaKey) with
  | none => false
  | some route => decide (route.index "reconciliationRequired" = .bool true)

/-- What is left of a step after the response to its submission. -/
def acknowledged [RmcpTexts] (s : StepState) (response : Except McpError CallToolResponse) :
    StepState :=
  match response with
  | .ok (.task created) =>
    { s with
      taskId := some created.task.taskId
      phase := if reconciliationRequired created then .unknown else .routed }
  | other =>
    { s with
      phase := .unknown
      diagnostic := some ("GM_RUN_SUBMISSION_UNCERTAIN:" ++ RmcpTexts.debugResponse other) }

/-- The task for which the step is polled. -/
def polledFor (s : StepState) : Option String :=
  if s.phase = .routed ∨ s.phase = .unknown then s.taskId else none

def skipped (s : StepState) : StepState :=
  if s.phase = .pending then { s with phase := .skipped } else s

end StepState

namespace RunState

def step? (state : RunState) (id : String) : Option StepState := state.steps.lookup id

def phaseOf (state : RunState) (id : String) : Option StepPhase := (state.step? id).map (·.phase)

def set (state : RunState) (id : String) (s : StepState) : RunState :=
  { state with steps := Keyed.update id (fun _ => s) state.steps }

def activeSteps (state : RunState) : Nat := state.steps.countP fun entry => entry.2.phase.active

def blocked (state : RunState) : Bool := state.steps.any fun entry => entry.2.phase.blocks

/-- The user has cancelled the run, or its deadline has passed. -/
def ending (state : RunState) : Bool := state.cancelRequested || state.deadlineObserved

/-- Nothing more may be dispatched. -/
def stopped (state : RunState) : Bool := state.ending || state.blocked

/-- Every step that was never sent is skipped. -/
def skipUnsent (state : RunState) : RunState :=
  { state with steps := state.steps.map fun entry => (entry.1,entry.2.skipped) }

def unsent (state : RunState) : Bool := state.steps.any fun entry => entry.2.phase == .pending

/-- A run as it is accepted. -/
def accepted (plan : RunPlan) (acceptedAt : Nat) : RunState where
  plan := plan
  acceptedAtUnixMs := acceptedAt
  cancelRequested := false
  deadlineObserved := false
  steps := Entries.collect (plan.steps.map fun step => (step.id,StepState.new))

end RunState

def referenceMissing : String := "GM_RUN_REFERENCE_MISSING"

def resolveInput (state : RunState) : RunInput → Except String Value
  | .literal value => .ok value
  | .predecessor step pointer =>
    okOr (((state.step? step).bind (·.verifiedArtifact)).bind (·.pointer pointer)) referenceMissing

/-- The inputs of a step in their order, each with the value that is found for it. -/
def resolveEach (resolve : RunInput → Except String Value) :
    Entries RunInput → Except String (Entries Value)
  | [] => .ok []
  | (name,input) :: rest => do
    let value ← resolve input
    return (name,value) :: (← resolveEach resolve rest)

def resolveInputs (step : RunStep) (state : RunState) : Except String (Entries Value) :=
  resolveEach (resolveInput state) step.arguments

/-- The value that a plan itself gives for an input: its literal, or what the one required check
of the predecessor expects at the place referred to. -/
def sampleInput (plan : RunPlan) : RunInput → Except String Value
  | .literal value => .ok value
  | .predecessor source pointer => do
    let predecessor ← okOr (plan.steps.find? fun step => step.id == source) "GM_RUN_REFERENCE_INVALID"
    match predecessor.policy.checks.filter fun check => check.required && check.pointer == pointer with
    | [check] => return check.expected
    | _ => throw "GM_RUN_REFERENCE_REQUIRES_EXACT_REQUIRED_CHECK"

def sampleArguments (plan : RunPlan) (step : RunStep) : Except String (Entries Value) :=
  resolveEach (sampleInput plan) step.arguments

namespace ArtifactCheck

def passes (check : ArtifactCheck) (artifact : Value) : Bool :=
  match artifact.pointer check.pointer with
  | some value => value.same check.expected
  | none => false

def report (artifact : Value) (check : ArtifactCheck) : Value := .object [
  ("passed",.bool (check.passes artifact)),
  ("pointer",toValue check.pointer),
  ("required",toValue check.required)]

end ArtifactCheck

/-- Every required check passes. -/
def ArtifactPolicy.Accepts (policy : ArtifactPolicy) (artifact : Value) : Prop :=
  ∀ check ∈ policy.checks, check.required → check.passes artifact

instance (policy : ArtifactPolicy) (artifact : Value) : Decidable (policy.Accepts artifact) :=
  inferInstanceAs (Decidable (∀ check ∈ policy.checks, _))

section
variable [FloatText] [Sha256]

/-- The key under which a step is submitted, always the same for one step of one run. -/
def stepKey (runId stepId : String) : String :=
  "gms_" ++ String.ofList ((Sha256Digest.ofJson (.array [.string runId,.string stepId])).bytes.flatMap
    Sha256Digest.hexChars)

def artifactScope (runId : String) (plan : RunPlan) : Sha256Digest := .ofJson (.object [
  ("root",toValue plan.artifactRoot),
  ("runId",toValue runId)])

def stepSubmission (runId : String) (plan : RunPlan) (step : RunStep) (arguments : Entries Value)
    (now : Nat) : Value := .object [
  ("acceptancePolicySha256",toValue step.policySha256),
  ("artifactScopeSha256",toValue (artifactScope runId plan)),
  ("attemptId",.string (stepKey runId step.id)),
  ("cleanupRequired",.bool true),
  ("correlationId",.string runId),
  ("deadlineUnixMs",toValue (min plan.deadlineUnixMs (saturatingAdd now step.maxRuntimeMs))),
  ("idempotencyKey",.string (stepKey runId step.id)),
  ("inputSha256",toValue (Sha256Digest.ofJson (toValue arguments))),
  ("limits",.object [
    ("maxArtifactBytes",toValue step.maxArtifactBytes),
    ("maxAttempts",toValue (1 : Nat)),
    ("maxOutputBytes",toValue (32768 : Nat)),
    ("maxRuntimeMs",toValue step.maxRuntimeMs)]),
  ("logicalTaskId",.string (runId ++ "/" ++ step.id)),
  ("permittedEffect",toValue step.permittedEffect),
  ("providerInterfaceVersion",toValue step.providerInterfaceVersion),
  ("retentionMs",toValue (3600000 : Nat)),
  ("schemaVersion",.string "gaugemesh.task-submission/1")]

/-- The result of a task is bound to the step: its envelope repeats what was submitted. -/
def BoundResult (runId : String) (plan : RunPlan) (step : RunStep) (state : StepState)
    (submission result binding : Value) : Prop :=
  binding.isObject ∧ (result.index "binding").same binding ∧
    (binding.index "publicTaskId").asStr = state.taskId ∧
    ((binding.index "submission").index "task").same submission ∧
    (binding.index "requestSha256").asStr =
      some (Sha256Digest.ofJson (binding.index "submission")).toString ∧
    ((binding.index "submission").index "capabilityId").asStr = some step.capabilityId.toString ∧
    (submission.index "attemptId").asStr = some (stepKey runId step.id) ∧
    (submission.index "idempotencyKey").asStr = some (stepKey runId step.id) ∧
    (submission.index "artifactScopeSha256").asStr = some (artifactScope runId plan).toString ∧
    (submission.index "correlationId").asStr = some runId ∧
    (submission.index "logicalTaskId").asStr = some (runId ++ "/" ++ step.id) ∧
    (submission.index "acceptancePolicySha256").same (toValue step.policySha256) ∧
    (submission.index "inputSha256").same
      (toValue (Sha256Digest.ofJson (toValue state.arguments)))

instance (runId : String) (plan : RunPlan) (step : RunStep) (state : StepState)
    (submission result binding : Value) :
    Decidable (BoundResult runId plan step state submission result binding) := by
  unfold BoundResult
  infer_instance

/-- What is recorded of an accepted artifact. -/
def verificationReport (step : RunStep) (bytes : List UInt8) (artifact : Value) : Value := .object [
  ("artifactSha256",toValue (Sha256Digest.ofBytes bytes)),
  ("checks",.array (step.policy.checks.map (·.report artifact))),
  ("policySha256",toValue step.policySha256),
  ("status",.string "verified")]

/-- What every step that was sent, and every step that was not, has to hold. -/
def checkStep (state : RunState) (step : RunStep) : Except String Unit := do
  let stored ← okOr (state.step? step.id) "GM_RUN_STATE_INVALID"
  if ¬(stored.phase = .pending ∨ stored.phase = .skipped) then
    let resolved ← resolveInputs step state
    ensure (∃ arguments, stored.arguments = some arguments ∧
      (Value.object arguments).same (.object resolved)) "GM_RUN_STATE_INPUT_BINDING_INVALID"
    ensure stored.submission.isSome "GM_RUN_STATE_SUBMISSION_MISSING"
  if stored.phase = .routed ∨ stored.phase = .verified ∨ stored.phase = .cancelled then
    ensure stored.taskId.isSome "GM_RUN_STATE_TASK_ID_MISSING"
  if stored.phase = .verified then
    ensure (stored.terminal.isSome ∧ stored.verifiedArtifact.isSome ∧
      ∃ report, stored.verification = some report ∧ (report.index "status").asStr = some "verified")
      "GM_RUN_STATE_VERIFICATION_MISSING"
  if stored.phase = .pending ∨ stored.phase = .skipped then
    ensure (stored.arguments.isNone ∧ stored.submission.isNone ∧ stored.taskId.isNone ∧
      stored.terminal.isNone ∧ stored.verifiedArtifact.isNone ∧ stored.verification.isNone)
      "GM_RUN_STATE_UNSENT_HAS_EXECUTION"

def stateFrom (record : RunRecord) : Except RunFailure RunState := do
  record.verifyIntegrity.mapError .store
  let state ← okOr (fromValue record.data : Option RunState) (.bail "GM_RUN_STATE_INVALID")
  bailed (state.plan.validate state.acceptedAtUnixMs)
  bailed (ensure (state.steps.length = state.plan.steps.length ∧
    ∀ step ∈ state.plan.steps, (state.step? step.id).isSome) "GM_RUN_STATE_INVALID")
  bailed (checkEach (checkStep state) state.plan.steps)
  return state

/-- The record as it is exported. -/
def exportRecord (record : RunRecord) : Value := .object [
  ("caller",toValue record.caller),
  ("data",record.data),
  ("journal",.array (record.journal.map RunEvent.encode)),
  ("planSha256",toValue record.planSha256),
  ("runId",toValue record.runId),
  ("runKey",toValue record.runKey),
  ("schemaVersion",toValue record.schemaVersion),
  ("version",toValue record.version)]

def runStatus (state : RunState) : String :=
  let has (phase : StepPhase) := state.steps.any fun entry => entry.2.phase == phase
  if state.steps.any fun entry => entry.2.phase.active then "in_progress"
  else if has .unknown then "reconciliation_required"
  else if state.steps.all fun entry => entry.2.phase == .verified then "verified"
  else if state.cancelRequested then "cancelled_or_stopped"
  else if state.deadlineObserved then "deadline_exceeded"
  else if state.blocked then "failed"
  else "ready"

def summary (record : RunRecord) : Except RunFailure Value := do
  let state ← stateFrom record
  return .object [
    ("cancelRequested",toValue state.cancelRequested),
    ("deadlineObserved",toValue state.deadlineObserved),
    ("guarantee",.string ("single-process poll-driven composition; no exactly-once side effects " ++
      "or autonomous watchdog")),
    ("planSha256",toValue record.planSha256),
    ("runId",toValue record.runId),
    ("status",.string (runStatus state)),
    ("steps",toValue state.steps),
    ("version",toValue record.version)]

end
end GaugeMesh
