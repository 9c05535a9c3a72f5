import GaugeMesh.Capability
import GaugeMesh.Json.Size
import GaugeMesh.Task.Transition
import Mathlib.Data.List.Infix

/-! `runs.rs`: the plan of a run and the state of its steps, as documents. The steps of a
state are an ordered map, so a state is written in key order like every document. -/
namespace GaugeMesh
open Json

inductive RunInput where
  | literal (value : Value)
  | predecessor (step pointer : String)
  deriving DecidableEq

structure ArtifactCheck where
  pointer : String
  expected : Value
  required : Bool
  deriving DecidableEq

structure ArtifactPolicy where
  schemaVersion : String
  checks : List ArtifactCheck
  deriving DecidableEq

structure RunStep where
  id : String
  dependsOn : List String
  aliasName : String
  capabilityId : Sha256Digest
  providerInterfaceVersion : String
  arguments : Entries RunInput
  inputsSha256 : Sha256Digest
  policy : ArtifactPolicy
  policySha256 : Sha256Digest
  permittedEffect : SideEffectClass
  maxRuntimeMs : Nat
  maxArtifactBytes : Nat
  deriving DecidableEq

structure RunPlan where
  schemaVersion : String
  runKey : String
  deadlineUnixMs : Nat
  maxConcurrency : Nat
  maxAttempts : UInt16
  failurePolicy : String
  uncertaintyPolicy : String
  cancellationPolicy : String
  artifactRoot : String
  steps : List RunStep
  deriving DecidableEq

inductive StepPhase where
  | pending
  | submitting
  | routed
  | verified
  | failed
  | unknown
  | cancelled
  | skipped
  deriving DecidableEq

namespace StepPhase

def active : StepPhase → Bool
  | submitting | routed => true
  | _ => false

def blocks : StepPhase → Bool
  | failed | unknown | cancelled => true
  | _ => false

def name : StepPhase → String
  | pending => "pending"
  | submitting => "submitting"
  | routed => "routed"
  | verified => "verified"
  | failed => "failed"
  | unknown => "unknown"
  | cancelled => "cancelled"
  | skipped => "skipped"

def all : List StepPhase :=
  [pending,submitting,routed,verified,failed,unknown,cancelled,skipped]

instance : Serde StepPhase :=
  ⟨fun p => .string p.name,fun v => (unitVariant v).bind fun s => all.find? (·.name == s)⟩
instance : LawfulSerde StepPhase := ⟨fun p => by cases p <;> decide⟩

end StepPhase

structure StepState where
  phase : StepPhase
  arguments : Option (Entries Value)
  submission : Option Value
  taskId : Option String
  terminal : Option Value
  verifiedArtifact : Option Value
  verification : Option Value
  cancellationIntent : Bool
  cancellationRequestSent : Bool
  cancellationAcknowledged : Bool
  diagnostic : Option String
  deriving DecidableEq

/-- `StepState::default()`. -/
def StepState.new : StepState :=
  ⟨.pending,none,none,none,none,none,none,false,false,false,none⟩

structure RunState where
  plan : RunPlan
  acceptedAtUnixMs : Nat
  cancelRequested : Bool
  deadlineObserved : Bool
  steps : Entries StepState
  deriving DecidableEq

instance : NonNull (Entries Value) := ⟨fun _ => by simp [toValue]⟩

namespace RunInput

def encode : RunInput → Value
  | literal value => .object [("kind",.string "literal"),("value",value)]
  | predecessor step pointer => .object [("kind",.string "predecessor"),("pointer",.string pointer),
      ("step",.string step)]

/-- The tag is the first of a sequence. -/
def kind : Value → Option Value
  | .object entries => Value.find "kind" entries
  | .array (kind :: _) => some kind
  | _ => none

def decode (v : Value) : Option RunInput :=
  match (kind v).bind Value.asStr with
  | some "literal" => do
    let fields ← structFields ["kind","value"] v
    return .literal (← field fields "value")
  | some "predecessor" => do
    let fields ← structFields ["kind","step","pointer"] v
    return .predecessor (← field fields "step") (← field fields "pointer")
  | _ => none

theorem decode_encode (i : RunInput) : decode i.encode = some i := by
  cases i <;> simp [decode,encode,kind,structFields,field,fromValue]

instance : Serde RunInput := ⟨encode,decode⟩
instance : LawfulSerde RunInput := ⟨decode_encode⟩

end RunInput

namespace ArtifactCheck

def encode (c : ArtifactCheck) : Value := .object [
  ("expected",c.expected),
  ("pointer",toValue c.pointer),
  ("required",toValue c.required)]

def decode (v : Value) : Option ArtifactCheck := do
  let fields ← structFields ["pointer","expected","required"] v
  return {
    pointer := ← field fields "pointer"
    expected := ← field fields "expected"
    required := ← field fields "required" }

theorem decode_encode (c : ArtifactCheck) : decode c.encode = some c := by
  refine (structFields_object (by simp)).trans ?_
  iterate 3 refine field_then (by simp only [Value.find_cons,↓reduceIte,String.reduceEq]; rfl) ?_
  rfl

instance : Serde ArtifactCheck := ⟨encode,decode⟩
instance : LawfulSerde ArtifactCheck := ⟨decode_encode⟩

end ArtifactCheck

namespace ArtifactPolicy

def encode (p : ArtifactPolicy) : Value := .object [
  ("checks",toValue p.checks),
  ("schemaVersion",toValue p.schemaVersion)]

def decode (v : Value) : Option ArtifactPolicy := do
  let fields ← structFields ["schemaVersion","checks"] v
  return {
    schemaVersion := ← field fields "schemaVersion"
    checks := ← field fields "checks" }

theorem decode_encode (p : ArtifactPolicy) : decode p.encode = some p := by
  simp [decode,encode,structFields,field]

instance : Serde ArtifactPolicy := ⟨encode,decode⟩
instance : LawfulSerde ArtifactPolicy := ⟨decode_encode⟩

end ArtifactPolicy

namespace RunStep

def encode (s : RunStep) : Value := .object [
  ("alias",toValue s.aliasName),
  ("arguments",toValue s.arguments),
  ("capabilityId",toValue s.capabilityId),
  ("dependsOn",toValue s.dependsOn),
  ("id",toValue s.id),
  ("inputsSha256",toValue s.inputsSha256),
  ("maxArtifactBytes",toValue s.maxArtifactBytes),
  ("maxRuntimeMs",toValue s.maxRuntimeMs),
  ("permittedEffect",toValue s.permittedEffect),
  ("policy",toValue s.policy),
  ("policySha256",toValue s.policySha256),
  ("providerInterfaceVersion",toValue s.providerInterfaceVersion)]

/-- The three digests are later held against digests that are taken of the step and of its tool,
so their length needs no check here. -/
def decode (v : Value) : Option RunStep := do
  let fields ← structFields ["id","dependsOn","alias","capabilityId","providerInterfaceVersion",
    "arguments","inputsSha256","policy","policySha256","permittedEffect","maxRuntimeMs",
    "maxArtifactBytes"] v
  return {
    id := ← field fields "id"
    dependsOn := ← field fields "dependsOn"
    aliasName := ← field fields "alias"
    capabilityId := ← field fields "capabilityId"
    providerInterfaceVersion := ← field fields "providerInterfaceVersion"
    arguments := ← field fields "arguments"
    inputsSha256 := ← field fields "inputsSha256"
    policy := ← field fields "policy"
    policySha256 := ← field fields "policySha256"
    permittedEffect := ← field fields "permittedEffect"
    maxRuntimeMs := ← field fields "maxRuntimeMs"
    maxArtifactBytes := ← field fields "maxArtifactBytes" }

theorem decode_encode (s : RunStep) : decode s.encode = some s := by
  refine (structFields_object (by simp)).trans ?_
  iterate 12 refine field_then (by simp only [Value.find_cons,↓reduceIte,String.reduceEq]; rfl) ?_
  rfl

instance : Serde RunStep := ⟨encode,decode⟩
instance : LawfulSerde RunStep := ⟨decode_encode⟩

end RunStep

namespace RunPlan

def encode (p : RunPlan) : Value := .object [
  ("artifactRoot",toValue p.artifactRoot),
  ("cancellationPolicy",toValue p.cancellationPolicy),
  ("deadlineUnixMs",toValue p.deadlineUnixMs),
  ("failurePolicy",toValue p.failurePolicy),
  ("maxAttempts",toValue p.maxAttempts),
  ("maxConcurrency",toValue p.maxConcurrency),
  ("runKey",toValue p.runKey),
  ("schemaVersion",toValue p.schemaVersion),
  ("steps",toValue p.steps),
  ("uncertaintyPolicy",toValue p.uncertaintyPolicy)]

def decode (v : Value) : Option RunPlan := do
  let fields ← structFields ["schemaVersion","runKey","deadlineUnixMs","maxConcurrency",
    "maxAttempts","failurePolicy","uncertaintyPolicy","cancellationPolicy","artifactRoot","steps"] v
  return {
    schemaVersion := ← field fields "schemaVersion"
    runKey := ← field fields "runKey"
    deadlineUnixMs := ← field fields "deadlineUnixMs"
    maxConcurrency := ← field fields "maxConcurrency"
    maxAttempts := ← field fields "maxAttempts"
    failurePolicy := ← field fields "failurePolicy"
    uncertaintyPolicy := ← field fields "uncertaintyPolicy"
    cancellationPolicy := ← field fields "cancellationPolicy"
    artifactRoot := ← field fields "artifactRoot"
    steps := ← field fields "steps" }

theorem decode_encode (p : RunPlan) : decode p.encode = some p := by
  refine (structFields_object (by simp)).trans ?_
  iterate 10 refine field_then (by simp only [Value.find_cons,↓reduceIte,String.reduceEq]; rfl) ?_
  rfl

instance : Serde RunPlan := ⟨encode,decode⟩
instance : LawfulSerde RunPlan := ⟨decode_encode⟩

end RunPlan

namespace StepState

def encode (s : StepState) : Value := .object [
  ("arguments",toValue s.arguments),
  ("cancellationAcknowledged",toValue s.cancellationAcknowledged),
  ("cancellationIntent",toValue s.cancellationIntent),
  ("cancellationRequestSent",toValue s.cancellationRequestSent),
  ("diagnostic",toValue s.diagnostic),
  ("phase",toValue s.phase),
  ("submission",toValue s.submission),
  ("taskId",toValue s.taskId),
  ("terminal",toValue s.terminal),
  ("verification",toValue s.verification),
  ("verifiedArtifact",toValue s.verifiedArtifact)]

def decode (v : Value) : Option StepState := do
  let fields ← structFields ["phase","arguments","submission","taskId","terminal",
    "verifiedArtifact","verification","cancellationIntent","cancellationRequestSent",
    "cancellationAcknowledged","diagnostic"] v
  return {
    phase := ← field fields "phase"
    arguments := ← optionalField fields "arguments"
    submission := ← optionalField fields "submission"
    taskId := ← optionalField fields "taskId"
    terminal := ← optionalField fields "terminal"
    verifiedArtifact := ← optionalField fields "verifiedArtifact"
    verification := ← optionalField fields "verification"
    cancellationIntent := ← field fields "cancellationIntent"
    cancellationRequestSent := ← field fields "cancellationRequestSent"
    cancellationAcknowledged := ← field fields "cancellationAcknowledged"
    diagnostic := ← optionalField fields "diagnostic" }

/-- None of the documents a step keeps is a null, which would be read back as absent. -/
structure Written (s : StepState) : Prop where
  submission : s.submission ≠ some .null
  terminal : s.terminal ≠ some .null
  verifiedArtifact : s.verifiedArtifact ≠ some .null
  verification : s.verification ≠ some .null

theorem fromValue_document {document : Option Value} (written : document ≠ some .null) :
    (fromValue (toValue document) : Option (Option Value)) = some document := by
  rcases document with _ | v
  · rfl
  · change (if v = Value.null then some none else (some v).map some) = _
    rw [if_neg fun null => written (congrArg some null)]
    rfl

theorem decode_encode {s : StepState} (written : s.Written) : decode s.encode = some s := by
  refine (structFields_object (by simp)).trans ?_
  refine field_then (by simp only [Value.find_cons,↓reduceIte,String.reduceEq]; rfl) ?_
  refine optionalField_then (by simp only [Value.find_cons,↓reduceIte])
    (fromValue_toValue s.arguments) ?_
  refine optionalField_then (by simp only [Value.find_cons,↓reduceIte,String.reduceEq])
    (fromValue_document written.submission) ?_
  refine optionalField_then (by simp only [Value.find_cons,↓reduceIte,String.reduceEq])
    (fromValue_toValue s.taskId) ?_
  refine optionalField_then (by simp only [Value.find_cons,↓reduceIte,String.reduceEq])
    (fromValue_document written.terminal) ?_
  refine optionalField_then (by simp only [Value.find_cons,↓reduceIte,String.reduceEq])
    (fromValue_document written.verifiedArtifact) ?_
  refine optionalField_then (by simp only [Value.find_cons,↓reduceIte,String.reduceEq])
    (fromValue_document written.verification) ?_
  iterate 3 refine field_then (by simp only [Value.find_cons,↓reduceIte,String.reduceEq]; rfl) ?_
  refine optionalField_then (by simp only [Value.find_cons,↓reduceIte,String.reduceEq])
    (fromValue_toValue s.diagnostic) ?_
  rfl

instance : Serde StepState := ⟨encode,decode⟩

end StepState

namespace RunState

def encode (s : RunState) : Value := .object [
  ("acceptedAtUnixMs",toValue s.acceptedAtUnixMs),
  ("cancelRequested",toValue s.cancelRequested),
  ("deadlineObserved",toValue s.deadlineObserved),
  ("plan",toValue s.plan),
  ("steps",toValue s.steps)]

def decode (v : Value) : Option RunState := do
  let fields ← structFields
    ["plan","acceptedAtUnixMs","cancelRequested","deadlineObserved","steps"] v
  return {
    plan := ← field fields "plan"
    acceptedAtUnixMs := ← field fields "acceptedAtUnixMs"
    cancelRequested := ← field fields "cancelRequested"
    deadlineObserved := ← field fields "deadlineObserved"
    steps := ← field fields "steps" }

theorem readEntries_steps {steps : Entries StepState}
    (written : ∀ entry ∈ steps, entry.2.Written) :
    readEntries (steps.map fun entry => (entry.1,toValue entry.2)) = some steps := by
  induction steps with
  | nil => rfl
  | cons entry rest ih =>
    obtain ⟨head,tail⟩ := List.forall_mem_cons.mp written
    have read : (fromValue (toValue entry.2) : Option StepState) = some entry.2 :=
      StepState.decode_encode head
    simp [readEntries,read,ih tail]

theorem decode_encode {s : RunState} (written : ∀ entry ∈ s.steps, entry.2.Written) :
    decode s.encode = some s := by
  have steps : (fromValue (toValue s.steps) : Option (Entries StepState)) = some s.steps :=
    readEntries_steps written
  refine (structFields_object (by simp)).trans ?_
  iterate 4 refine field_then (by simp only [Value.find_cons,↓reduceIte,String.reduceEq]; rfl) ?_
  simp only [field,Value.find_cons,↓reduceIte,String.reduceEq,Option.bind_some,steps]
  rfl

instance : Serde RunState := ⟨encode,decode⟩

end RunState

def ensure (condition : Prop) [Decidable condition] (error : ε) : Except ε Unit :=
  if condition then .ok () else .error error

@[simp] theorem ensure_ok (condition : Prop) [Decidable condition] (error : ε) :
    ensure condition error = .ok () ↔ condition := by
  unfold ensure
  split <;> simp_all

/-- A check of every item of a list, in order. -/
def checkEach (check : α → Except ε Unit) : List α → Except ε Unit
  | [] => .ok ()
  | a :: rest => do
    check a
    checkEach check rest

theorem checkEach_ok {check : α → Except ε Unit} {items : List α} :
    checkEach check items = .ok () ↔ ∀ a ∈ items, check a = .ok () := by
  induction items with
  | nil => simp [checkEach]
  | cons a rest ih => simp [checkEach,Except.then_ok,ih]

def identifier (value : String) : Bool :=
  value != "" && decide (value.utf8ByteSize ≤ 96) &&
    value.toList.all fun c => c.isAlphanum || c == '-' || c == '_' || c == '.'

def pointerValid (value : String) : Bool :=
  decide (value.utf8ByteSize ≤ 256) && value.toList.head? == some '/' &&
    !decide ("/binding".toList <:+: value.toList) && !decide ("/artifact".toList <:+: value.toList) &&
    (value.toList.splitOn '~').tail.all fun part =>
      part.head? == some '0' || part.head? == some '1'

namespace RunPlan

/-- One pass over the steps: those whose predecessors were all visited are visited too. -/
def visit (visited : List String) : List RunStep → List String
  | [] => visited
  | step :: rest =>
    if step.dependsOn.all visited.contains ∧ step.id ∉ visited then visit (step.id :: visited) rest
    else visit visited rest

/-- Passes until one visits nothing new. A pass that goes on visits a step, so one pass more
than there are steps is enough. -/
def visitAll (steps : List RunStep) : Nat → List String → List String
  | 0,visited => visited
  | passes + 1,visited =>
    let next := visit visited steps
    if visited.length = next.length then next else visitAll steps passes next

variable [FloatText] [Sha256]

def validateInputs (step : RunStep) : List (String × RunInput) → Except String Unit :=
  checkEach fun entry =>
    match entry.2 with
    | .literal _ => .ok ()
    | .predecessor source pointer =>
      ensure (step.dependsOn.contains source ∧ pointerValid pointer) "GM_RUN_REFERENCE_INVALID"

def validateStep (plan : RunPlan) (step : RunStep) : Except String Unit := do
  ensure (identifier step.id ∧ step.id.utf8ByteSize ≤ 64 ∧ step.aliasName ≠ "" ∧
    step.aliasName.utf8ByteSize ≤ 256) "GM_RUN_STEP_INVALID"
  ensure (step.dependsOn.length ≤ 8 ∧ step.dependsOn.Nodup ∧
    ∀ id ∈ step.dependsOn, id ∈ plan.steps.map (·.id) ∧ id ≠ step.id) "GM_RUN_EDGE_INVALID"
  ensure ((plan.steps.filter fun other => other.dependsOn.contains step.id).length ≤ 8)
    "GM_RUN_FANOUT_BOUND"
  ensure (step.arguments.length ≤ 32 ∧ (toValue step.arguments).byteLength ≤ 8192 ∧
    Sha256Digest.ofJson (toValue step.arguments) = step.inputsSha256) "GM_RUN_INPUT_IDENTITY_INVALID"
  validateInputs step step.arguments
  ensure (step.policy.schemaVersion = "gaugemesh.json-artifact-policy/1" ∧
    step.policy.checks ≠ [] ∧ step.policy.checks.length ≤ 16 ∧
    (∃ check ∈ step.policy.checks, check.required) ∧
    (∀ check ∈ step.policy.checks, pointerValid check.pointer) ∧
    (toValue step.policy).byteLength ≤ 32768 ∧
    Sha256Digest.ofJson (toValue step.policy) = step.policySha256) "GM_RUN_POLICY_INVALID"
  ensure (step.permittedEffect = .nonIdempotentWrite ∧
    1 ≤ step.maxRuntimeMs ∧ step.maxRuntimeMs ≤ 30000 ∧
    1 ≤ step.maxArtifactBytes ∧ step.maxArtifactBytes ≤ 1048576) "GM_RUN_EFFECT_OR_BOUND_UNSUPPORTED"

def validate (plan : RunPlan) (acceptedAt : Nat) : Except String Unit := do
  ensure (plan.schemaVersion = "gaugemesh.run-plan/1") "GM_RUN_SCHEMA_UNSUPPORTED"
  ensure (identifier plan.runKey) "GM_RUN_KEY_INVALID"
  ensure (plan.steps ≠ [] ∧ plan.steps.length ≤ 16 ∧ 1 ≤ plan.maxConcurrency ∧
    plan.maxConcurrency ≤ 4 ∧ plan.maxAttempts = 1) "GM_RUN_BOUND_UNSUPPORTED"
  ensure (acceptedAt < plan.deadlineUnixMs ∧
    plan.deadlineUnixMs ≤ saturatingAdd acceptedAt 3600000) "GM_RUN_DEADLINE_INVALID"
  ensure (plan.failurePolicy = "fail_fast_account_inflight" ∧
    plan.uncertaintyPolicy = "stop_no_replay" ∧ plan.cancellationPolicy = "intent_then_poll")
    "GM_RUN_GUARANTEE_UNSUPPORTED"
  ensure (plan.artifactRoot.toList.head? = some '/') "GM_RUN_ARTIFACT_ROOT_INVALID"
  ensure (plan.steps.map (·.id)).Nodup "GM_RUN_DUPLICATE_STEP"
  checkEach plan.validateStep plan.steps
  ensure ((visitAll plan.steps (plan.steps.length + 1) []).length = plan.steps.length) "GM_RUN_CYCLE"

/-- What the driver relies on in an accepted plan. -/
structure Valid (plan : RunPlan) : Prop where
  concurrency : 1 ≤ plan.maxConcurrency
  bounded : plan.steps.length ≤ 16
  distinct : (plan.steps.map (·.id)).Nodup
  edges : ∀ step ∈ plan.steps, ∀ id ∈ step.dependsOn, id ∈ plan.steps.map (·.id) ∧ id ≠ step.id
  references : ∀ step ∈ plan.steps, ∀ name source pointer,
    (name,RunInput.predecessor source pointer) ∈ step.arguments → source ∈ step.dependsOn

theorem validate_ok {plan : RunPlan} {acceptedAt : Nat}
    (accepted : plan.validate acceptedAt = .ok ()) : plan.Valid := by
  simp only [validate,Except.then_ok,ensure_ok,checkEach_ok] at accepted
  obtain ⟨-,-,bounds,-,-,-,distinct,steps,-⟩ := accepted
  refine ⟨bounds.2.2.1,bounds.2.1,distinct,fun step member => ?_,fun step member => ?_⟩
  · have checked := steps step member
    simp only [validateStep,Except.then_ok,ensure_ok] at checked
    exact checked.2.1.2.2
  · have checked := steps step member
    simp only [validateStep,Except.then_ok,ensure_ok,validateInputs,checkEach_ok] at checked
    intro name source pointer entry
    have reference := checked.2.2.2.2.1 _ entry
    simp only [ensure_ok,List.contains_iff_mem] at reference
    exact reference.1

end RunPlan
end GaugeMesh
