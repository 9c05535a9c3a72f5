import GaugeMesh.Task.Transition

/-! `model.rs` of the core: the budget of a model request and the check of one model against
it. Token and cost estimates saturate at the largest 64-bit integer. -/
namespace GaugeMesh
open Json

structure ModelIdentity where
  provider : String
  endpointIdentity : Sha256Digest
  providerModelId : String
  capabilitySet : List String
  contextLimit : Nat
  toolCallSupport : Bool
  structuredOutputSupport : Bool
  streamingSupport : Bool
  costTableVersion : String
  policyDigest : Sha256Digest

structure CostTable where
  version : String
  inputMicrosPerMillionTokens : Nat
  outputMicrosPerMillionTokens : Nat

structure ModelBudget where
  maxInputTokens : Nat
  maxOutputTokens : Nat
  moneyMicros : Nat
  deadlineRemainingMs : Nat
  toolLoopLimit : Nat
  retryLimit : Nat
  providerAllowlist : List String
  modelAllowlist : List String
  deriving DecidableEq

inductive ToolMode where
  | off
  | transparent
  | lease
  deriving DecidableEq

def ToolMode.name : ToolMode → String
  | off => "off"
  | transparent => "transparent"
  | lease => "lease"

inductive ModelRouteError where
  | modelNotAllowed
  | providerNotAllowed
  | inputTokens
  | outputTokens
  | money
  | deadline
  | toolLoop
  deriving DecidableEq

def ModelRouteError.text : ModelRouteError → String
  | modelNotAllowed => "GM_MODEL_NOT_ALLOWED"
  | providerNotAllowed => "GM_PROVIDER_NOT_ALLOWED"
  | inputTokens => "GM_MODEL_INPUT_TOKEN_BUDGET"
  | outputTokens => "GM_MODEL_OUTPUT_TOKEN_BUDGET"
  | money => "GM_MODEL_MONEY_BUDGET"
  | deadline => "GM_MODEL_DEADLINE_EXHAUSTED"
  | toolLoop => "GM_MODEL_TOOL_LOOP_DISABLED"

def ModelIdentity.encode (m : ModelIdentity) : Value := .object [
  ("capability_set",toValue m.capabilitySet),
  ("context_limit",toValue m.contextLimit),
  ("cost_table_version",toValue m.costTableVersion),
  ("endpoint_identity",toValue m.endpointIdentity),
  ("policy_digest",toValue m.policyDigest),
  ("provider",toValue m.provider),
  ("provider_model_id",toValue m.providerModelId),
  ("streaming_support",toValue m.streamingSupport),
  ("structured_output_support",toValue m.structuredOutputSupport),
  ("tool_call_support",toValue m.toolCallSupport)]

def CostTable.encode (t : CostTable) : Value := .object [
  ("input_micros_per_million_tokens",toValue t.inputMicrosPerMillionTokens),
  ("output_micros_per_million_tokens",toValue t.outputMicrosPerMillionTokens),
  ("version",toValue t.version)]

def ModelBudget.encode (b : ModelBudget) : Value := .object [
  ("deadline_remaining_ms",toValue b.deadlineRemainingMs),
  ("max_input_tokens",toValue b.maxInputTokens),
  ("max_output_tokens",toValue b.maxOutputTokens),
  ("model_allowlist",toValue b.modelAllowlist),
  ("money_micros",toValue b.moneyMicros),
  ("provider_allowlist",toValue b.providerAllowlist),
  ("retry_limit",toValue b.retryLimit),
  ("tool_loop_limit",toValue b.toolLoopLimit)]

def saturatingMul (a b : Nat) : Nat := min (a * b) maxU64

def estimateCostMicros (input output : Nat) (table : CostTable) : Nat :=
  saturatingAdd (saturatingAdd (saturatingMul input table.inputMicrosPerMillionTokens)
    (saturatingMul output table.outputMicrosPerMillionTokens)) 999999 / 1000000

def enforceBudget (identity : ModelIdentity) (table : CostTable) (budget : ModelBudget)
    (estimatedInput requestedOutput : Nat) (toolMode : ToolMode) : Except ModelRouteError Nat := do
  reject (budget.providerAllowlist ≠ [] ∧ identity.provider ∉ budget.providerAllowlist)
    .providerNotAllowed
  reject (budget.modelAllowlist ≠ [] ∧ identity.providerModelId ∉ budget.modelAllowlist)
    .modelNotAllowed
  reject (estimatedInput > budget.maxInputTokens ∨ estimatedInput > identity.contextLimit) .inputTokens
  reject (requestedOutput > budget.maxOutputTokens) .outputTokens
  reject (budget.deadlineRemainingMs = 0) .deadline
  reject (toolMode ≠ .off ∧ budget.toolLoopLimit = 0) .toolLoop
  let estimated := estimateCostMicros estimatedInput requestedOutput table
  reject (estimated > budget.moneyMicros) .money
  return estimated

/-- The input of a call stays within the tokens, the context and the money. -/
structure Affordable (identity : ModelIdentity) (table : CostTable) (budget : ModelBudget)
    (input output : Nat) : Prop where
  tokens : input ≤ budget.maxInputTokens
  context : input ≤ identity.contextLimit
  money : estimateCostMicros input output table ≤ budget.moneyMicros

instance (identity : ModelIdentity) (table : CostTable) (budget : ModelBudget) (input output : Nat) :
    Decidable (Affordable identity table budget input output) :=
  decidable_of_iff (input ≤ budget.maxInputTokens ∧ input ≤ identity.contextLimit ∧
    estimateCostMicros input output table ≤ budget.moneyMicros)
    ⟨fun ⟨a,b,c⟩ => ⟨a,b,c⟩,fun ⟨a,b,c⟩ => ⟨a,b,c⟩⟩

theorem enforceBudget_affordable {identity : ModelIdentity} {table : CostTable}
    {budget : ModelBudget} {input output cost : Nat} {toolMode : ToolMode}
    (enforced : enforceBudget identity table budget input output toolMode = .ok cost) :
    Affordable identity table budget input output := by
  simp only [enforceBudget,Except.then_ok,reject_ok] at enforced
  obtain ⟨_,_,tokens,_,_,_,money,_⟩ := enforced
  exact ⟨by omega,by omega,by omega⟩

end GaugeMesh
