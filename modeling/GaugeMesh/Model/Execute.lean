import GaugeMesh.Lease.MetaTools
import GaugeMesh.Model.Budget
import GaugeMesh.Route.Optimal

/-! `model.rs`: a model request from its headers to the call of the provider. Every model is
held against the budget by the messages of the client, one is chosen, and a tool that the last
user message names may then add a message of its own. -/
namespace GaugeMesh.Model
open Json

inductive Role where
  | system
  | user
  | assistant
  | tool
  deriving DecidableEq

def Role.name : Role → String
  | system => "system"
  | user => "user"
  | assistant => "assistant"
  | tool => "tool"

structure Message where
  role : Role
  content : String
  deriving DecidableEq

def Message.encode (m : Message) : Value := .object [
  ("content",toValue m.content),
  ("role",toValue m.role.name)]

structure ProviderOutput where
  text : String
  inputTokens : Nat
  outputTokens : Nat
  observedCostMicros : Option Nat

structure ModelProvider where
  identity : ModelIdentity
  complete : List Message → Nat → Except String ProviderOutput

structure ModelRoute where
  modelAlias : String
  provider : ModelProvider
  costTable : CostTable
  maxOutputTokens : Nat

structure ModelBroker where
  providers : List ModelRoute
  federation : Federation

/-- What `to_str` gives: a value with other than visible characters has none. -/
structure HeaderValue where
  toStr : Option String

abbrev HeaderMap := String → Option HeaderValue

/-- `str::parse::<u64>`. -/
def parseU64 (text : String) : Option Nat :=
  let digits := match text.toList with
    | '+' :: rest => rest
    | all => all
  if digits ≠ [] ∧ digits.all Char.isDigit ∧ Nat.ofDigitChars 10 digits 0 ≤ maxU64 then
    some (Nat.ofDigitChars 10 digits 0)
  else none

def headerInvalid (name : String) : String := "GM_HEADER_INVALID:" ++ name

def headerU64 (headers : HeaderMap) (name : String) : Except String (Option Nat) :=
  match headers name with
  | none => .ok none
  | some value =>
    match value.toStr.bind parseU64 with
    | some n => .ok (some n)
    | none => .error (headerInvalid name)

def trim (text : List Char) : List Char :=
  ((text.dropWhile TaskSubmission.isWhitespace).reverse.dropWhile
    TaskSubmission.isWhitespace).reverse

def headerList (headers : HeaderMap) (name : String) : Except String (List String) :=
  match headers name with
  | none => .ok []
  | some value => do
    let text ← okOr value.toStr (headerInvalid name)
    let values := (((text.toList.splitOn ',').map trim).filter (· ≠ [])).map String.ofList
    reject (values.length > 32 ∨ values.any (·.utf8ByteSize > 128)) (headerInvalid name)
    return values

def toolMode (headers : HeaderMap) : Except String ToolMode :=
  match headers "x-gaugemesh-tool-mode" with
  | none => .ok .off
  | some value =>
    match value.toStr with
    | some "off" => .ok .off
    | some "transparent" => .ok .transparent
    | some "lease" => .ok .lease
    | _ => .error "GM_TOOL_MODE_INVALID"

def requestBudget (headers : HeaderMap) (maxOutput : Nat) : Except String ModelBudget := do
  let budget : ModelBudget := {
    maxInputTokens := (← headerU64 headers "x-gaugemesh-max-input-tokens").getD 4096
    maxOutputTokens := (← headerU64 headers "x-gaugemesh-max-output-tokens").getD 1024
    moneyMicros := (← headerU64 headers "x-gaugemesh-money-budget-micros").getD 0
    deadlineRemainingMs := (← headerU64 headers "x-gaugemesh-deadline-ms").getD 30000
    toolLoopLimit := ← bounded ((← headerU64 headers "x-gaugemesh-max-tool-rounds").getD 1)
      "GM_MODEL_TOOL_ROUNDS_INVALID"
    retryLimit := ← bounded ((← headerU64 headers "x-gaugemesh-retry-limit").getD 0)
      "GM_MODEL_RETRY_LIMIT_INVALID"
    providerAllowlist := ← headerList headers "x-gaugemesh-provider-allowlist"
    modelAllowlist := ← headerList headers "x-gaugemesh-model-allowlist" }
  reject (maxOutput = 0) "GM_MODEL_OUTPUT_TOKEN_BUDGET"
  return budget
where
  /-- `u16::try_from`. -/
  bounded (n : Nat) (error : String) : Except String Nat := if n < 2^16 then .ok n else .error error

def approximateTokens (values : List String) : Nat :=
  saturatingAdd (values.foldl (fun sum value => saturatingAdd sum value.utf8ByteSize) 0) 3 / 4

/-- Whether a model may take the request, and at which estimated cost. -/
def budgetResult (model : String) (budget : ModelBudget) (estimatedInput maxOutput : Nat)
    (mode : ToolMode) (route : ModelRoute) : Except ModelRouteError Nat :=
  let identity := route.provider.identity
  if ¬(model = "auto" ∨ model = route.modelAlias ∨ model = identity.providerModelId) then
    .error .modelNotAllowed
  else if maxOutput > route.maxOutputTokens then .error .outputTokens
  else enforceBudget identity route.costTable budget estimatedInput maxOutput mode

def candidate (route : ModelRoute) (result : Except ModelRouteError Nat) : Route.RouteCandidate where
  routeId := ⟨route.modelAlias⟩
  endpointId := route.provider.identity.endpointIdentity.toString
  hardConstraints :=
    match result with
    | .ok _ => ⟨true,[]⟩
    | .error error => ⟨false,[error.text]⟩
  metrics := {
    latency := 0
    cost := UInt32.ofNat (min (saturatingAdd route.costTable.inputMicrosPerMillionTokens
      route.costTable.outputMicrosPerMillionTokens) 10000)
    failure := 0
    pressure := 0
    exposure := if route.provider.identity.provider ≠ "fixture" then 1 else 0
    switching := 0 }
  semanticLoss := 0

def modelWeights : Route.RouteWeights where
  latency := 10
  cost := 30
  failure := 30
  semanticLoss := 1000
  pressure := 20
  exposure := 50
  switching := 10

/-- The estimated costs by alias; a later route of one alias wins. -/
def estimatedCosts (providers : List ModelRoute) (result : ModelRoute → Except ModelRouteError Nat) :
    Entries Nat :=
  Entries.collect (providers.filterMap fun route => (result route).toOption.map (route.modelAlias,·))

def notFoundOrRejected : String := "GM_MODEL_NOT_FOUND_OR_BUDGET_REJECTED"

/-- The smallest of the rejections. -/
def firstRejection (candidates : List Route.RouteCandidate) : String :=
  (((candidates.flatMap (·.hardConstraints.rejections)).mergeSort fun left right =>
    decide (left ≤ right)).destutter (· ≠ ·)).head?.getD notFoundOrRejected

structure ToolExecution where
  capabilityId : String
  toolAlias : String
  causalChild : String
  result : Value

/-- The text after `tool:` of the last user message. -/
def toolCommand (messages : List Message) : Option String :=
  (messages.reverse.find? (·.role = .user)).bind fun message =>
    if ['t','o','o','l',':'].isPrefixOf message.content.toList then
      some (String.ofList (message.content.toList.drop 5))
    else none

/-- `split_once(' ')`: the alias and the query. -/
def splitCommand (command : String) : String × String :=
  let (name,rest) := command.toList.span (· ≠ ' ')
  match rest with
  | [] => (command,"")
  | _ :: query => (String.ofList name,String.ofList query)

def toolResult (tool : FederatedTool) (query : String) : Value :=
  .object [("fixture",tool.fixtureResult),("query",toValue query)]

def maxToolPayloadBytes : Nat := 16 * 1024
def maxToolOutputBytes : Nat := 64 * 1024

/-- What is drawn from outside while a request is served. -/
structure Draws where
  clock : Option Nat
  uuid : String

variable [FloatText] [Sha256]

/-- The lease of lease mode is issued for this one invocation. -/
def leaseInvocation (draws : Draws) (causalParent : Sha256Digest)
    (identity : Option AuthenticatedIdentity) (tool : FederatedTool) : Except String Unit := do
  let principal := (identity.map (·.principal)).getD ⟨"local-model-client"⟩
  let tenant := (identity.map (·.tenant)).getD ⟨"local"⟩
  let now ← okOr draws.clock "GM_CLOCK_INVALID"
  let lease := CapabilityLease.issueWithSideEffects ⟨draws.uuid⟩ principal tenant
    causalParent.toString [tool.identity] ⟨∅⟩ (saturatingAdd now 1000) 0 4096 0 {.readOnly}
  (lease.authorizeInvocation principal tenant tool.identity tool.sideEffect now).mapError
    leaseErrorCode

def maybeExecuteTool (broker : ModelBroker) (draws : Draws) (messages : List Message)
    (mode : ToolMode) (causalParent : Sha256Digest) (identity : Option AuthenticatedIdentity) :
    Except String (Option ToolExecution) :=
  if mode = .off then .ok none
  else
    match toolCommand messages with
    | none => .ok none
    | some command => do
      reject (command.utf8ByteSize > maxToolPayloadBytes) "GM_TOOL_PAYLOAD_TOO_LARGE"
      let parts := splitCommand command
      let tool ← okOr (broker.federation.tool parts.1) Federation.notFound
      reject (tool.sideEffect ≠ .readOnly) "GM_TOOL_SIDE_EFFECT_DENIED"
      if mode = .lease then leaseInvocation draws causalParent identity tool
      let result := toolResult tool parts.2
      reject (result.byteLength > maxToolOutputBytes) "GM_TOOL_RESULT_TOO_LARGE"
      return some {
        capabilityId := tool.identity.digest.toString
        toolAlias := parts.1
        causalChild := (Sha256Digest.ofJson (.object [
          ("arguments",.object [("query",toValue parts.2)]),
          ("capability",toValue tool.identity.digest),
          ("parent",toValue causalParent)])).toString
        result := result }

/-- The call of a provider, with what the answer is later reported with. -/
structure ProviderCall where
  route : ModelRoute
  plan : Route.RoutePlan
  budget : ModelBudget
  mode : ToolMode
  estimatedInput : Nat
  estimatedCostMicros : Nat
  requestDigest : Sha256Digest
  tool : Option ToolExecution
  messages : List Message
  maxOutput : Nat

def requestDigest (route : ModelRoute) (messages : List Message) (maxOutput : Nat) (mode : ToolMode)
    (budget : ModelBudget) (identity : Option AuthenticatedIdentity) : Sha256Digest :=
  .ofJson (.object [
    ("authScopes",toValue (identity.map (·.scopes))),
    ("budget",budget.encode),
    ("maxOutput",toValue maxOutput),
    ("messages",.array (messages.map Message.encode)),
    ("modelIdentity",toValue (Sha256Digest.ofJson route.provider.identity.encode)),
    ("principal",toValue (identity.map (·.principal))),
    ("tenant",toValue (identity.map (·.tenant))),
    ("toolMode",toValue mode.name)])

/-- What is sent: the messages of the client, and the result of the tool after them. -/
def providerMessages (messages : List Message) (tool : Option ToolExecution) : List Message :=
  match tool with
  | none => messages
  | some tool => messages ++ [⟨.tool,String.ofList tool.result.text⟩]

/-- `execute` up to the call of the provider. -/
def prepareCall (broker : ModelBroker) (draws : Draws) (headers : HeaderMap) (model : String)
    (messages : List Message) (maxOutput : Nat) (identity : Option AuthenticatedIdentity) :
    Except String ProviderCall := do
  let mode ← toolMode headers
  let estimatedInput := approximateTokens (messages.map (·.content))
  let budget ← requestBudget headers maxOutput
  let result := budgetResult model budget estimatedInput maxOutput mode
  let candidates := broker.providers.map fun route => candidate route (result route)
  let costs := estimatedCosts broker.providers result
  reject (costs = []) (firstRejection candidates)
  let plan ← (Route.plan candidates modelWeights).mapError fun _ => notFoundOrRejected
  let route ← okOr (broker.providers.find? fun route => route.modelAlias = plan.selected.text)
    "GM_MODEL_ROUTE_IDENTITY_LOST"
  let estimatedCost ← okOr (costs.lookup route.modelAlias) "GM_MODEL_ROUTE_BUDGET_LOST"
  let digest := requestDigest route messages maxOutput mode budget identity
  let tool ← maybeExecuteTool broker draws messages mode digest identity
  return ⟨route,plan,budget,mode,estimatedInput,estimatedCost,digest,tool,
    providerMessages messages tool,maxOutput⟩

structure Execution where
  id : String
  output : ProviderOutput
  routeDigest : Sha256Digest
  estimatedCostMicros : Nat
  tool : Option ToolExecution
  modelAlias : String
  costTableVersion : String

/-- A provider that does not answer in time counts as one that fails. -/
def execute (broker : ModelBroker) (draws : Draws) (headers : HeaderMap) (model : String)
    (messages : List Message) (maxOutput : Nat) (identity : Option AuthenticatedIdentity) :
    Except String Execution := do
  let call ← prepareCall broker draws headers model messages maxOutput identity
  let output ← call.route.provider.complete call.messages call.maxOutput
  return {
    id := "gm-" ++ String.ofList ((call.requestDigest.toString.toList.drop 7).take 16)
    output := output
    routeDigest := .ofJson (.object [
      ("costTable",call.route.costTable.encode),
      ("estimatedInput",toValue call.estimatedInput),
      ("maxOutput",toValue call.maxOutput),
      ("model",call.route.provider.identity.encode),
      ("plan",call.plan.encode),
      ("toolMode",toValue call.mode.name)])
    estimatedCostMicros := call.estimatedCostMicros
    tool := call.tool
    modelAlias := call.route.modelAlias
    costTableVersion := call.route.costTable.version }

end GaugeMesh.Model
