import GaugeMesh.Json.Reference
import GaugeMesh.Model.Execute

/-! What the provider is sent against what the budget allows. The messages of the client are
within the budget of the chosen model; the message that a tool adds is not counted. -/
namespace GaugeMesh.Model
open Json

theorem budgetResult_affordable {model : String} {budget : ModelBudget} {input output cost : Nat}
    {mode : ToolMode} {route : ModelRoute}
    (passed : budgetResult model budget input output mode route = .ok cost) :
    Affordable route.provider.identity route.costTable budget input output := by
  simp only [budgetResult] at passed
  split at passed
  · cases passed
  · split at passed
    · cases passed
    · exact enforceBudget_affordable passed

section
variable [FloatText]

/-- The text a tool adds to the messages, as the request determines it. -/
def addedText (federation : Federation) (mode : ToolMode) (messages : List Message) :
    Option String :=
  if mode = .off then none
  else (toolCommand messages).bind fun command =>
    (federation.tool (splitCommand command).1).map fun tool =>
      String.ofList (toolResult tool (splitCommand command).2).text

theorem providerMessages_contents (messages : List Message) (tool : Option ToolExecution) :
    (providerMessages messages tool).map (·.content) = messages.map (·.content) ++
      (tool.map fun tool => String.ofList tool.result.text).toList := by
  cases tool <;> simp [providerMessages]

variable [Sha256]

theorem maybeExecuteTool_text {broker : ModelBroker} {draws : Draws} {messages : List Message}
    {mode : ToolMode} {causalParent : Sha256Digest} {identity : Option AuthenticatedIdentity}
    {tool : Option ToolExecution}
    (executed : maybeExecuteTool broker draws messages mode causalParent identity = .ok tool) :
    addedText broker.federation mode messages =
      tool.map fun tool => String.ofList tool.result.text := by
  rw [maybeExecuteTool] at executed
  rw [addedText]
  split at executed
  · next off =>
    cases executed
    rw [if_pos off]
    rfl
  next on =>
  rw [if_neg on]
  split at executed
  · next nothing =>
    cases executed
    rw [nothing]
    rfl
  · next command found =>
    rw [found]
    simp only [Except.bind_ok,okOr_ok] at executed
    obtain ⟨_,_,federated,found,_,_,rest⟩ := executed
    simp only [Option.bind_some,found,Option.map_some]
    split at rest
    · obtain ⟨_,_,rest⟩ := Except.bind_ok.mp rest
      obtain ⟨_,_,same⟩ := Except.bind_ok.mp rest
      cases same
      rfl
    · obtain ⟨_,_,same⟩ := Except.bind_ok.mp rest
      cases same
      rfl

theorem plan_selects {candidates : List Route.RouteCandidate} {weights : Route.RouteWeights}
    {plan : Route.RoutePlan} (planned : Route.plan candidates weights = .ok plan) :
    (candidates.map (·.routeId)).Nodup ∧
      ∃ chosen ∈ candidates, chosen.hardConstraints.allowed ∧ chosen.routeId = plan.selected := by
  rw [Route.plan,Except.bind_ok] at planned
  obtain ⟨decision,decided,planned⟩ := planned
  have distinct : (candidates.map (·.routeId)).Nodup := by
    rw [← Route.duplicated_sortById]
    rw [Route.decide_checks] at decided
    by_contra duplicated
    rw [Bool.not_eq_false] at duplicated
    simp only [duplicated] at decided
    split at decided
    · cases decided
    · split at decided <;> cases decided
  rcases Route.decide_cases candidates weights with ⟨_,refused,_⟩ |
    ⟨_,_,other,selected,chosen,member,allowed,same,_⟩ | ⟨_,_,_,denied,_⟩
  · rw [refused] at decided
    cases decided
  · rw [selected] at decided
    cases decided
    cases planned
    exact ⟨distinct,chosen,member,allowed,same⟩
  · rw [denied] at decided
    cases decided
    cases planned

/-- The model that is found by the selected id is the one that was allowed. -/
theorem selected_allowed {providers : List ModelRoute}
    {result : ModelRoute → Except ModelRouteError Nat} {plan : Route.RoutePlan} {route : ModelRoute}
    (planned : Route.plan (providers.map fun route => candidate route (result route)) modelWeights =
      .ok plan)
    (found : providers.find? (fun route => route.modelAlias = plan.selected.text) = some route) :
    ∃ cost, result route = .ok cost := by
  obtain ⟨distinct,chosen,member,allowed,same⟩ := plan_selects planned
  obtain ⟨other,inside,rfl⟩ := List.mem_map.mp member
  have named : route.modelAlias = plan.selected.text := by simpa using List.find?_some found
  have equal : route = other := by
    rw [List.map_map] at distinct
    refine List.inj_on_of_nodup_map distinct (List.mem_of_find?_eq_some found) inside ?_
    exact Route.RouteId.ext (named.trans (congrArg Route.RouteId.text same).symm)
  subst equal
  cases outcome : result route with
  | ok cost => exact ⟨cost,rfl⟩
  | error error => simp [candidate,outcome] at allowed

/-- What is known of a call of the provider. -/
structure Prepared (broker : ModelBroker) (messages : List Message) (call : ProviderCall) : Prop where
  contents : call.messages.map (·.content) =
    messages.map (·.content) ++ (addedText broker.federation call.mode messages).toList
  affordable : Affordable call.route.provider.identity call.route.costTable call.budget
    (approximateTokens (messages.map (·.content))) call.maxOutput

theorem prepareCall_prepared {broker : ModelBroker} {draws : Draws} {headers : HeaderMap}
    {model : String} {messages : List Message} {maxOutput : Nat}
    {identity : Option AuthenticatedIdentity} {call : ProviderCall}
    (prepared : prepareCall broker draws headers model messages maxOutput identity = .ok call) :
    toolMode headers = .ok call.mode ∧ requestBudget headers maxOutput = .ok call.budget ∧
      call.maxOutput = maxOutput ∧ Prepared broker messages call := by
  simp only [prepareCall,Except.bind_ok,okOr_ok,mapError_ok] at prepared
  obtain ⟨mode,moded,budget,budgeted,_,_,plan,planned,route,found,cost,_,tool,executed,same⟩ := prepared
  cases same
  obtain ⟨cost,passed⟩ := selected_allowed planned found
  refine ⟨moded,budgeted,rfl,?_,budgetResult_affordable passed⟩
  rw [providerMessages_contents,maybeExecuteTool_text executed]

/-- The messages sent are within the budget exactly when no tool adds a text, or the text fits
into what the messages of the client leave. -/
theorem sent_within_budget {broker : ModelBroker} {draws : Draws} {headers : HeaderMap}
    {model : String} {messages : List Message} {maxOutput : Nat}
    {identity : Option AuthenticatedIdentity} {call : ProviderCall}
    (prepared : prepareCall broker draws headers model messages maxOutput identity = .ok call) :
    Affordable call.route.provider.identity call.route.costTable call.budget
      (approximateTokens (call.messages.map (·.content))) call.maxOutput ↔
    ∀ text, addedText broker.federation call.mode messages = some text →
      Affordable call.route.provider.identity call.route.costTable call.budget
        (approximateTokens (messages.map (·.content) ++ [text])) call.maxOutput := by
  obtain ⟨_,_,_,contents,affordable⟩ := prepareCall_prepared prepared
  rw [contents]
  cases added : addedText broker.federation call.mode messages with
  | none => simpa using affordable
  | some text => simp

end

section Example
open Reference

def echoModel : ModelRoute :=
  ⟨"local",⟨⟨"fixture",.default,"echo",["chat"],4096,true,false,true,"v1",.default⟩,
    fun _ _ => .error "GM_MODEL_PROVIDER_TIMEOUT"⟩,⟨"v1",0,0⟩,1024⟩

def searchAnswer : FederatedTool :=
  ⟨⟨⟨"docs"⟩,.tool,.default,.default,⟨"2026-07-28"⟩,.default⟩,"search",.object [],.readOnly,.null⟩

def echoBroker : ModelBroker := ⟨[echoModel],⟨[("docs__search",searchAnswer)]⟩⟩

def searchMessages : List Message := [⟨.user,"tool:docs__search"⟩]

/-- Five tokens of input, as many as the message counts. -/
def fiveTokens : HeaderMap
  | "x-gaugemesh-max-input-tokens" => some ⟨some "5"⟩
  | "x-gaugemesh-tool-mode" => some ⟨some "transparent"⟩
  | _ => none

def fiveTokenBudget : ModelBudget := ⟨5,1024,0,30000,1,0,[],[]⟩

def echoCandidate : Route.RouteCandidate := candidate echoModel (.ok 0)

theorem echoModel_planned : ∃ plan, Route.plan [echoCandidate] modelWeights = .ok plan ∧
    plan.selected = ⟨"local"⟩ := by
  have sorted : Route.sortById [echoCandidate] = [echoCandidate] := List.mergeSort_singleton _
  have explained : ∃ explanation, Route.explain modelWeights [echoCandidate] =
      .ok (explanation,[(0,⟨"local"⟩)]) := ⟨_,rfl⟩
  obtain ⟨explanation,explained⟩ := explained
  have concluded : ∃ version digest plan, Route.conclude [echoCandidate] modelWeights =
      .ok (.selected version digest plan) ∧ plan.selected = ⟨"local"⟩ := by
    simp only [Route.conclude,explained,bind,Except.bind,List.mergeSort_singleton,List.head?_cons,
      pure,Except.pure]
    exact ⟨_,_,_,rfl,rfl⟩
  obtain ⟨version,digest,plan,concluded,selected⟩ := concluded
  refine ⟨plan,?_,selected⟩
  have decided : Route.decide [echoCandidate] modelWeights = .ok (.selected version digest plan) := by
    rw [Route.decide_checks,sorted]
    exact concluded
  rw [Route.plan,decided]
  rfl

theorem searchAnswer_text : (toolResult searchAnswer "").text = "\x7b\"fixture\":null,\"query\":\"\"\x7d".toList := by
  rfl

theorem searchAnswer_executed (parent : Sha256Digest) : ∃ tool,
    maybeExecuteTool echoBroker ⟨none,""⟩ searchMessages .transparent parent none = .ok (some tool) := by
  have small : ¬(toolResult searchAnswer "").byteLength > maxToolOutputBytes := by
    rw [Value.byteLength,searchAnswer_text]
    decide
  have command : toolCommand searchMessages = some "docs__search" := by decide
  have parts : splitCommand "docs__search" = ("docs__search","") := by decide
  have found : echoBroker.federation.tool "docs__search" = some searchAnswer := rfl
  have short : ¬"docs__search".utf8ByteSize > maxToolPayloadBytes := by decide
  apply Exists.intro
  rw [maybeExecuteTool,if_neg (by decide),command]
  simp only [Except.bind_ok,okOr_ok,parts]
  refine ⟨(),(reject_ok _ _).mpr short,searchAnswer,found,(),(reject_ok _ _).mpr (by decide),?_⟩
  rw [if_neg (by decide)]
  exact Except.bind_ok.mpr ⟨(),(reject_ok _ _).mpr small,rfl⟩

theorem echoBroker_prepared : ∃ call, prepareCall echoBroker ⟨none,""⟩ fiveTokens "auto"
    searchMessages 16 none = .ok call := by
  obtain ⟨plan,planned,selected⟩ := echoModel_planned
  have budgeted : requestBudget fiveTokens 16 = .ok fiveTokenBudget := by decide
  have input : approximateTokens (searchMessages.map (·.content)) = 5 := by decide
  have found : echoBroker.providers.find? (fun route => route.modelAlias = plan.selected.text) =
      some echoModel := by
    rw [selected]
    rfl
  obtain ⟨tool,executed⟩ := searchAnswer_executed
    (requestDigest echoModel searchMessages 16 .transparent fiveTokenBudget none)
  apply Exists.intro
  simp only [prepareCall,Except.bind_ok,okOr_ok,mapError_ok,input]
  have passed : budgetResult "auto" fiveTokenBudget 5 16 .transparent echoModel = .ok 0 := by
    simp [budgetResult,echoModel,enforceBudget,fiveTokenBudget,reject,estimateCostMicros,
      saturatingMul,saturatingAdd,maxU64,bind,Except.bind,pure,Except.pure]
  have priced : estimatedCosts echoBroker.providers
      (budgetResult "auto" fiveTokenBudget 5 16 .transparent) = [("local",0)] := by
    rw [estimatedCosts,echoBroker,List.filterMap_cons,passed]
    rfl
  have chosen : Route.plan (echoBroker.providers.map fun route => candidate route
      (budgetResult "auto" fiveTokenBudget 5 16 .transparent route)) modelWeights = .ok plan := by
    rw [echoBroker,List.map_singleton,passed]
    exact planned
  refine ⟨.transparent,rfl,fiveTokenBudget,budgeted,(),?_,plan,chosen,echoModel,found,0,?_,some tool,
    executed,rfl⟩
  · exact (reject_ok _ _).mpr (by simp [priced])
  · rw [priced]
    rfl

theorem searchAnswer_added : addedText echoBroker.federation .transparent searchMessages =
    some "\x7b\"fixture\":null,\"query\":\"\"\x7d" := by
  have command : toolCommand searchMessages = some "docs__search" := by decide
  have parts : splitCommand "docs__search" = ("docs__search","") := by decide
  have found : echoBroker.federation.tool "docs__search" = some searchAnswer := rfl
  rw [addedText,if_neg (by decide),command,Option.bind_some,parts,found,Option.map_some,
    searchAnswer_text,String.ofList_toList]

theorem sent_within_budget_example : ∃ call,
    prepareCall echoBroker ⟨none,""⟩ fiveTokens "auto" searchMessages 16 none = .ok call ∧
    ¬Affordable call.route.provider.identity call.route.costTable call.budget
      (approximateTokens (call.messages.map (·.content))) call.maxOutput := by
  obtain ⟨call,prepared⟩ := echoBroker_prepared
  obtain ⟨moded,budgeted,_⟩ := prepareCall_prepared prepared
  have transparent : call.mode = .transparent :=
    Except.ok.inj (moded.symm.trans (rfl : toolMode fiveTokens = .ok .transparent))
  have five : call.budget = fiveTokenBudget :=
    Except.ok.inj (budgeted.symm.trans (by decide : requestBudget fiveTokens 16 = .ok fiveTokenBudget))
  refine ⟨call,prepared,fun within => ?_⟩
  have fits := (sent_within_budget prepared).mp within _ (transparent ▸ searchAnswer_added)
  have tokens := fits.tokens
  rw [five] at tokens
  exact absurd tokens (by decide)

/-- The request counts five tokens, as many as it may; the provider is sent eleven. -/
theorem sent_over_budget : ∃ call,
    prepareCall echoBroker ⟨none,""⟩ fiveTokens "auto" searchMessages 16 none = .ok call ∧
    call.budget.maxInputTokens = 5 ∧
    approximateTokens (searchMessages.map (·.content)) = 5 ∧
    approximateTokens (call.messages.map (·.content)) = 11 := by
  obtain ⟨call,prepared⟩ := echoBroker_prepared
  obtain ⟨moded,budgeted,_,contents,_⟩ := prepareCall_prepared prepared
  have transparent : call.mode = .transparent :=
    Except.ok.inj (moded.symm.trans (rfl : toolMode fiveTokens = .ok .transparent))
  have five : call.budget = fiveTokenBudget :=
    Except.ok.inj (budgeted.symm.trans (by decide : requestBudget fiveTokens 16 = .ok fiveTokenBudget))
  rw [transparent,searchAnswer_added] at contents
  refine ⟨call,prepared,by rw [five]; rfl,by decide,?_⟩
  rw [contents]
  decide

end Example
end GaugeMesh.Model
