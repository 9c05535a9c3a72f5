import GaugeMesh.Conserve.Context
import GaugeMesh.Conserve.Path

/-! `invariant.rs`: what has to hold between the context an adapter receives and the one
it hands on. Every check adds one finding to the report; a report passes when none of the
findings is a violation, and what that means is said once, as `Conserves`. -/
namespace GaugeMesh
open Json

inductive InvariantId where
  | request
  | principal
  | tenant
  | scope
  | deadline
  | monetaryBudget
  | tokenBudget
  | retryBudget
  | dataClassification
  | causalRoot
  | causalParent
  | capability
  | sideEffect
  | «schema»
  | traceParent
  | dataProvenance
  | routePolicy
  | delegation
  | causalObservations
  | routeDecisions
  | policyDecisions
  | retryAttempts
  | budgetDebits
  deriving DecidableEq

/-- `format!("{id:?}")`. -/
def InvariantId.debug : InvariantId → String
  | request => "Request"
  | principal => "Principal"
  | tenant => "Tenant"
  | scope => "Scope"
  | deadline => "Deadline"
  | monetaryBudget => "MonetaryBudget"
  | tokenBudget => "TokenBudget"
  | retryBudget => "RetryBudget"
  | dataClassification => "DataClassification"
  | causalRoot => "CausalRoot"
  | causalParent => "CausalParent"
  | capability => "Capability"
  | sideEffect => "SideEffect"
  | «schema» => "Schema"
  | traceParent => "TraceParent"
  | dataProvenance => "DataProvenance"
  | routePolicy => "RoutePolicy"
  | delegation => "Delegation"
  | causalObservations => "CausalObservations"
  | routeDecisions => "RouteDecisions"
  | policyDecisions => "PolicyDecisions"
  | retryAttempts => "RetryAttempts"
  | budgetDebits => "BudgetDebits"

inductive InvariantErrorCode where
  | principalLost
  | tenantChanged
  | scopeExpanded
  | deadlineExtended
  | budgetIncreased
  | retryAmplified
  | dataDowngraded
  | causalityBroken
  | schemaUnbound
  | translationLossExceeded
  deriving DecidableEq

structure SemanticLoss where
  field : String
  reason : String
  weight : Nat
  deriving DecidableEq

structure InvariantViolation where
  invariant : InvariantId
  code : InvariantErrorCode
  detail : String
  deriving DecidableEq

structure ConservationReport where
  preserved : List InvariantId
  strengthened : List InvariantId
  optionalLosses : List SemanticLoss
  semanticLossScore : Nat
  violations : List InvariantViolation
  sourceDigest : Sha256Digest
  targetDigest : Option Sha256Digest

def ConservationReport.passed (report : ConservationReport) : Bool := report.violations.isEmpty

/-- The three lists a report is collected in. -/
structure Findings where
  preserved : List InvariantId
  strengthened : List InvariantId
  violations : List InvariantViolation

namespace Findings

def new : Findings := ⟨[],[],[]⟩

def preserve (found : Findings) (id : InvariantId) : Findings :=
  { found with preserved := found.preserved ++ [id] }

def strengthen (found : Findings) (id : InvariantId) : Findings :=
  { found with strengthened := found.strengthened ++ [id] }

def violate (found : Findings) (id : InvariantId) (code : InvariantErrorCode) (detail : String) :
    Findings :=
  { found with violations := found.violations ++ [⟨id,code,detail⟩] }

/-- A check that accepts in one of two ways or finds a violation. -/
def check (equal valid : Prop) [Decidable equal] [Decidable valid] (id : InvariantId)
    (code : InvariantErrorCode) (detail : String) (found : Findings) : Findings :=
  if equal then found.preserve id
  else if valid then found.strengthen id
  else found.violate id code detail

/-- `equal!`. -/
def equal [DecidableEq α] (source target : α) (id : InvariantId) (code : InvariantErrorCode)
    (detail : String) : Findings → Findings :=
  check (source = target) False id code detail

def appendOnly [DecidableEq α] (source target : List α) (id : InvariantId)
    (code : InvariantErrorCode) : Findings → Findings :=
  check (target = source) (source <+: target) id code (id.debug ++ " is not append-only")

def monotone (valid equal : Prop) [Decidable valid] [Decidable equal] (id : InvariantId)
    (code : InvariantErrorCode) : Findings → Findings :=
  check equal valid id code (id.debug ++ " monotonicity violated")

/-- A check that only reports what it refuses. -/
def require (valid : Prop) [Decidable valid] (id : InvariantId) (code : InvariantErrorCode)
    (detail : String) (found : Findings) : Findings :=
  if valid then found else found.violate id code detail

end Findings

/-- The loop over the links that were added: each starts at the current principal, within
the current scope, and leads to a principal not seen before. -/
def followDelegation (current : PrincipalId) (scope : CapabilityScope)
    (seen : Finset PrincipalId) : List DelegationLink → Option (PrincipalId × CapabilityScope)
  | [] => some (current,scope)
  | link :: rest =>
    if link.from ≠ current ∨ ¬link.scope ≤ scope ∨ link.to ∈ seen then none
    else followDelegation link.to link.scope (insert link.to seen) rest

/-- Everybody a context's delegation names, and its principal. -/
def RequestContext.seen (context : RequestContext) : Finset PrincipalId :=
  insert context.principal.id
    (context.delegation.flatMap fun link => [link.from,link.to]).toFinset

def validDelegationExtension (source target : RequestContext) : Bool :=
  if ¬source.delegation <+: target.delegation then false
  else
    let extension := target.delegation.drop source.delegation.length
    if extension.isEmpty then false
    else
      match followDelegation source.principal.id source.scope source.seen extension with
      | none => false
      | some (current,scope) =>
        decide (current = target.principal.id) && decide (target.scope ≤ scope)

/-- No observation is repeated and the parent is not the root. -/
def RequestContext.CausallyAcyclic (context : RequestContext) : Prop :=
  context.causalObservations.toFinset.card = context.causalObservations.length ∧
    context.causalParent ≠ some context.causalRoot

instance (context : RequestContext) : Decidable context.CausallyAcyclic :=
  inferInstanceAs (Decidable (_ ∧ _))

def findings (source target : RequestContext) : Findings :=
  Findings.new
  |> .check (source.principal = target.principal) (validDelegationExtension source target = true)
    .principal .principalLost "principal changed without an explicit bounded delegation proof"
  |> .equal source.requestId target.requestId .request .causalityBroken "request_id"
  |> .equal source.tenant target.tenant .tenant .tenantChanged "tenant"
  |> .equal source.causalRoot target.causalRoot .causalRoot .causalityBroken "causal_root"
  |> .equal source.causalParent target.causalParent .causalParent .causalityBroken "causal_parent"
  |> .equal source.sideEffect target.sideEffect .sideEffect .causalityBroken "side_effect"
  |> .equal source.schemaDigest target.schemaDigest .schema .schemaUnbound "schema_digest"
  |> .equal source.traceParent target.traceParent .traceParent .causalityBroken "trace_parent"
  |> .equal source.dataProvenanceDigest target.dataProvenanceDigest .dataProvenance .causalityBroken
    "data_provenance_digest"
  |> .equal source.routePolicyDigest target.routePolicyDigest .routePolicy .causalityBroken
    "route_policy_digest"
  |> .equal source.capability target.capability .capability .schemaUnbound
    "capability identity changed across the adapter boundary"
  |> .appendOnly source.delegation target.delegation .delegation .causalityBroken
  |> .require (¬(source.delegation.length < target.delegation.length ∧
      validDelegationExtension source target = false)) .delegation .principalLost
    "delegation extension is disconnected, cyclic, or expands scope"
  |> .require target.CausallyAcyclic .causalObservations .causalityBroken
    "causal path contains a self-edge or repeated observation"
  |> .appendOnly source.causalObservations target.causalObservations .causalObservations
    .causalityBroken
  |> .appendOnly source.routeDecisions target.routeDecisions .routeDecisions .causalityBroken
  |> .appendOnly source.policyDecisions target.policyDecisions .policyDecisions .causalityBroken
  |> .appendOnly source.retryAttempts target.retryAttempts .retryAttempts .retryAmplified
  |> .appendOnly source.budgetDebits target.budgetDebits .budgetDebits .budgetIncreased
  |> .monotone (target.scope ≤ source.scope) (target.scope = source.scope) .scope .scopeExpanded
  |> .monotone (target.deadline ≤ source.deadline) (target.deadline = source.deadline) .deadline
    .deadlineExtended
  |> .monotone (target.monetaryBudget ≤ source.monetaryBudget)
    (target.monetaryBudget = source.monetaryBudget) .monetaryBudget .budgetIncreased
  |> .monotone (target.tokenBudget ≤ source.tokenBudget) (target.tokenBudget = source.tokenBudget)
    .tokenBudget .budgetIncreased
  |> .monotone (target.retryBudget ≤ source.retryBudget) (target.retryBudget = source.retryBudget)
    .retryBudget .retryAmplified
  |> .monotone (source.dataClassification ≤ target.dataClassification)
    (target.dataClassification = source.dataClassification) .dataClassification .dataDowngraded

def conserve [FloatText] [Sha256] (source target : RequestContext) : ConservationReport where
  preserved := (findings source target).preserved
  strengthened := (findings source target).strengthened
  optionalLosses := []
  semanticLossScore := 0
  violations := (findings source target).violations
  sourceDigest := .ofJson source.encode
  targetDigest := some (.ofJson target.encode)

namespace Findings

variable {id : InvariantId} {code : InvariantErrorCode} {detail : String} {found : Findings}

theorem check_violations {equal valid : Prop} [Decidable equal] [Decidable valid] :
    (found.check equal valid id code detail).violations = [] ↔
      found.violations = [] ∧ (equal ∨ valid) := by
  unfold check
  split
  · next same => simp [preserve,same]
  · next different =>
    split
    · next accepted => simp [strengthen,accepted]
    · next refused => simp [violate,different,refused]

theorem equal_violations [DecidableEq α] {source target : α} :
    (found.equal source target id code detail).violations = [] ↔
      found.violations = [] ∧ source = target := by
  rw [equal,check_violations,or_false]

theorem appendOnly_violations [DecidableEq α] {source target : List α} :
    (found.appendOnly source target id code).violations = [] ↔
      found.violations = [] ∧ source <+: target := by
  rw [appendOnly,check_violations]
  refine and_congr_right' ⟨?_,.inr⟩
  rintro (rfl | longer)
  · exact List.prefix_refl _
  · exact longer

theorem monotone_down [Preorder α] {source target : α} [Decidable (target ≤ source)]
    [Decidable (target = source)] :
    (found.monotone (target ≤ source) (target = source) id code).violations = [] ↔
      found.violations = [] ∧ target ≤ source := by
  rw [monotone,check_violations]
  exact and_congr_right' ⟨fun either => either.elim le_of_eq fun holds => holds,.inr⟩

theorem monotone_up [Preorder α] {source target : α} [Decidable (source ≤ target)]
    [Decidable (target = source)] :
    (found.monotone (source ≤ target) (target = source) id code).violations = [] ↔
      found.violations = [] ∧ source ≤ target := by
  rw [monotone,check_violations]
  exact and_congr_right' ⟨fun either => either.elim ge_of_eq fun holds => holds,.inr⟩

theorem require_violations {valid : Prop} [Decidable valid] :
    (found.require valid id code detail).violations = [] ↔ found.violations = [] ∧ valid := by
  unfold require
  split
  · next holds => simp [holds]
  · next fails => simp [violate,fails]

end Findings
end GaugeMesh
