import GaugeMesh.Capability
import Mathlib.Data.Finset.Sort

/-! `context.rs`: on whose behalf, within which bounds and after which decisions a request
is made. Sets are written as sorted arrays. -/
namespace GaugeMesh
open Json

structure RequestId where
  text : String
  deriving DecidableEq

structure CausalId where
  text : String
  deriving DecidableEq

structure IdempotencyIdentity where
  text : String
  deriving DecidableEq

structure Principal where
  id : PrincipalId
  groups : Finset String
  deriving DecidableEq

structure CapabilityScope where
  capabilities : Finset String
  deriving DecidableEq

structure DelegationLink where
  «from» : PrincipalId
  «to» : PrincipalId
  scope : CapabilityScope
  proofDigest : Sha256Digest
  deriving DecidableEq

inductive DataClassification where
  | «public»
  | internal
  | confidential
  | restricted
  deriving DecidableEq

structure SideEffectContract where
  «class» : SideEffectClass
  idempotencyIdentity : Option IdempotencyIdentity
  compensationAllowed : Bool
  deriving DecidableEq

inductive ProtocolRevision where
  | mcp2025_11_25
  | mcp2026_07_28
  | openAiCompatibleV1
  | internalV1
  deriving DecidableEq

structure ProtocolIdentity where
  revision : ProtocolRevision
  peerDigest : Sha256Digest
  deriving DecidableEq

structure RequestContext where
  requestId : RequestId
  principal : Principal
  delegation : List DelegationLink
  tenant : TenantId
  scope : CapabilityScope
  dataClassification : DataClassification
  deadline : Nat
  monetaryBudget : Nat
  tokenBudget : Nat
  retryBudget : Nat
  sideEffect : SideEffectContract
  causalRoot : CausalId
  causalParent : Option CausalId
  traceParent : String
  protocol : ProtocolIdentity
  capability : Option CapabilityId
  schemaDigest : Sha256Digest
  routePolicyDigest : Sha256Digest
  dataProvenanceDigest : Sha256Digest
  causalObservations : List Sha256Digest
  routeDecisions : List Sha256Digest
  policyDecisions : List Sha256Digest
  retryAttempts : List Sha256Digest
  budgetDebits : List Sha256Digest

/-- A scope is within another when it is `is_subset_of` it. -/
instance : Preorder CapabilityScope where
  le a b := a.capabilities ⊆ b.capabilities
  le_refl a := Finset.Subset.refl a.capabilities
  le_trans _ _ _ := Finset.Subset.trans

instance (a b : CapabilityScope) : Decidable (a ≤ b) :=
  inferInstanceAs (Decidable (a.capabilities ⊆ b.capabilities))

namespace DataClassification

/-- The order in which the classes are declared. -/
def rank : DataClassification → Nat
  | «public» => 0
  | internal => 1
  | confidential => 2
  | restricted => 3

def name : DataClassification → String
  | «public» => "public"
  | internal => "internal"
  | confidential => "confidential"
  | restricted => "restricted"

instance : Preorder DataClassification := Preorder.lift rank

instance (a b : DataClassification) : Decidable (a ≤ b) :=
  inferInstanceAs (Decidable (a.rank ≤ b.rank))

end DataClassification

def ProtocolRevision.name : ProtocolRevision → String
  | mcp2025_11_25 => "mcp2025_11_25"
  | mcp2026_07_28 => "mcp2026_07_28"
  | openAiCompatibleV1 => "open_ai_compatible_v1"
  | internalV1 => "internal_v1"

/-- `serde_json::to_value` of an ordered set of strings. -/
def setValue (items : Finset String) : Value := toValue (items.sort (· ≤ ·))

def Principal.encode (p : Principal) : Value :=
  .object [("id",toValue p.id),("groups",setValue p.groups)]

def DelegationLink.encode (link : DelegationLink) : Value := .object [
  ("from",toValue link.from),
  ("to",toValue link.to),
  ("scope",setValue link.scope.capabilities),
  ("proof_digest",toValue link.proofDigest)]

def SideEffectContract.encode (contract : SideEffectContract) : Value := .object [
  ("class",toValue contract.class),
  ("idempotency_identity",toValue (contract.idempotencyIdentity.map (·.text))),
  ("compensation_allowed",toValue contract.compensationAllowed)]

def ProtocolIdentity.encode (identity : ProtocolIdentity) : Value := .object [
  ("revision",.string identity.revision.name),
  ("peer_digest",toValue identity.peerDigest)]

def RequestContext.encode (c : RequestContext) : Value := .object [
  ("request_id",.string c.requestId.text),
  ("principal",c.principal.encode),
  ("delegation",.array (c.delegation.map DelegationLink.encode)),
  ("tenant",toValue c.tenant),
  ("scope",setValue c.scope.capabilities),
  ("data_classification",.string c.dataClassification.name),
  ("deadline",toValue c.deadline),
  ("monetary_budget",toValue c.monetaryBudget),
  ("token_budget",toValue c.tokenBudget),
  ("retry_budget",toValue c.retryBudget),
  ("side_effect",c.sideEffect.encode),
  ("causal_root",.string c.causalRoot.text),
  ("causal_parent",toValue (c.causalParent.map (·.text))),
  ("trace_parent",.string c.traceParent),
  ("protocol",c.protocol.encode),
  ("capability",toValue c.capability),
  ("schema_digest",toValue c.schemaDigest),
  ("route_policy_digest",toValue c.routePolicyDigest),
  ("data_provenance_digest",toValue c.dataProvenanceDigest),
  ("causal_observations",toValue c.causalObservations),
  ("route_decisions",toValue c.routeDecisions),
  ("policy_decisions",toValue c.policyDecisions),
  ("retry_attempts",toValue c.retryAttempts),
  ("budget_debits",toValue c.budgetDebits)]

end GaugeMesh
