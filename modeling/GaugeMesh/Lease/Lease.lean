import GaugeMesh.Conserve.Context
import GaugeMesh.Task.Transition
import Mathlib.Data.List.Destutter
import Mathlib.Data.Prod.Lex
import Mathlib.Data.List.Lex

/-! `lease.rs`: a lease gives one caller some capabilities and side effects until it
expires. Its manifest digest is taken over everything but its id. -/
namespace GaugeMesh
open Json

structure LeaseId where
  text : String
  deriving DecidableEq

structure CapabilityLease where
  id : LeaseId
  principal : PrincipalId
  tenant : TenantId
  requestIdentity : String
  capabilities : List CapabilityId
  scope : CapabilityScope
  expiresAtMonotonicMs : Nat
  monetaryBudget : Nat
  tokenBudget : Nat
  retryBudget : Nat
  sideEffects : Finset SideEffectClass
  manifestDigest : Sha256Digest
  deriving DecidableEq

inductive LeaseError where
  | expired
  | principal
  | tenant
  | capability
  | staleSchema
  | manifest
  deriving DecidableEq

/-- Digests are ordered byte by byte. -/
def Sha256Digest.orderKey (digest : Sha256Digest) : List Nat := digest.bytes.map UInt8.toNat

/-- The declared order of a capability's fields. -/
def CapabilityId.orderKey (c : CapabilityId) :
    String ×ₗ Nat ×ₗ List Nat ×ₗ List Nat ×ₗ String ×ₗ List Nat :=
  toLex (c.source.text,toLex (CapabilityKind.all.idxOf c.kind,
    toLex (c.nativeIdentityDigest.orderKey,toLex (c.schemaDigest.orderKey,
      toLex (c.revision.text,c.sourceConfigurationDigest.orderKey)))))

/-- `capabilities.sort()` and then `dedup()`. -/
def sortCapabilities (capabilities : List CapabilityId) : List CapabilityId :=
  (capabilities.mergeSort fun a b => decide (a.orderKey ≤ b.orderKey)).destutter (· ≠ ·)

/-- The set in its declared order. -/
def sideEffectsValue (effects : Finset SideEffectClass) : Value :=
  toValue (SideEffectClass.all.filter (· ∈ effects))

section
variable [FloatText] [Sha256]

def manifestDigest (principal : PrincipalId) (tenant : TenantId) (requestIdentity : String)
    (capabilities : List CapabilityId) (scope : CapabilityScope) (expiresAtUnixMs : Nat)
    (monetaryBudget tokenBudget retryBudget : Nat) (sideEffects : Finset SideEffectClass) :
    Sha256Digest := .ofJson (.object [
  ("capabilities",toValue capabilities),
  ("expiresAtUnixMs",toValue expiresAtUnixMs),
  ("monetaryBudget",toValue monetaryBudget),
  ("principal",toValue principal),
  ("requestIdentity",toValue requestIdentity),
  ("retryBudget",toValue retryBudget),
  ("scope",setValue scope.capabilities),
  ("sideEffects",sideEffectsValue sideEffects),
  ("tenant",toValue tenant),
  ("tokenBudget",toValue tokenBudget)])

namespace CapabilityLease

def issueWithSideEffects (id : LeaseId) (principal : PrincipalId) (tenant : TenantId)
    (requestIdentity : String) (capabilities : List CapabilityId) (scope : CapabilityScope)
    (expiresAtMonotonicMs monetaryBudget tokenBudget retryBudget : Nat)
    (sideEffects : Finset SideEffectClass) : CapabilityLease where
  id := id
  principal := principal
  tenant := tenant
  requestIdentity := requestIdentity
  capabilities := sortCapabilities capabilities
  scope := scope
  expiresAtMonotonicMs := expiresAtMonotonicMs
  monetaryBudget := monetaryBudget
  tokenBudget := tokenBudget
  retryBudget := retryBudget
  sideEffects := sideEffects
  manifestDigest := GaugeMesh.manifestDigest principal tenant requestIdentity
    (sortCapabilities capabilities) scope expiresAtMonotonicMs monetaryBudget tokenBudget
    retryBudget sideEffects

def authorize (lease : CapabilityLease) (principal : PrincipalId) (tenant : TenantId)
    (capability : CapabilityId) (nowUnixMs : Nat) : Except LeaseError Unit := do
  reject (lease.expiresAtMonotonicMs ≤ nowUnixMs) .expired
  reject (principal ≠ lease.principal) .principal
  reject (tenant ≠ lease.tenant) .tenant
  reject (GaugeMesh.manifestDigest lease.principal lease.tenant lease.requestIdentity
    lease.capabilities lease.scope lease.expiresAtMonotonicMs lease.monetaryBudget
    lease.tokenBudget lease.retryBudget lease.sideEffects ≠ lease.manifestDigest) .manifest
  match lease.capabilities.find? fun candidate => candidate.source = capability.source ∧
      candidate.kind = capability.kind ∧
      candidate.nativeIdentityDigest = capability.nativeIdentityDigest with
  | none => throw .capability
  | some stored =>
    if stored.schemaDigest ≠ capability.schemaDigest then throw .staleSchema
    else if stored ≠ capability then throw .capability
    else return

def authorizeInvocation (lease : CapabilityLease) (principal : PrincipalId) (tenant : TenantId)
    (capability : CapabilityId) (sideEffect : SideEffectClass) (nowUnixMs : Nat) :
    Except LeaseError Unit := do
  lease.authorize principal tenant capability nowUnixMs
  if sideEffect ∈ lease.sideEffects then return
  else throw .capability

/-- What a lease that authorizes an invocation says about it. -/
structure Licenses (lease : CapabilityLease) (principal : PrincipalId) (tenant : TenantId)
    (capability : CapabilityId) (sideEffect : SideEffectClass) (now : Nat) : Prop where
  principal : principal = lease.principal
  tenant : tenant = lease.tenant
  unexpired : now < lease.expiresAtMonotonicMs
  capability : capability ∈ lease.capabilities
  sideEffect : sideEffect ∈ lease.sideEffects

theorem authorizeInvocation_ok {lease : CapabilityLease} {principal : PrincipalId}
    {tenant : TenantId} {capability : CapabilityId} {sideEffect : SideEffectClass} {now : Nat}
    (authorized : lease.authorizeInvocation principal tenant capability sideEffect now = .ok ()) :
    Licenses lease principal tenant capability sideEffect now := by
  simp only [authorizeInvocation,authorize,Except.then_ok,reject_ok] at authorized
  obtain ⟨⟨unexpired,samePrincipal,sameTenant,-,listed⟩,allowed⟩ := authorized
  refine ⟨of_not_not samePrincipal,of_not_not sameTenant,by omega,?_,?_⟩
  · split at listed
    · cases listed
    · next stored found =>
      split at listed
      · cases listed
      · split at listed
        · cases listed
        · next same =>
          rw [← of_not_not same]
          exact List.mem_of_find?_eq_some found
  · by_contra missing
    rw [if_neg missing] at allowed
    cases allowed

end CapabilityLease
end
end GaugeMesh
