import GaugeMesh.Lease.Lease
import GaugeMesh.Sorted
import GaugeMesh.Canonical
import GaugeMesh.Json.Reference

/-! Which capabilities a lease authorizes. The list of an issued lease is sorted, and a
capability is looked for by its source, its kind and its native identity only. -/
namespace GaugeMesh
open Json

theorem Sha256Digest.orderKey_injective : Function.Injective Sha256Digest.orderKey := by
  intro a b same
  obtain ⟨bytes⟩ := a
  obtain ⟨bytes'⟩ := b
  have equal := (List.map_injective_iff.mpr fun x y h => UInt8.toNat_inj.mp h) same
  exact congrArg Sha256Digest.mk equal

theorem CapabilityId.orderKey_injective : Function.Injective CapabilityId.orderKey := by
  intro a b same
  have kinds : ∀ k l : CapabilityKind, CapabilityKind.all.idxOf k = CapabilityKind.all.idxOf l →
      k = l := by
    intro k l
    cases k <;> cases l <;> decide
  simp only [CapabilityId.orderKey,toLex_inj,Prod.mk.injEq] at same
  obtain ⟨source,kind,native,schema,revision,configuration⟩ := same
  cases a; cases b
  simp only at source kind native schema revision configuration
  rw [SourceId.ext source,kinds _ _ kind,Sha256Digest.orderKey_injective native,
    Sha256Digest.orderKey_injective schema,CapabilityRevision.ext revision,
    Sha256Digest.orderKey_injective configuration]

/-- What the search of a lease compares. -/
def CapabilityId.SameNative (a b : CapabilityId) : Prop :=
  a.source = b.source ∧ a.kind = b.kind ∧ a.nativeIdentityDigest = b.nativeIdentityDigest

instance (a b : CapabilityId) : Decidable (a.SameNative b) := by
  unfold CapabilityId.SameNative
  infer_instance

section

theorem items_injective [Serde α] (injective : ∀ a b : α,
    canonicalJson (toValue a) = canonicalJson (toValue b) → a = b) (left right : List α)
    (same : canonicalItems (left.map toValue) = canonicalItems (right.map toValue)) :
    left = right := by
  induction left generalizing right with
  | nil => cases right with
    | nil => rfl
    | cons b right => simp [canonicalItems] at same
  | cons a left ih => cases right with
    | nil => simp [canonicalItems] at same
    | cons b right =>
      simp only [List.map_cons,canonicalItems,List.cons.injEq] at same
      rw [injective a b same.1,ih right same.2]

theorem list_injective [Serde α] (injective : ∀ a b : α,
    canonicalJson (toValue a) = canonicalJson (toValue b) → a = b) {left right : List α}
    (same : canonicalJson (toValue left) = canonicalJson (toValue right)) : left = right := by
  simp only [toValue,canonicalJson,Value.array.injEq] at same
  exact items_injective injective left right same

theorem CapabilityId.canonical_injective (a b : CapabilityId)
    (same : canonicalJson (toValue a) = canonicalJson (toValue b)) : a = b := by
  have fields := canonical_fields same (by simp) (by simp)
  have source := fields "source"
  have kind := fields "kind"
  have native := fields "native_identity_digest"
  have schema := fields "schema_digest"
  have revision := fields "revision"
  have configuration := fields "source_configuration_digest"
  simp [toValue] at source kind native schema revision configuration
  have kinds : a.kind = b.kind := by
    revert kind
    cases a.kind <;> cases b.kind <;> decide
  cases a; cases b
  simp only at source kinds native schema revision configuration
  rw [SourceId.ext source,kinds,Sha256Digest.toString_injective _ _ native,
    Sha256Digest.toString_injective _ _ schema,CapabilityRevision.ext revision,
    Sha256Digest.toString_injective _ _ configuration]

theorem setValue_injective {left right : Finset String}
    (same : canonicalJson (setValue left) = canonicalJson (setValue right)) : left = right := by
  have sorted := list_injective (fun a b same => by simpa [toValue] using same) same
  rw [← left.sort_toFinset (· ≤ ·),sorted,right.sort_toFinset]

theorem sideEffectsValue_injective {left right : Finset SideEffectClass}
    (same : canonicalJson (sideEffectsValue left) = canonicalJson (sideEffectsValue right)) :
    left = right := by
  have names : ∀ a b : SideEffectClass, canonicalJson (toValue a) = canonicalJson (toValue b) →
      a = b := by
    intro a b
    simp only [toValue,canonicalJson_string,Value.string.injEq]
    cases a <;> cases b <;> decide
  have kept := list_injective names same
  have every : ∀ e : SideEffectClass, e ∈ SideEffectClass.all := by
    intro e
    cases e <;> decide
  ext e
  have listed := congrArg (e ∈ ·) kept
  simpa [every e] using listed

variable [FloatText] [Sha256]

namespace CapabilityLease

/-- The fields the manifest digest is taken over. -/
def manifestFields (lease : CapabilityLease) :=
  (lease.principal,lease.tenant,lease.requestIdentity,lease.capabilities,lease.scope,
    lease.expiresAtMonotonicMs,lease.monetaryBudget,lease.tokenBudget,lease.retryBudget,
    lease.sideEffects)

/-- The digest `authorize` compares with the stored one. -/
def expectedManifest (lease : CapabilityLease) : Sha256Digest :=
  GaugeMesh.manifestDigest lease.principal lease.tenant lease.requestIdentity lease.capabilities
    lease.scope lease.expiresAtMonotonicMs lease.monetaryBudget lease.tokenBudget lease.retryBudget
    lease.sideEffects

theorem expectedManifest_injective (hash : Function.Injective Sha256.digest)
    {a b : CapabilityLease} (same : a.expectedManifest = b.expectedManifest) :
    a.manifestFields = b.manifestFields := by
  have fields := canonical_fields (Sha256Digest.ofJson_injective hash _ _ same)
    (by simp) (by simp)
  have capabilities := fields "capabilities"
  have expires := fields "expiresAtUnixMs"
  have money := fields "monetaryBudget"
  have principal := fields "principal"
  have request := fields "requestIdentity"
  have retries := fields "retryBudget"
  have scope := fields "scope"
  have effects := fields "sideEffects"
  have tenant := fields "tenant"
  have tokens := fields "tokenBudget"
  simp only [Value.find_cons,↓reduceIte,String.reduceEq,Option.map_some,Option.some.injEq]
    at capabilities expires money principal request retries scope effects tenant tokens
  have scopes : a.scope = b.scope := by
    have inner := setValue_injective scope
    cases hs : a.scope; cases ht : b.scope
    simpa [hs,ht] using inner
  rw [manifestFields,manifestFields,list_injective CapabilityId.canonical_injective capabilities,
    scopes,sideEffectsValue_injective effects]
  simp [toValue] at expires money principal request retries tenant tokens
  rw [PrincipalId.ext principal,TenantId.ext tenant,request,expires,money,tokens,retries]

variable {principal : PrincipalId} {tenant : TenantId} {capability : CapabilityId} {now : Nat}

theorem authorize_ok {lease : CapabilityLease}
    (sorted : lease.capabilities.Pairwise fun a b => a.orderKey ≤ b.orderKey) :
    lease.authorize principal tenant capability now = .ok () ↔
      now < lease.expiresAtMonotonicMs ∧ principal = lease.principal ∧ tenant = lease.tenant ∧
        lease.expectedManifest = lease.manifestDigest ∧ capability ∈ lease.capabilities ∧
        ∀ other ∈ lease.capabilities, other.SameNative capability →
          capability.orderKey ≤ other.orderKey := by
  have first : lease.capabilities.find? (fun candidate => candidate.source = capability.source ∧
        candidate.kind = capability.kind ∧
        candidate.nativeIdentityDigest = capability.nativeIdentityDigest) = some capability ↔
      capability ∈ lease.capabilities ∧ ∀ other ∈ lease.capabilities, other.SameNative capability →
        capability.orderKey ≤ other.orderKey := by
    rw [Sorted.find?_eq_some CapabilityId.orderKey_injective sorted]
    simp [CapabilityId.SameNative]
  simp only [authorize,Except.then_ok,reject_ok,not_not,not_le,expectedManifest]
  rw [← first]
  generalize lease.capabilities.find? _ = found
  cases found with
  | none => simp [throw,throwThe,MonadExceptOf.throw]
  | some stored =>
    by_cases same : stored = capability
    · simp [same]
    · by_cases schema : stored.schemaDigest = capability.schemaDigest
      · simp [same,schema,throw,throwThe,MonadExceptOf.throw]
      · simp [same,schema,throw,throwThe,MonadExceptOf.throw]

/-- A lease with the digest of another one and other fields authorizes nothing. -/
theorem tampered_refused (hash : Function.Injective Sha256.digest) {lease changed : CapabilityLease}
    (manifest : lease.manifestDigest = lease.expectedManifest)
    (digest : changed.manifestDigest = lease.manifestDigest)
    (fields : changed.manifestFields ≠ lease.manifestFields) :
    changed.authorize principal tenant capability now ≠ .ok () := by
  intro authorized
  simp only [authorize,Except.then_ok,reject_ok,not_not] at authorized
  obtain ⟨-,-,-,own,-⟩ := authorized
  exact fields (expectedManifest_injective hash (own.trans (digest.trans manifest)))

theorem issued_manifest (id : LeaseId) (principal : PrincipalId) (tenant : TenantId)
    (request : String) (capabilities : List CapabilityId) (scope : CapabilityScope)
    (expires money tokens retries : Nat) (effects : Finset SideEffectClass) :
    (issueWithSideEffects id principal tenant request capabilities scope expires money tokens retries
      effects).manifestDigest = (issueWithSideEffects id principal tenant request capabilities scope
        expires money tokens retries effects).expectedManifest := by
  simp only [issueWithSideEffects,expectedManifest]

theorem issued_authorize (id : LeaseId) (principal : PrincipalId) (tenant : TenantId)
    (request : String) (capabilities : List CapabilityId) (scope : CapabilityScope)
    (expires money tokens retries : Nat) (effects : Finset SideEffectClass)
    (caller : PrincipalId) (callerTenant : TenantId) (capability : CapabilityId) (now : Nat) :
    (issueWithSideEffects id principal tenant request capabilities scope expires money tokens retries
        effects).authorize caller callerTenant capability now = .ok () ↔
      now < expires ∧ caller = principal ∧ callerTenant = tenant ∧ capability ∈ capabilities ∧
        ∀ other ∈ capabilities, other.SameNative capability →
          capability.orderKey ≤ other.orderKey := by
  have members (c : CapabilityId) : c ∈ sortCapabilities capabilities ↔ c ∈ capabilities :=
    Sorted.mem_distinct CapabilityId.orderKey
  rw [authorize_ok (Sorted.pairwise_distinct CapabilityId.orderKey capabilities),
    issued_manifest id principal tenant request capabilities scope expires money tokens retries effects]
  simp only [issueWithSideEffects,members,true_and]

/-- An issued lease authorizes exactly its members for its caller until it expires, unless
another member of the same native identity comes before the one asked for; and no lease that
has its digest and other fields authorizes anything. -/
theorem authorize_exact_iff (hash : Function.Injective Sha256.digest) (id : LeaseId)
    (principal : PrincipalId) (tenant : TenantId) (request : String)
    (capabilities : List CapabilityId) (scope : CapabilityScope)
    (expires money tokens retries : Nat) (effects : Finset SideEffectClass)
    (caller : PrincipalId) (callerTenant : TenantId) (capability : CapabilityId) (now : Nat) :
    (((issueWithSideEffects id principal tenant request capabilities scope expires money tokens
          retries effects).authorize caller callerTenant capability now = .ok () ↔
        now < expires ∧ caller = principal ∧ callerTenant = tenant ∧ capability ∈ capabilities) ↔
      (now < expires → caller = principal → callerTenant = tenant → capability ∈ capabilities →
        ∀ other ∈ capabilities, other.SameNative capability →
          capability.orderKey ≤ other.orderKey)) ∧
    ∀ changed : CapabilityLease,
      changed.manifestDigest = (issueWithSideEffects id principal tenant request capabilities scope
        expires money tokens retries effects).manifestDigest →
      changed.manifestFields ≠ (issueWithSideEffects id principal tenant request capabilities scope
        expires money tokens retries effects).manifestFields →
      ∀ who whose what time, changed.authorize who whose what time ≠ .ok () := by
  constructor
  · rw [issued_authorize]
    tauto
  · intro changed digest fields who whose what time
    exact tampered_refused hash (issued_manifest ..) digest fields

end CapabilityLease
end

section Example
open Reference

/-- One native identity under one of two schemas. -/
def searchCapability (schema : UInt8) : CapabilityId :=
  ⟨⟨"docs"⟩,.tool,⟨[0]⟩,⟨[schema]⟩,⟨"2026-07-28"⟩,⟨[0]⟩⟩

noncomputable def searchLease : CapabilityLease :=
  .issueWithSideEffects ⟨"lease"⟩ ⟨"alice"⟩ ⟨"team"⟩ "request" [searchCapability 1,searchCapability 2]
    ⟨∅⟩ 1000 0 0 0 {.readOnly}

theorem searchCapability_order :
    (searchCapability 1).orderKey < (searchCapability 2).orderKey := by
  have schemas : ([1] : List Nat) < [2] := by decide
  simp [searchCapability,CapabilityId.orderKey,Sha256Digest.orderKey,Prod.Lex.toLex_lt_toLex,
    schemas]

/-- The second capability was leased, and is refused before the lease expires. -/
theorem leased_but_refused :
    searchCapability 2 ∈ [searchCapability 1,searchCapability 2] ∧
      searchLease.authorize ⟨"alice"⟩ ⟨"team"⟩ (searchCapability 2) 0 ≠ .ok () := by
  constructor
  · simp
  · rw [searchLease,Ne,CapabilityLease.issued_authorize]
    rintro ⟨-,-,-,-,least⟩
    have first := least (searchCapability 1) (by simp) ⟨rfl,rfl,rfl⟩
    exact absurd searchCapability_order (not_lt.mpr first)

theorem authorize_exact_search :
    ((searchLease.authorize ⟨"alice"⟩ ⟨"team"⟩ (searchCapability 1) 0 = .ok () ↔
        0 < 1000 ∧ (⟨"alice"⟩ : PrincipalId) = ⟨"alice"⟩ ∧ (⟨"team"⟩ : TenantId) = ⟨"team"⟩ ∧
          searchCapability 1 ∈ [searchCapability 1,searchCapability 2]) ↔
      (0 < 1000 → (⟨"alice"⟩ : PrincipalId) = ⟨"alice"⟩ → (⟨"team"⟩ : TenantId) = ⟨"team"⟩ →
        searchCapability 1 ∈ [searchCapability 1,searchCapability 2] →
        ∀ other ∈ [searchCapability 1,searchCapability 2], other.SameNative (searchCapability 1) →
          (searchCapability 1).orderKey ≤ other.orderKey)) ∧
    ∀ changed : CapabilityLease, changed.manifestDigest = searchLease.manifestDigest →
      changed.manifestFields ≠ searchLease.manifestFields →
      ∀ who whose what time, changed.authorize who whose what time ≠ .ok () :=
  CapabilityLease.authorize_exact_iff (fun _ _ same => same) _ _ _ _ _ _ _ _ _ _ _ _ _ _ _

end Example
end GaugeMesh
