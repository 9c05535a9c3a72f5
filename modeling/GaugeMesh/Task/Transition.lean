import GaugeMesh.Task.Record

/-! The shape every record has to have, the prepared record and the transition. What
later proofs need of them is stated once: a record is valid when it has the shape and
seals its own fields, and a transition changes the mutable fields of a valid record
into those of another valid record. -/
namespace GaugeMesh
open Json

/-- `option.ok_or(error)`. -/
def okOr (value : Option α) (error : ε) : Except ε α :=
  match value with
  | some a => .ok a
  | none => .error error

@[simp] theorem okOr_ok (value : Option α) (error : ε) (a : α) :
    okOr value error = .ok a ↔ value = some a := by
  cases value <;> simp [okOr]

/-- `if let Some(x) = option { check(x)? }`. -/
def ifSome (value : Option α) (check : α → Except ε Unit) : Except ε Unit :=
  match value with
  | some a => check a
  | none => .ok ()

@[simp] theorem Except.ok_then (a : α) (f : α → Except ε β) :
    ((.ok a : Except ε α) >>= f) = f a := rfl
@[simp] theorem Except.error_then (error : ε) (f : α → Except ε β) :
    ((.error error : Except ε α) >>= f) = .error error := rfl
@[simp] theorem Except.pure_ok (a : α) : (pure a : Except ε α) = .ok a := rfl

theorem Except.then_ok {x : Except ε Unit} {f : Unit → Except ε β} :
    (x >>= f) = .ok b ↔ x = .ok () ∧ f () = .ok b := by
  rw [Except.bind_ok]
  exact ⟨fun ⟨(),done,rest⟩ => ⟨done,rest⟩,fun ⟨done,rest⟩ => ⟨(),done,rest⟩⟩

theorem okOr_bind_ok {value : Option α} {error : ε} {f : α → Except ε β} :
    (okOr value error >>= f) = .ok b ↔ ∃ a, value = some a ∧ f a = .ok b := by
  simp only [Except.bind_ok,okOr_ok]

theorem checkedAdd_some {a b c : Nat} : checkedAdd a b = some c ↔ a + b = c ∧ c ≤ maxU64 := by
  unfold checkedAdd
  constructor
  · intro sum
    split at sum
    · next fits => cases sum; exact ⟨rfl,fits⟩
    · cases sum
  · rintro ⟨rfl,fits⟩
    rw [if_pos fits]

theorem TaskRouteIdempotencyKey.new_ok {value : String} {key : TaskRouteIdempotencyKey}
    (made : TaskRouteIdempotencyKey.new value = .ok key) : key = ⟨value⟩ := by
  obtain ⟨_,_,rest⟩ := Except.bind_ok.mp made
  cases rest; rfl

namespace TaskRouteRecord

variable [FloatText] [Sha256]

def expectedIntegrityDigest (r : TaskRouteRecord) : Sha256Digest :=
  .ofJson (.object r.sealedFields)

def validateShape (r : TaskRouteRecord) : Except TaskRouteError Unit := do
  reject (r.schemaVersion ≠ taskRouteSchemaVersion) .integrityMismatch
  validateIdentifier r.publicTaskId.text maxIdentifierBytes "public task ID"
  validateIdentifier r.caller.principal.text maxIdentifierBytes "principal ID"
  validateIdentifier r.caller.tenant.text maxIdentifierBytes "tenant ID"
  ifSome r.idempotencyKey fun key =>
    validateIdentifier key.text maxIdentifierBytes "idempotency key"
  validateIdentifier r.capabilitySource.text maxIdentifierBytes "capability source"
  reject (r.capability.source ≠ r.capabilitySource) .capabilitySourceMismatch
  validateIdentifier r.upstreamSessionId maxIdentifierBytes "upstream session ID"
  ifSome r.upstreamTaskId fun upstreamTaskId =>
    validateIdentifier upstreamTaskId.text maxUpstreamTaskIdBytes "upstream task ID"
  let bindingBytes := (canonicalJson r.submissionBinding).byteLength
  reject (bindingBytes > maxSubmissionBindingBytes)
    (.submissionBindingTooLarge bindingBytes maxSubmissionBindingBytes)
  reject (r.requestDigest ≠ .ofJson r.submissionBinding) .requestDigestMismatch
  reject (r.ttlMs = 0) .invalidTtl
  let expectedExpiry ← okOr (checkedAdd r.createdAtUnixMs r.ttlMs) .numericRange
  reject (expectedExpiry ≠ r.expiresAtUnixMs) .invalidTtl
  reject ([r.createdAtUnixMs,r.updatedAtUnixMs,r.ttlMs,r.expiresAtUnixMs,
    r.transitionVersion].any (· > maxSqliteInteger)) .numericRange
  reject (r.updatedAtUnixMs < r.createdAtUnixMs) .invalidTimestamp
  reject ((r.phase = .prepared ∨ r.phase = .dispatching) ∧ r.upstreamTaskId.isSome)
    .preparedHasUpstreamTask
  reject (r.phase = .routed ∧ r.upstreamTaskId.isNone) .routedWithoutUpstreamTask
  reject (decide (r.phase = .dispatching) ≠ r.dispatchOwnerId.isSome)
    (.invalidIdentifier "dispatch owner ID")
  ifSome r.dispatchOwnerId fun dispatchOwnerId =>
    validateIdentifier dispatchOwnerId maxIdentifierBytes "dispatch owner ID"
  reject (r.phase ≠ .terminal ∧ r.cachedTerminalState.isSome) .terminalStateOutsideTerminalPhase
  reject (r.phase = .terminal ∧ r.cachedTerminalState.isNone) .terminalStateMissing
  ifSome r.cachedTerminalState fun value =>
    let bytes := (canonicalJson value).byteLength
    reject (bytes > maxCachedTerminalStateBytes)
      (.terminalStateTooLarge bytes maxCachedTerminalStateBytes)

/-- What the later proofs use of a record of the right shape. -/
structure Shaped (r : TaskRouteRecord) : Prop where
  version : r.schemaVersion = taskRouteSchemaVersion
  ttl : 0 < r.ttlMs
  source : r.capability.source = r.capabilitySource
  request : r.requestDigest = .ofJson r.submissionBinding
  expiry : r.createdAtUnixMs + r.ttlMs = r.expiresAtUnixMs
  numbers : r.createdAtUnixMs ≤ maxSqliteInteger ∧ r.updatedAtUnixMs ≤ maxSqliteInteger ∧
    r.ttlMs ≤ maxSqliteInteger ∧ r.expiresAtUnixMs ≤ maxSqliteInteger ∧
    r.transitionVersion ≤ maxSqliteInteger
  times : r.createdAtUnixMs ≤ r.updatedAtUnixMs
  unrouted : r.phase = .prepared ∨ r.phase = .dispatching → r.upstreamTaskId = none
  routed : r.phase = .routed → r.upstreamTaskId ≠ none
  owner : r.phase = .dispatching ↔ r.dispatchOwnerId.isSome
  cached : r.phase = .terminal ↔ r.cachedTerminalState.isSome

def verifyIntegrity (r : TaskRouteRecord) : Except TaskRouteError Unit := do
  r.validateShape
  reject (r.integrityDigest ≠ r.expectedIntegrityDigest) .integrityMismatch

def verifyPreparedForBegin (r : TaskRouteRecord) : Except TaskRouteError Unit := do
  r.verifyIntegrity
  reject (r.phase ≠ .prepared ∨ r.transitionVersion ≠ 0 ∨ r.upstreamTaskId.isSome ∨
    r.cachedTerminalState.isSome ∨ r.updatedAtUnixMs ≠ r.createdAtUnixMs) .notPreparedForBegin

def isExpired (r : TaskRouteRecord) (nowUnixMs : Nat) : Bool := decide (r.expiresAtUnixMs ≤ nowUnixMs)

/-- The integrity digest is set last, over the other fields. -/
def sealed (r : TaskRouteRecord) : Except TaskRouteError TaskRouteRecord := do
  r.validateShape
  return { r with integrityDigest := r.expectedIntegrityDigest }

def prepareWithId (publicTaskId : PublicTaskId) (caller : TaskRouteCaller)
    (idempotencyKey : Option TaskRouteIdempotencyKey) (requestDigest : Sha256Digest)
    (submissionBinding : Value) (capability : CapabilityId) (upstreamSessionId : String)
    (createdAtUnixMs ttlMs : Nat) : Except TaskRouteError TaskRouteRecord := do
  let expiresAtUnixMs ← okOr (checkedAdd createdAtUnixMs ttlMs) .numericRange
  sealed {
    schemaVersion := taskRouteSchemaVersion
    publicTaskId, caller, idempotencyKey, requestDigest, submissionBinding, capability
    capabilitySource := capability.source
    upstreamSessionId
    upstreamTaskId := none
    dispatchOwnerId := none
    phase := .prepared
    createdAtUnixMs
    updatedAtUnixMs := createdAtUnixMs
    ttlMs, expiresAtUnixMs
    transitionVersion := 0
    cachedTerminalState := none
    integrityDigest := .default }

def nextUpstreamTaskId :
    Option UpstreamTaskId → Option UpstreamTaskId → Except TaskRouteError (Option UpstreamTaskId)
  | some current, some next => if current ≠ next then .error .upstreamTaskChanged else .ok (some current)
  | some current, none => .ok (some current)
  | none, next => .ok next

def transition (r : TaskRouteRecord) (update : TaskRouteUpdate) :
    Except TaskRouteError TaskRouteRecord := do
  r.verifyIntegrity
  reject (¬canTransition r.phase update.phase) (.invalidTransition r.phase update.phase)
  reject (update.updatedAtUnixMs < r.updatedAtUnixMs) .invalidTimestamp
  reject (r.upstreamTaskId.isNone ∧ update.upstreamTaskId.isSome ∧
    ¬(update.phase = .routed ∨ update.phase = .cancelRequested))
    .upstreamTaskAssignedOutsideRoutedTransition
  let upstreamTaskId ← nextUpstreamTaskId r.upstreamTaskId update.upstreamTaskId
  let transitionVersion ← okOr
    ((checkedAdd r.transitionVersion 1).filter (· ≤ maxSqliteInteger)) .numericRange
  sealed { r with
    upstreamTaskId
    dispatchOwnerId := update.dispatchOwnerId
    phase := update.phase
    updatedAtUnixMs := update.updatedAtUnixMs
    transitionVersion
    cachedTerminalState := update.cachedTerminalState
    integrityDigest := .default }

/-- A record whose integrity has been verified. -/
def Valid (r : TaskRouteRecord) : Prop := r.verifyIntegrity = .ok ()

instance (r : TaskRouteRecord) : Decidable r.Valid := inferInstanceAs (Decidable (_ = _))

variable {r s : TaskRouteRecord} {update : TaskRouteUpdate}

theorem verifyIntegrity_ok : r.verifyIntegrity = .ok () ↔
    r.validateShape = .ok () ∧ r.integrityDigest = r.expectedIntegrityDigest := by
  simp [verifyIntegrity,Except.then_ok]

theorem validateShape_ok (checked : r.validateShape = .ok ()) : Shaped r := by
  simp only [validateShape,Except.then_ok,okOr_bind_ok,reject_ok,checkedAdd_some] at checked
  obtain ⟨version,-,-,-,-,-,source,-,-,-,request,ttl,expiry,⟨sum,-⟩,total,numbers,times,unrouted,routed,owner,
    -,outside,missing,-⟩ := checked
  constructor
  · exact of_not_not version
  · omega
  · exact of_not_not source
  · exact of_not_not request
  · exact sum.trans (of_not_not total)
  · simp only [List.any_cons,List.any_nil,Bool.or_false,Bool.or_eq_true,decide_eq_true_eq] at numbers
    omega
  · omega
  · intro phase
    by_contra routed
    exact unrouted ⟨phase,Option.isSome_iff_ne_none.mpr routed⟩
  · intro phase absent
    exact routed ⟨phase,by rw [absent]; rfl⟩
  · rw [← of_not_not owner,decide_eq_true_iff]
  · constructor
    · intro phase
      by_contra absent
      exact missing ⟨phase,by simpa using absent⟩
    · intro present
      by_contra phase
      exact outside ⟨phase,present⟩

theorem sealed_ok : r.sealed = .ok s ↔ r.validateShape = .ok () ∧
    s = { r with integrityDigest := r.expectedIntegrityDigest } := by
  simp only [sealed,Except.then_ok,pure,Except.pure,Except.ok.injEq,eq_comm (a := s)]

/-- The expected digest does not look at the digest itself. -/
theorem expectedIntegrityDigest_with (r : TaskRouteRecord) (digest : Sha256Digest) :
    { r with integrityDigest := digest }.expectedIntegrityDigest = r.expectedIntegrityDigest := by
  simp only [expectedIntegrityDigest,sealedFields]

theorem sealed_valid (made : r.sealed = .ok s) : s.Valid := by
  obtain ⟨shape,rfl⟩ := sealed_ok.mp made
  exact verifyIntegrity_ok.mpr ⟨shape,(expectedIntegrityDigest_with r _).symm⟩

theorem Valid.shaped (valid : r.Valid) : Shaped r :=
  validateShape_ok (verifyIntegrity_ok.mp valid).1

/-- The record `prepare` fills in, with the digest it seals it with. -/
def prepared (id : PublicTaskId) (caller : TaskRouteCaller)
    (key : Option TaskRouteIdempotencyKey) (request : Sha256Digest) (binding : Value)
    (capability : CapabilityId) (session : String) (created ttl : Nat) (digest : Sha256Digest) :
    TaskRouteRecord :=
  ⟨taskRouteSchemaVersion,id,caller,key,request,binding,capability,capability.source,session,
    none,none,.prepared,created,created,ttl,created + ttl,0,none,digest⟩

theorem prepareWithId_ok {id : PublicTaskId} {caller : TaskRouteCaller} {capability : CapabilityId}
    {session : String} {created ttl : Nat}
    (made : prepareWithId id caller key request binding capability session created ttl = .ok r) :
    r.verifyPreparedForBegin = .ok () ∧
      ∃ digest, r = prepared id caller key request binding capability session created ttl digest := by
  obtain ⟨expiry,sum,rest⟩ := okOr_bind_ok.mp made
  obtain ⟨rfl,-⟩ := checkedAdd_some.mp sum
  have valid := sealed_valid rest
  obtain ⟨-,rfl⟩ := sealed_ok.mp rest
  refine ⟨?_,_,rfl⟩
  rw [verifyPreparedForBegin,Except.then_ok]
  exact ⟨valid,by simp [reject]⟩

/-- What a record accepted by `begin` looks like. -/
theorem verifyPreparedForBegin_ok : r.verifyPreparedForBegin = .ok () ↔
    r.Valid ∧ r.phase = .prepared ∧ r.transitionVersion = 0 ∧ r.upstreamTaskId = none ∧
      r.cachedTerminalState = none ∧ r.updatedAtUnixMs = r.createdAtUnixMs := by
  simp [verifyPreparedForBegin,Except.then_ok,Valid,not_or]

/-- The fields a transition may change, on a record that keeps all others. -/
def moved (r : TaskRouteRecord) (update : TaskRouteUpdate)
    (upstreamTaskId : Option UpstreamTaskId) (integrityDigest : Sha256Digest) : TaskRouteRecord :=
  { r with
    upstreamTaskId
    dispatchOwnerId := update.dispatchOwnerId
    phase := update.phase
    updatedAtUnixMs := update.updatedAtUnixMs
    transitionVersion := r.transitionVersion + 1
    cachedTerminalState := update.cachedTerminalState
    integrityDigest }

omit [FloatText] [Sha256] in
theorem nextUpstreamTaskId_ok {current next chosen : Option UpstreamTaskId}
    (made : nextUpstreamTaskId current next = .ok chosen) :
    (∀ id, current = some id → chosen = some id) ∧ (current = none → chosen = next) := by
  unfold nextUpstreamTaskId at made
  split at made
  · split at made
    · cases made
    · cases made; simp
  · cases made; simp
  · cases made; simp

structure Transitioned (r : TaskRouteRecord) (update : TaskRouteUpdate) (s : TaskRouteRecord) :
    Prop where
  before : r.Valid
  after : s.Valid
  allowed : canTransition r.phase update.phase = true
  times : r.updatedAtUnixMs ≤ update.updatedAtUnixMs
  moved : ∃ upstream digest, s = r.moved update upstream digest
  upstream : ∀ id, r.upstreamTaskId = some id → s.upstreamTaskId = some id
  assigned : r.upstreamTaskId = none → s.upstreamTaskId = update.upstreamTaskId

theorem transition_ok (made : r.transition update = .ok s) : Transitioned r update s := by
  simp only [transition,Except.then_ok,reject_ok] at made
  obtain ⟨before,allowed,times,-,made⟩ := made
  obtain ⟨upstream,chosen,made⟩ := Except.bind_ok.mp made
  obtain ⟨version,next,made⟩ := okOr_bind_ok.mp made
  obtain ⟨next,-⟩ := Option.filter_eq_some_iff.mp next
  obtain ⟨rfl,-⟩ := checkedAdd_some.mp next
  obtain ⟨kept,assigned⟩ := nextUpstreamTaskId_ok chosen
  have after := sealed_valid made
  obtain ⟨-,rfl⟩ := sealed_ok.mp made
  exact ⟨before,after,of_not_not allowed,by omega,⟨_,_,rfl⟩,kept,assigned⟩

/-- An update without an upstream task succeeds when it is allowed, not older than the
record, and gives a record of the right shape. -/
theorem transition_made (update : TaskRouteUpdate) (valid : r.Valid)
    (allowed : canTransition r.phase update.phase = true)
    (times : r.updatedAtUnixMs ≤ update.updatedAtUnixMs) (plain : update.upstreamTaskId = none)
    (shape : (r.moved update r.upstreamTaskId .default).validateShape = .ok ()) :
    r.transition update = .ok (r.moved update r.upstreamTaskId
      (r.moved update r.upstreamTaskId .default).expectedIntegrityDigest) := by
  have upstream : nextUpstreamTaskId r.upstreamTaskId none = .ok r.upstreamTaskId := by
    cases r.upstreamTaskId <;> rfl
  have small : r.transitionVersion + 1 ≤ maxSqliteInteger :=
    (validateShape_ok shape).numbers.2.2.2.2
  have version : (checkedAdd r.transitionVersion 1).filter (· ≤ maxSqliteInteger) =
      some (r.transitionVersion + 1) := by
    have fits : checkedAdd r.transitionVersion 1 = some (r.transitionVersion + 1) := by
      refine checkedAdd_some.mpr ⟨rfl,?_⟩
      unfold maxSqliteInteger at small
      unfold maxU64
      omega
    rw [fits,Option.filter_some_pos (by simpa using small)]
  simp only [transition,Except.then_ok,reject_ok]
  refine ⟨valid,by simpa using allowed,by omega,by simp [plain],?_⟩
  rw [plain,upstream,Except.ok_then,version]
  exact sealed_ok.mpr ⟨shape,rfl⟩

end TaskRouteRecord
end GaugeMesh
