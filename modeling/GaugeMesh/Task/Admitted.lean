import GaugeMesh.Task.Transition

/-! Which updates are made. A transition checks the record it would make; what an update has to
bring for that record to be of the right shape is stated here, so that a run can be shown to
go on and not only what follows when it does. -/
namespace GaugeMesh
open Json

namespace TaskRouteRecord

variable [FloatText] [Sha256] {r : TaskRouteRecord} {update : TaskRouteUpdate}

/-- What an update has to bring for the record it makes to be of the right shape. -/
structure Admits (r : TaskRouteRecord) (update : TaskRouteUpdate)
    (upstream : Option UpstreamTaskId) : Prop where
  allowed : canTransition r.phase update.phase = true
  times : r.updatedAtUnixMs ≤ update.updatedAtUnixMs
  range : update.updatedAtUnixMs ≤ maxSqliteInteger ∧ r.transitionVersion + 1 ≤ maxSqliteInteger
  next : nextUpstreamTaskId r.upstreamTaskId update.upstreamTaskId = .ok upstream
  named : ∀ id, upstream = some id → UpstreamTaskId.new id.text = .ok id
  assigned : update.upstreamTaskId.isSome → update.phase = .routed ∨ update.phase = .cancelRequested
  unrouted : update.phase = .prepared ∨ update.phase = .dispatching → upstream = none
  routed : update.phase = .routed → upstream.isSome
  owner : update.phase = .dispatching ↔ update.dispatchOwnerId.isSome
  «instance» : ∀ id, update.dispatchOwnerId = some id →
    validateIdentifier id maxIdentifierBytes "dispatch owner ID" = .ok ()
  cached : update.phase = .terminal ↔ update.cachedTerminalState.isSome
  small : ∀ v, update.cachedTerminalState = some v →
    (canonicalJson v).byteLength ≤ maxCachedTerminalStateBytes

omit [FloatText] [Sha256] in
theorem ifSome_ok {value : Option α} {check : α → Except ε Unit} :
    ifSome value check = .ok () ↔ ∀ a, value = some a → check a = .ok () := by
  cases value <;> simp [ifSome]

theorem Admits.shape {upstream : Option UpstreamTaskId} (admits : r.Admits update upstream)
    (valid : r.Valid) : (r.moved update upstream .default).validateShape = .ok () := by
  have shape := (verifyIntegrity_ok.mp valid).1
  obtain ⟨created,-,ttl,expires,-⟩ := (validateShape_ok shape).numbers
  have updated := (validateShape_ok shape).times
  have times := admits.times
  obtain ⟨late,many⟩ := admits.range
  simp only [validateShape,Except.then_ok,okOr_bind_ok] at shape ⊢
  obtain ⟨version,id,principal,tenant,key,source,owner,session,-,binding,request,positive,
    expiry,sum,total,-⟩ := shape
  refine ⟨version,id,principal,tenant,key,source,owner,session,ifSome_ok.mpr ?_,binding,request,
    positive,expiry,sum,total,?_,?_,?_,?_,?_,?_,?_,?_,?_⟩
  · intro id bound
    exact (Except.then_ok.mp (admits.named id bound)).1
  · simp only [reject_ok,moved,List.any_cons,List.any_nil,Bool.or_false,Bool.or_eq_true,
      decide_eq_true_eq]
    omega
  · rw [reject_ok]
    simp only [moved]
    omega
  · rw [reject_ok]
    rintro ⟨phase,present⟩
    rw [moved,admits.unrouted phase] at present
    cases present
  · rw [reject_ok]
    rintro ⟨phase,absent⟩
    have none : upstream = none := Option.isNone_iff_eq_none.mp absent
    have present := admits.routed phase
    rw [none] at present
    cases present
  · rw [reject_ok,not_not]
    exact Bool.eq_iff_iff.mpr (decide_eq_true_iff.trans admits.owner)
  · exact ifSome_ok.mpr admits.instance
  · rw [reject_ok]
    rintro ⟨phase,present⟩
    exact phase (admits.cached.mpr present)
  · rw [reject_ok]
    rintro ⟨phase,absent⟩
    have none : update.cachedTerminalState = none := Option.isNone_iff_eq_none.mp absent
    have present := admits.cached.mp phase
    rw [none] at present
    cases present
  · refine ifSome_ok.mpr fun v cached => ?_
    rw [reject_ok,not_lt]
    exact admits.small v cached

/-- An update that the record admits is made. -/
theorem Admits.transition {upstream : Option UpstreamTaskId} (admits : r.Admits update upstream)
    (valid : r.Valid) : r.transition update = .ok (r.moved update upstream
      (r.moved update upstream .default).expectedIntegrityDigest) := by
  have version : (checkedAdd r.transitionVersion 1).filter (· ≤ maxSqliteInteger) =
      some (r.transitionVersion + 1) := by
    have small := admits.range.2
    have fits : checkedAdd r.transitionVersion 1 = some (r.transitionVersion + 1) := by
      refine checkedAdd_some.mpr ⟨rfl,?_⟩
      unfold maxSqliteInteger at small
      unfold maxU64
      omega
    rw [fits,Option.filter_some_pos (by simpa using small)]
  simp only [TaskRouteRecord.transition,Except.then_ok,reject_ok]
  refine ⟨valid,not_not.mpr admits.allowed,Nat.not_lt.mpr admits.times,?_,?_⟩
  · rintro ⟨-,assigned,other⟩
    exact other (admits.assigned assigned)
  · rw [admits.next,Except.ok_then,version]
    exact sealed_ok.mpr ⟨admits.shape valid,rfl⟩

omit [Sha256] in
/-- A prepared record can be claimed. -/
theorem admits_dispatching {owner : String} {now : Nat} (phase : r.phase = .prepared)
    (unbound : r.upstreamTaskId = none) (times : r.updatedAtUnixMs ≤ now)
    (range : now ≤ maxSqliteInteger) (version : r.transitionVersion + 1 ≤ maxSqliteInteger)
    (named : validateIdentifier owner maxIdentifierBytes "dispatch owner ID" = .ok ()) :
    r.Admits (.dispatching owner now) none where
  allowed := by rw [phase]; rfl
  times := times
  range := ⟨range,version⟩
  next := by rw [unbound]; rfl
  named := by simp
  assigned := by simp [TaskRouteUpdate.dispatching]
  unrouted := fun _ => rfl
  routed := by simp [TaskRouteUpdate.dispatching]
  owner := by simp [TaskRouteUpdate.dispatching]
  «instance» := by simpa [TaskRouteUpdate.dispatching] using named
  cached := by simp [TaskRouteUpdate.dispatching]
  small := by simp [TaskRouteUpdate.dispatching]

omit [Sha256] in
/-- A claimed record can be routed. -/
theorem admits_routed {id : UpstreamTaskId} {now : Nat} (phase : r.phase = .dispatching)
    (unbound : r.upstreamTaskId = none) (times : r.updatedAtUnixMs ≤ now)
    (range : now ≤ maxSqliteInteger) (version : r.transitionVersion + 1 ≤ maxSqliteInteger)
    (named : UpstreamTaskId.new id.text = .ok id) :
    r.Admits (.routed id now) (some id) where
  allowed := by rw [phase]; rfl
  times := times
  range := ⟨range,version⟩
  next := by rw [unbound]; rfl
  named := by simpa using named
  assigned := fun _ => .inl rfl
  unrouted := by simp [TaskRouteUpdate.routed]
  routed := fun _ => rfl
  owner := by simp [TaskRouteUpdate.routed]
  «instance» := by simp [TaskRouteUpdate.routed]
  cached := by simp [TaskRouteUpdate.routed]
  small := by simp [TaskRouteUpdate.routed]

omit [Sha256] in
/-- A routed record can be ended. -/
theorem admits_terminal {id : UpstreamTaskId} {now : Nat} {cached : Value}
    (phase : r.phase = .routed) (bound : r.upstreamTaskId = some id)
    (times : r.updatedAtUnixMs ≤ now) (range : now ≤ maxSqliteInteger)
    (version : r.transitionVersion + 1 ≤ maxSqliteInteger)
    (named : UpstreamTaskId.new id.text = .ok id)
    (small : (canonicalJson cached).byteLength ≤ maxCachedTerminalStateBytes) :
    r.Admits (.terminal now cached) (some id) where
  allowed := by rw [phase]; rfl
  times := times
  range := ⟨range,version⟩
  next := by rw [bound]; rfl
  named := by simpa using named
  assigned := by simp [TaskRouteUpdate.terminal]
  unrouted := by simp [TaskRouteUpdate.terminal]
  routed := by simp [TaskRouteUpdate.terminal]
  owner := by simp [TaskRouteUpdate.terminal]
  «instance» := by simp [TaskRouteUpdate.terminal]
  cached := by simp [TaskRouteUpdate.terminal]
  small := by simpa [TaskRouteUpdate.terminal] using small

omit [Sha256] in
/-- A record that nobody has claimed can be ended. -/
theorem admits_verdict {now : Nat} {cached : Value} (phase : r.phase = .prepared)
    (unbound : r.upstreamTaskId = none) (times : r.updatedAtUnixMs ≤ now)
    (range : now ≤ maxSqliteInteger) (version : r.transitionVersion + 1 ≤ maxSqliteInteger)
    (small : (canonicalJson cached).byteLength ≤ maxCachedTerminalStateBytes) :
    r.Admits (.terminal now cached) none where
  allowed := by rw [phase]; rfl
  times := times
  range := ⟨range,version⟩
  next := by rw [unbound]; rfl
  named := by simp
  assigned := by simp [TaskRouteUpdate.terminal]
  unrouted := fun _ => rfl
  routed := by simp [TaskRouteUpdate.terminal]
  owner := by simp [TaskRouteUpdate.terminal]
  «instance» := by simp [TaskRouteUpdate.terminal]
  cached := by simp [TaskRouteUpdate.terminal]
  small := by simpa [TaskRouteUpdate.terminal] using small

end TaskRouteRecord
end GaugeMesh
