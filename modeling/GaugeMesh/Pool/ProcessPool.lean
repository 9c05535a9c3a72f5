import GaugeMesh.Digest
import GaugeMesh.Interleaving.Crew
import GaugeMesh.Keyed

/-! `process_pool.rs`: upstream processes shared by key. A client runs one operation after the
other; every lock it awaits and every access to what clients share is a step of its own. The
lock of the entries and the semaphore of the slots serve those that wait in their order. -/
namespace GaugeMesh.Pool
open Interleaving

inductive ShareabilityClass where
  | shareableStateless
  | shareableWithSerialization
  | principalIsolated
  | tenantIsolated
  | nonShareable
  deriving DecidableEq

instance : Inhabited ShareabilityClass := ⟨.nonShareable⟩

structure ProcessKey where
  serverConfigurationDigest : Sha256Digest
  executableIdentity : String
  protocolRevision : String
  tenantSecurityPartition : String
  upstreamCredentialIdentity : Sha256Digest
  environmentDigest : Sha256Digest
  shareabilityClass : ShareabilityClass
  principalPartition : Option String
  instanceNonce : Option String
  deriving DecidableEq

inductive PoolError where
  | keyIncomplete
  | principalPartitionRequired
  | instanceNonceRequired
  | partitionContradiction
  | capacityTimeout
  | processNotFound
  | restartBudgetExhausted
  deriving DecidableEq

def PoolError.code : PoolError → String
  | keyIncomplete => "GM_POOL_KEY_INCOMPLETE"
  | principalPartitionRequired => "GM_POOL_PRINCIPAL_PARTITION_REQUIRED"
  | instanceNonceRequired => "GM_POOL_INSTANCE_NONCE_REQUIRED"
  | partitionContradiction => "GM_POOL_PARTITION_CONTRADICTION"
  | capacityTimeout => "GM_POOL_CAPACITY_TIMEOUT"
  | processNotFound => "GM_POOL_PROCESS_NOT_FOUND"
  | restartBudgetExhausted => "GM_POOL_RESTART_BUDGET_EXHAUSTED"

namespace ProcessKey

def validate (key : ProcessKey) : Except PoolError Unit :=
  if key.executableIdentity.isEmpty ∨ key.protocolRevision.isEmpty ∨
      key.tenantSecurityPartition.isEmpty then .error .keyIncomplete
  else match key.shareabilityClass with
  | .principalIsolated =>
    if key.principalPartition.isNone ∨ key.instanceNonce.isSome then
      .error .principalPartitionRequired else .ok ()
  | .nonShareable => if key.instanceNonce.isNone then .error .instanceNonceRequired else .ok ()
  | .shareableStateless | .shareableWithSerialization | .tenantIsolated =>
    if key.principalPartition.isSome ∨ key.instanceNonce.isSome then
      .error .partitionContradiction else .ok ()

def needsSerialization (key : ProcessKey) : Bool :=
  key.shareabilityClass = .shareableWithSerialization

end ProcessKey

/-- `serialization` is the place of the entry's lock among all there ever were. -/
structure PoolEntry where
  generation : Nat
  references : Nat
  restartBudget : Nat
  lastIdleAt : Option Nat
  serialization : Nat
  deriving DecidableEq

/-- `serialization` names the lock whose guard the permit has. -/
structure ProcessPermit where
  key : ProcessKey
  generation : Nat
  serialization : Option Nat
  deriving DecidableEq

/-- The pool and what its clients hold of it. `line` are the clients that await the lock of the
entries, the first one has it; `slotLine` are those that await a slot, `slots` the slots not yet
taken. `mutexes` says of every serialization lock whether it is held. `permits` are those that
are out, with the client that has each, `dropped` those that were lost without a release. -/
structure ProcessPool where
  line : List Nat
  entries : List (ProcessKey × PoolEntry)
  slots : Nat
  slotLine : List Nat
  mutexes : List Bool
  permits : List (Nat × ProcessPermit)
  dropped : List ProcessPermit
  now : Nat

namespace PoolEntry

def reference (entry : PoolEntry) : PoolEntry :=
  { entry with references := entry.references + 1, lastIdleAt := none }

def dereference (now : Nat) (entry : PoolEntry) : PoolEntry :=
  { entry with
    references := entry.references - 1
    lastIdleAt := if entry.references - 1 = 0 then some now else entry.lastIdleAt }

def expired (now idleTtl : Nat) (entry : PoolEntry) : Bool :=
  entry.references = 0 && entry.lastIdleAt.any fun idle => now - idle ≥ idleTtl

def crash (entry : PoolEntry) : PoolEntry :=
  { entry with restartBudget := entry.restartBudget - 1, generation := entry.generation + 1 }

end PoolEntry

namespace ProcessPool

/-- `none` is the failed assertion. -/
def bounded (maxProcesses : Nat) : Option ProcessPool :=
  if maxProcesses > 0 then some ⟨[],[],maxProcesses,[],[],[],[],0⟩ else none

@[simp] def unlock (s : ProcessPool) : ProcessPool := { s with line := s.line.tail }

/-- The body shared by both lookups once the entry is there to be referenced. -/
@[simp] def reference (s : ProcessPool) (i : Nat) (key : ProcessKey) (entry : PoolEntry)
    (serialization : Option Nat) : ProcessPool :=
  { s with
    entries := Keyed.update key .reference s.entries
    permits := (i,⟨key,entry.generation,serialization⟩) :: s.permits }

@[simp] def lockMutex (s : ProcessPool) (m : Nat) : ProcessPool :=
  { s with mutexes := s.mutexes.set m true }

/-- Drops a guard, if there is one. -/
@[simp] def freeMutex (s : ProcessPool) (serialization : Option Nat) : ProcessPool :=
  { s with mutexes := serialization.elim s.mutexes fun m => s.mutexes.set m false }

def insertedPermit (s : ProcessPool) (key : ProcessKey) : ProcessPermit :=
  ⟨key,1,if key.needsSerialization then some s.mutexes.length else none⟩

/-- The branch of `acquire` without an entry; the new lock is held if the key needs it. -/
@[simp] def insert (s : ProcessPool) (i : Nat) (key : ProcessKey) : ProcessPool :=
  { s with
    entries := s.entries ++ [(key,⟨1,1,2,none,s.mutexes.length⟩)]
    mutexes := s.mutexes ++ [key.needsSerialization]
    permits := (i,s.insertedPermit key) :: s.permits }

@[simp] def dereference (s : ProcessPool) (key : ProcessKey) : ProcessPool :=
  { s with entries := Keyed.update key (.dereference s.now) s.entries }

def expired (s : ProcessPool) (now idleTtl : Nat) : List ProcessKey :=
  (s.entries.filter fun entry => entry.2.expired now idleTtl).map Prod.fst

/-- With the entry goes its slot. -/
@[simp] def remove (s : ProcessPool) (key : ProcessKey) : ProcessPool :=
  { s with
    entries := Keyed.remove key s.entries
    slots := s.slots + ((s.entries.lookup key).isSome).toNat }

def recordCrash (s : ProcessPool) (key : ProcessKey) : Except PoolError Nat × ProcessPool :=
  match s.entries.lookup key with
  | none => (.error .processNotFound,s)
  | some entry =>
    if entry.restartBudget = 0 then (.error .restartBudgetExhausted,s)
    else (.ok (entry.generation + 1),{ s with entries := Keyed.update key .crash s.entries })

theorem recordCrash_cases (s : ProcessPool) (key : ProcessKey) :
    (s.recordCrash key).2 = s ∨
      (s.recordCrash key).2 = { s with entries := Keyed.update key .crash s.entries } := by
  rw [recordCrash]
  split
  · exact .inl rfl
  · split
    · exact .inl rfl
    · exact .inr rfl

end ProcessPool

/-- What an operation does once it has the lock of the entries. -/
inductive Section where
  | existing (key : ProcessKey)
  | slotted (key : ProcessKey)
  | release (permit : ProcessPermit)
  | reapIdle (now idleTtl : Nat)
  | recordCrash (key : ProcessKey)

inductive Answer where
  | nothing
  | acquired (result : Except PoolError ProcessPermit)
  | released
  | reaped (keys : List ProcessKey)
  | crashed (result : Except PoolError Nat)

/-- What a client does next; at `guard` it has the lock of the entries and awaits the lock of
the key's entry, with a slot or without. -/
inductive Activity where
  | idle (answer : Answer)
  | enter (work : Section)
  | inLine (work : Section)
  | guard (slotted : Bool) (key : ProcessKey)
  | wantSlot (key : ProcessKey)
  | awaitSlot (key : ProcessKey)
  | returnSlot (answer : Answer)
  | reaping (expired left : List ProcessKey)

namespace Activity

/-- After the entry of a key was referenced: a slot that was taken for it is given back. -/
def referenced (slotted : Bool) (permit : ProcessPermit) : Activity :=
  if slotted then .returnSlot (.acquired (.ok permit)) else .idle (.acquired (.ok permit))

end Activity

/-- The lookup of a key, without a slot in hand or with one. -/
def Section.lookup (slotted : Bool) (key : ProcessKey) : Section :=
  if slotted then .slotted key else .existing key

/-- One step of client `i`. -/
inductive Act (i : Nat) : ProcessPool → Activity → ProcessPool → Activity → Prop
  | queue : Act i s (.enter work) { s with line := s.line ++ [i] } (.inLine work)
  -- `acquire`
  | invalid {key : ProcessKey} {error : PoolError} (refused : key.validate = .error error) :
      Act i s (.idle answer) s (.idle (.acquired (.error error)))
  | acquire {key : ProcessKey} (valid : key.validate = .ok ()) :
      Act i s (.idle answer) s (.enter (.existing key))
  | missing (own : s.line.head? = some i) (none : s.entries.lookup key = none) :
      Act i s (.inLine (.existing key)) s.unlock (.wantSlot key)
  | takeSlot (free : s.slotLine.length < s.slots) :
      Act i s (.wantSlot key) { s with slots := s.slots - 1 } (.enter (.slotted key))
  | awaitSlot (taken : ¬s.slotLine.length < s.slots) :
      Act i s (.wantSlot key) { s with slotLine := s.slotLine ++ [i] } (.awaitSlot key)
  | granted (turn : s.slotLine.idxOf i < s.slots) :
      Act i s (.awaitSlot key) { s with slots := s.slots - 1, slotLine := s.slotLine.erase i }
        (.enter (.slotted key))
  | insert (own : s.line.head? = some i) (none : s.entries.lookup key = none) :
      Act i s (.inLine (.slotted key)) (s.insert i key).unlock
        (.idle (.acquired (.ok (s.insertedPermit key))))
  -- Both lookups when the key has an entry.
  | reference (slotted : Bool) (own : s.line.head? = some i)
      (found : s.entries.lookup key = some entry) (plain : key.needsSerialization = false) :
      Act i s (.inLine (.lookup slotted key)) (s.reference i key entry none).unlock
        (.referenced slotted ⟨key,entry.generation,none⟩)
  | await (slotted : Bool) (own : s.line.head? = some i)
      (found : s.entries.lookup key = some entry) (serialized : key.needsSerialization = true) :
      Act i s (.inLine (.lookup slotted key)) s (.guard slotted key)
  | guarded (slotted : Bool) (found : s.entries.lookup key = some entry)
      (free : s.mutexes[entry.serialization]? = some false) :
      Act i s (.guard slotted key)
        ((s.lockMutex entry.serialization).reference i key entry (some entry.serialization)).unlock
        (.referenced slotted ⟨key,entry.generation,some entry.serialization⟩)
  | returnSlot : Act i s (.returnSlot answer) { s with slots := s.slots + 1 } (.idle answer)
  -- `release`
  | release (held : (i,permit) ∈ s.permits) :
      Act i s (.idle answer)
        ({ s with permits := s.permits.erase (i,permit) }.freeMutex permit.serialization)
        (.enter (.release permit))
  | released (own : s.line.head? = some i) :
      Act i s (.inLine (.release permit)) (s.dereference permit.key).unlock (.idle .released)
  -- `reap_idle`; every handle of the pool has an `idle_ttl` of its own.
  | reapIdle (idleTtl : Nat) : Act i s (.idle answer) s (.enter (.reapIdle s.now idleTtl))
  | expire (own : s.line.head? = some i) :
      Act i s (.inLine (.reapIdle now idleTtl)) s
        (.reaping (s.expired now idleTtl) (s.expired now idleTtl))
  | remove : Act i s (.reaping expired (key :: left)) (s.remove key) (.reaping expired left)
  | reaped : Act i s (.reaping expired []) s.unlock (.idle (.reaped expired))
  -- `record_crash`
  | recordCrash (key : ProcessKey) : Act i s (.idle answer) s (.enter (.recordCrash key))
  | crashed (key : ProcessKey) (own : s.line.head? = some i) :
      Act i s (.inLine (.recordCrash key)) (s.recordCrash key).2.unlock
        (.idle (.crashed (s.recordCrash key).1))

/-- What is left of an operation that is given up while it has yet to use the lock. -/
def Section.abandoned (s : ProcessPool) : Section → ProcessPool × Activity
  | .slotted _ => (s,.returnSlot .nothing)
  | .release permit => ({ s with dropped := permit :: s.dropped },.idle .nothing)
  | _ => (s,.idle .nothing)

/-- An operation that awaits something may be dropped there; a wait for a slot may also be over. -/
inductive Abandon (i : Nat) : ProcessPool → Activity → ProcessPool → Activity → Prop
  | enter : Abandon i s (.enter work) (work.abandoned s).1 (work.abandoned s).2
  | inLine : Abandon i s (.inLine work) { (work.abandoned s).1 with line := s.line.erase i }
      (work.abandoned s).2
  | guard (slotted : Bool) : Abandon i s (.guard slotted key) s.unlock
      (if slotted then .returnSlot .nothing else .idle .nothing)
  | wantSlot : Abandon i s (.wantSlot key) s (.idle .nothing)
  | awaitSlot (answer : Answer)
      (ended : answer = .nothing ∨ answer = .acquired (.error .capacityTimeout)) :
      Abandon i s (.awaitSlot key) { s with slotLine := s.slotLine.erase i } (.idle answer)

/-- What changes by no operation: time passes, and a permit may go to another client or be
dropped. -/
inductive Drift : ProcessPool → ProcessPool → Prop
  | tick (later : s.now ≤ now) : Drift s { s with now := now }
  | hand (held : (i,permit) ∈ s.permits) (j : Nat) :
      Drift s { s with permits := (j,permit) :: s.permits.erase (i,permit) }
  | drop (held : (i,permit) ∈ s.permits) :
      Drift s ({ s with
        permits := s.permits.erase (i,permit)
        dropped := permit :: s.dropped }.freeMutex permit.serialization)

def pool (maxProcesses : Nat) : Crew ProcessPool Activity where
  initial s := ProcessPool.bounded maxProcesses = some s
  begins activity := activity = .idle .nothing
  act i s activity t next := Act i s activity t next ∨ Abandon i s activity t next
  drift := Drift

end GaugeMesh.Pool
