import GaugeMesh.Interleaving.Crew

/-! `admission.rs`: how a request is admitted for its tenant. A task runs one `acquire`,
keeps the permit it may get and drops it; every access to what tasks share is a step of its
own. How long a task waits is left open, and so is which waiter a free permit goes to. -/
namespace GaugeMesh.Admission
open Interleaving

def maxTrackedTenants : Nat := 1024
def maxGlobalInflight : Nat := 256

inductive Overloaded where
  | tenantCardinality
  | tenantQueue
  | queueTimeout
  | globally
  deriving DecidableEq

def Overloaded.code : Overloaded → String
  | tenantCardinality => "GM_OVERLOADED_TENANT_CARDINALITY"
  | tenantQueue => "GM_OVERLOADED_TENANT_QUEUE"
  | queueTimeout => "GM_OVERLOADED_QUEUE_TIMEOUT"
  | globally => "GM_OVERLOADED_GLOBAL"

/-- What an `Arc<TenantAdmission>` points to, with the count of the `Arc`s; `permits` are
those the semaphore has left. -/
structure TenantAdmission where
  permits : Nat
  queued : Nat
  capacity : Nat
  strongCount : Nat
  deriving DecidableEq

/-- `owner` is the task that holds the lock of `tenants`. The map names each instance by its
place in `instances`, where the dead ones stay. -/
structure AdmissionControl where
  owner : Option Nat
  tenants : List (String × Nat)
  maxConcurrentPerTenant : Nat
  maxQueuePerTenant : Nat
  «global» : Nat
  instances : List TenantAdmission

namespace AdmissionControl

def new (maxConcurrentPerTenant maxQueuePerTenant : UInt16) : AdmissionControl :=
  ⟨none,[],maxConcurrentPerTenant.toNat,maxQueuePerTenant.toNat,maxGlobalInflight,[]⟩

/-- The test made before the entries are retained and again after it. -/
def full (s : AdmissionControl) (tenant : String) : Bool :=
  decide (maxTrackedTenants ≤ s.tenants.length) && (s.tenants.lookup tenant).isNone

/-- A change of one instance. -/
def on (s : AdmissionControl) (x : Nat) (change : TenantAdmission → TenantAdmission) :
    AdmissionControl :=
  { s with instances := s.instances.modify x change }

/-- An instance for a tenant that has none: one `Arc` is the map's, one the task's. -/
def insert (s : AdmissionControl) (tenant : String) : AdmissionControl :=
  { s with
    tenants := s.tenants ++ [(tenant,s.instances.length)]
    instances := s.instances ++ [⟨s.maxConcurrentPerTenant,0,s.maxConcurrentPerTenant,2⟩] }

def unlocked (s : AdmissionControl) : AdmissionControl := { s with owner := none }

variable (s : AdmissionControl) (x : Nat) (change : TenantAdmission → TenantAdmission)
  (tenant : String)

@[simp] theorem on_owner : (s.on x change).owner = s.owner := rfl
@[simp] theorem on_tenants : (s.on x change).tenants = s.tenants := rfl
@[simp] theorem on_global : (s.on x change).global = s.global := rfl
@[simp] theorem on_maxConcurrent :
    (s.on x change).maxConcurrentPerTenant = s.maxConcurrentPerTenant := rfl
@[simp] theorem on_maxQueue : (s.on x change).maxQueuePerTenant = s.maxQueuePerTenant := rfl
@[simp] theorem on_length : (s.on x change).instances.length = s.instances.length :=
  List.length_modify ..
@[simp] theorem insert_owner : (s.insert tenant).owner = s.owner := rfl
@[simp] theorem insert_global : (s.insert tenant).global = s.global := rfl
@[simp] theorem insert_tenants :
    (s.insert tenant).tenants = s.tenants ++ [(tenant,s.instances.length)] := rfl
@[simp] theorem insert_maxConcurrent :
    (s.insert tenant).maxConcurrentPerTenant = s.maxConcurrentPerTenant := rfl
@[simp] theorem insert_maxQueue :
    (s.insert tenant).maxQueuePerTenant = s.maxQueuePerTenant := rfl
@[simp] theorem insert_length :
    (s.insert tenant).instances.length = s.instances.length + 1 := by simp [insert]
@[simp] theorem unlocked_owner : s.unlocked.owner = none := rfl
@[simp] theorem unlocked_tenants : s.unlocked.tenants = s.tenants := rfl
@[simp] theorem unlocked_global : s.unlocked.global = s.global := rfl
@[simp] theorem unlocked_instances : s.unlocked.instances = s.instances := rfl
@[simp] theorem unlocked_maxConcurrent :
    s.unlocked.maxConcurrentPerTenant = s.maxConcurrentPerTenant := rfl
@[simp] theorem unlocked_maxQueue : s.unlocked.maxQueuePerTenant = s.maxQueuePerTenant := rfl

end AdmissionControl

namespace TenantAdmission

@[simp] def take (a : TenantAdmission) : TenantAdmission := { a with permits := a.permits - 1 }
@[simp] def give (a : TenantAdmission) : TenantAdmission := { a with permits := a.permits + 1 }
@[simp] def reserve (a : TenantAdmission) : TenantAdmission := { a with queued := a.queued + 1 }
@[simp] def unreserve (a : TenantAdmission) : TenantAdmission := { a with queued := a.queued - 1 }
@[simp] def clone (a : TenantAdmission) : TenantAdmission := { a with strongCount := a.strongCount + 1 }
@[simp] def drop (a : TenantAdmission) : TenantAdmission := { a with strongCount := a.strongCount - 1 }

end TenantAdmission

/-- What a task does next; an instance it has to do with is named by its place. A reason is
missing when the task was dropped while it waited. -/
inductive Phase where
  | lock
  | locked
  | retain (left : List (String × Nat))
  | retainQueued (entry : String × Nat) (left : List (String × Nat))
  | retainPermits (entry : String × Nat) (left : List (String × Nat))
  | evict (entry : String × Nat) (left : List (String × Nat))
  | entry
  | admitted (x : Nat)
  | reserve (x : Nat)
  | waiting (x : Nat)
  | granted (x : Nat)
  | permitted (x : Nat)
  | accepted (x : Nat)
  | live (x : Nat)
  | closing
  | closed
  | refused (x : Nat)
  | unqueue (x : Nat) (reason : Option Overloaded)
  | leave (x : Nat) (reason : Option Overloaded)
  | failed (reason : Option Overloaded)

structure Task where
  tenant : String
  phase : Phase

/-- One step of task `i` of a tenant. -/
inductive Acquire (i : Nat) (tenant : String) :
    AdmissionControl → Phase → AdmissionControl → Phase → Prop
  | lock (free : s.owner = none) : Acquire i tenant s .lock { s with owner := some i } .locked
  | dropped : Acquire i tenant s .lock s (.failed none)
  | retainAll (full : s.full tenant = true) (order : left.Perm s.tenants) :
      Acquire i tenant s .locked s (.retain left)
  | retainNone (room : s.full tenant = false) : Acquire i tenant s .locked s .entry
  -- The three tests of an entry, each at an instant of its own.
  | shared (found : s.instances[entry.2]? = some a) (many : 1 < a.strongCount) :
      Acquire i tenant s (.retain (entry :: left)) s (.retain left)
  | unshared (found : s.instances[entry.2]? = some a) (one : ¬1 < a.strongCount) :
      Acquire i tenant s (.retain (entry :: left)) s (.retainQueued entry left)
  | queued (found : s.instances[entry.2]? = some a) (some : 0 < a.queued) :
      Acquire i tenant s (.retainQueued entry left) s (.retain left)
  | unqueued (found : s.instances[entry.2]? = some a) (none : ¬0 < a.queued) :
      Acquire i tenant s (.retainQueued entry left) s (.retainPermits entry left)
  | used (found : s.instances[entry.2]? = some a) (differ : a.permits ≠ a.capacity) :
      Acquire i tenant s (.retainPermits entry left) s (.retain left)
  | unused (found : s.instances[entry.2]? = some a) (equal : a.permits = a.capacity) :
      Acquire i tenant s (.retainPermits entry left) s (.evict entry left)
  | evict : Acquire i tenant s (.evict entry left)
      ({ s with tenants := s.tenants.erase entry }.on entry.2 .drop) (.retain left)
  | retained : Acquire i tenant s (.retain []) s .entry
  -- The second test, the entry and the end of the lock.
  | cardinality (full : s.full tenant = true) :
      Acquire i tenant s .entry s.unlocked (.failed (some .tenantCardinality))
  | known (room : s.full tenant = false) (found : s.tenants.lookup tenant = some x) :
      Acquire i tenant s .entry (s.unlocked.on x .clone) (.admitted x)
  | insert (room : s.full tenant = false) (unknown : s.tenants.lookup tenant = none) :
      Acquire i tenant s .entry (s.unlocked.insert tenant) (.admitted s.instances.length)
  -- `try_acquire_owned`, else the queue.
  | tried (found : s.instances[x]? = some a) (free : 0 < a.permits) :
      Acquire i tenant s (.admitted x) (s.on x .take) (.permitted x)
  | missed (found : s.instances[x]? = some a) (none : a.permits = 0) :
      Acquire i tenant s (.admitted x) s (.reserve x)
  | reserve (found : s.instances[x]? = some a) (room : a.queued < s.maxQueuePerTenant) :
      Acquire i tenant s (.reserve x) (s.on x .reserve) (.waiting x)
  | crowded (found : s.instances[x]? = some a) (full : ¬a.queued < s.maxQueuePerTenant) :
      Acquire i tenant s (.reserve x) s (.leave x (some .tenantQueue))
  | granted (found : s.instances[x]? = some a) (free : 0 < a.permits) :
      Acquire i tenant s (.waiting x) (s.on x .take) (.granted x)
  | timeout (reason : Option Overloaded) (waited : reason = none ∨ reason = some .queueTimeout) :
      Acquire i tenant s (.waiting x) s (.unqueue x reason)
  -- A permit that comes too late goes back.
  | late (reason : Option Overloaded) (waited : reason = none ∨ reason = some .queueTimeout) :
      Acquire i tenant s (.granted x) (s.on x .give) (.unqueue x reason)
  | unqueue : Acquire i tenant s (.unqueue x reason) (s.on x .unreserve) (.leave x reason)
  | queuedUp : Acquire i tenant s (.granted x) (s.on x .unreserve) (.permitted x)
  | globally (free : 0 < s.global) :
      Acquire i tenant s (.permitted x) { s with «global» := s.global - 1 } (.accepted x)
  | refused (none : s.global = 0) : Acquire i tenant s (.permitted x) s (.refused x)
  | giveBack : Acquire i tenant s (.refused x) (s.on x .give) (.leave x (some .globally))
  | leave : Acquire i tenant s (.leave x reason) (s.on x .drop) (.failed reason)
  | accepted : Acquire i tenant s (.accepted x) (s.on x .drop) (.live x)
  -- The permit is dropped, its fields in their order.
  | dropTenant : Acquire i tenant s (.live x) (s.on x .give) .closing
  | dropGlobal : Acquire i tenant s .closing { s with «global» := s.global + 1 } .closed

/-- Every task begins with an `acquire`, for any tenant. -/
def control (maxConcurrentPerTenant maxQueuePerTenant : UInt16) : Crew AdmissionControl Task where
  initial s := s = .new maxConcurrentPerTenant maxQueuePerTenant
  begins task := task.phase = .lock
  act i s task t next := next.tenant = task.tenant ∧ Acquire i task.tenant s task.phase t next.phase
  drift _ _ := False

namespace Phase

/-- The instance a task has an `Arc` of. -/
@[simp] def clone? : Phase → Option Nat
  | admitted x | reserve x | waiting x | granted x | permitted x | accepted x | refused x
  | unqueue x _ | leave x _ => some x
  | _ => none

/-- The instance a task has a permit of. -/
@[simp] def permit? : Phase → Option Nat
  | granted x | permitted x | accepted x | live x | refused x => some x
  | _ => none

/-- The instance in whose queue a task is counted. -/
@[simp] def reservation? : Phase → Option Nat
  | waiting x | granted x | unqueue x _ => some x
  | _ => none

/-- Whether a task has one of the permits all tenants share. -/
@[simp] def permitsGlobally : Phase → Bool
  | accepted _ | live _ | closing => true
  | _ => false

/-- Whether a task holds the lock. -/
@[simp] def locks : Phase → Bool
  | locked | retain _ | retainQueued .. | retainPermits .. | evict .. | entry => true
  | _ => false

end Phase

namespace Task

def clones (x : Nat) (task : Task) : Bool := task.phase.clone? = some x
def permits (x : Nat) (task : Task) : Bool := task.phase.permit? = some x
def reserves (x : Nat) (task : Task) : Bool := task.phase.reservation? = some x
def permitsGlobally (task : Task) : Bool := task.phase.permitsGlobally

/-- A task of the tenant with a permit of the tenant. -/
def live (tenant : String) (task : Task) : Bool :=
  task.tenant = tenant && task.phase.permit?.isSome

/-- A task of the tenant in the queue. -/
def waits (tenant : String) (task : Task) : Bool :=
  task.tenant = tenant && task.phase.reservation?.isSome

end Task

end GaugeMesh.Admission
