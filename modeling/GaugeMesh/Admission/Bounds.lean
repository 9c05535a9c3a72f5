import GaugeMesh.Admission.Admission
import Mathlib.Data.List.Nodup
import Mathlib.Data.List.Perm.Basic

/-! What holds of the admission however its tasks interleave: the counters account for what
the tasks hold, and an instance is only evicted when no task has anything of it. -/
namespace GaugeMesh.Admission
open Interleaving

/-- The counters of instance `x` beside the entries and the tasks that have something of it. -/
structure Accounts (c : Crowd AdmissionControl Task) (x : Nat) (a : TenantAdmission) : Prop where
  strongCount : a.strongCount = c.state.tenants.countP (·.2 = x) + c.tasks.countP (Task.clones x)
  permits : a.permits + c.tasks.countP (Task.permits x) = a.capacity
  capacity : a.capacity = c.state.maxConcurrentPerTenant
  queued : a.queued = c.tasks.countP (Task.reserves x)
  bounded : a.queued ≤ c.state.maxQueuePerTenant

/-- What the tests made so far say about the entry under test. -/
def Evicting (c : Crowd AdmissionControl Task) : Phase → Prop
  | .retain left => left.Nodup ∧ ∀ entry ∈ left, entry ∈ c.state.tenants
  | .retainQueued entry left | .retainPermits entry left =>
    (entry :: left).Nodup ∧ (∀ other ∈ entry :: left, other ∈ c.state.tenants) ∧
      c.tasks.countP (Task.clones entry.2) = 0
  | .evict entry left =>
    (entry :: left).Nodup ∧ (∀ other ∈ entry :: left, other ∈ c.state.tenants) ∧
      c.tasks.countP (Task.clones entry.2) = 0 ∧ c.tasks.countP (Task.permits entry.2) = 0
  | _ => True

structure Sound (c : Crowd AdmissionControl Task) : Prop where
  accounts : ∀ x a, c.state.instances[x]? = some a → Accounts c x a
  «global» : c.state.global + c.tasks.countP Task.permitsGlobally = maxGlobalInflight
  lock : ∀ (i : Nat) task, c.tasks[i]? = some task → task.phase.locks = true →
    c.state.owner = some i
  names : (c.state.tenants.map Prod.fst).Nodup
  places : (c.state.tenants.map Prod.snd).Nodup
  known : ∀ entry ∈ c.state.tenants, entry.2 < c.state.instances.length
  tracked : c.state.tenants.length ≤ maxTrackedTenants
  mapped : ∀ (i : Nat) task x, c.tasks[i]? = some task →
    task.clones x = true ∨ task.permits x = true → (task.tenant,x) ∈ c.state.tenants
  evicting : ∀ (i : Nat) task, c.tasks[i]? = some task → Evicting c task.phase

theorem on_found {s : AdmissionControl} {x y : Nat} {change : TenantAdmission → TenantAdmission}
    {b : TenantAdmission} (found : (s.on x change).instances[y]? = some b) :
    (y = x ∧ ∃ a, s.instances[y]? = some a ∧ b = change a) ∨
      (y ≠ x ∧ s.instances[y]? = some b) := by
  rw [AdmissionControl.on,List.getElem?_modify] at found
  by_cases same : x = y
  · obtain ⟨a,here,equal⟩ := Option.map_eq_some_iff.mp found
    rw [if_pos same] at equal
    exact .inl ⟨same.symm,a,here,equal.symm⟩
  · obtain ⟨a,here,equal⟩ := Option.map_eq_some_iff.mp found
    rw [if_neg same] at equal
    exact .inr ⟨fun equal => same equal.symm,by rw [here]; exact congrArg some equal⟩

/-- What one step does to the counters of an instance and to what its task holds of it. -/
structure Balance (tenants tenants' : List (String × Nat)) (x : Nat) (p q : Phase)
    (a b : TenantAdmission) : Prop where
  strongCount : b.strongCount + tenants.countP (·.2 = x) + (decide (p.clone? = some x)).toNat =
    a.strongCount + tenants'.countP (·.2 = x) + (decide (q.clone? = some x)).toNat
  permits : b.permits + (decide (q.permit? = some x)).toNat =
    a.permits + (decide (p.permit? = some x)).toNat
  capacity : b.capacity = a.capacity
  queued : b.queued + (decide (p.reservation? = some x)).toNat =
    a.queued + (decide (q.reservation? = some x)).toNat

/-- What the task's own share says about the counters before the step. -/
structure Share (s : AdmissionControl) (x : Nat) (p : Phase) (a : TenantAdmission) : Prop where
  strongCount : s.tenants.countP (·.2 = x) + (decide (p.clone? = some x)).toNat ≤ a.strongCount
  queued : (decide (p.reservation? = some x)).toNat ≤ a.queued

/-- Every step but the insertion of an instance is balanced. -/
theorem Acquire.balance {i : Nat} {tenant : String} {s t : AdmissionControl} {p q : Phase}
    {x : Nat} {b : TenantAdmission} (acted : Acquire i tenant s p t q)
    (found : t.instances[x]? = some b)
    (share : ∀ a, s.instances[x]? = some a → Share s x p a)
    (evicting : ∀ entry left, p = .evict entry left → entry ∈ s.tenants) :
    (∃ a, s.instances[x]? = some a ∧ Balance s.tenants t.tenants x p q a b ∧
        (b.queued ≤ a.queued ∨ b.queued ≤ s.maxQueuePerTenant)) ∨
      (p = .entry ∧ q = .admitted x ∧ x = s.instances.length ∧
        t.tenants = s.tenants ++ [(tenant,x)] ∧
        b = ⟨s.maxConcurrentPerTenant,0,s.maxConcurrentPerTenant,2⟩) := by
  cases acted
  case insert room unknown =>
    rcases getElem?_begun found with old | ⟨rfl,rfl⟩
    · have other : s.instances.length ≠ x := fun equal => by simp [← equal] at old
      exact .inl ⟨b,old,⟨by simp [other],by simp,rfl,by simp⟩,.inl (Nat.le_refl _)⟩
    · exact .inr ⟨rfl,rfl,rfl,rfl,rfl⟩
  case evict entry left =>
    have count := countP_erase (evicting entry left rfl) (·.2 = x)
    rcases on_found found with ⟨rfl,a,here,rfl⟩ | ⟨other,here⟩
    · have own := (share a here).strongCount
      refine .inl ⟨a,here,⟨?_,by simp,rfl,by simp⟩,.inl (Nat.le_refl _)⟩
      simp at own count ⊢
      omega
    · have different : entry.2 ≠ x := fun equal => other equal.symm
      refine .inl ⟨b,here,⟨?_,by simp,rfl,by simp⟩,.inl (Nat.le_refl _)⟩
      simp [different] at count ⊢
      omega
  -- Steps that leave every instance as it is.
  all_goals first
    | exact .inl ⟨b,found,⟨rfl,rfl,rfl,rfl⟩,.inl (Nat.le_refl _)⟩
    | skip
  -- Steps that change the instance of the task.
  all_goals
    rcases on_found found with ⟨rfl,a,here,rfl⟩ | ⟨other,here⟩
    · have own := share a here
      have strongCount := own.strongCount
      have queued := own.queued
      refine .inl ⟨a,here,⟨?_,?_,rfl,?_⟩,?_⟩
      · simp at strongCount ⊢ <;> omega
      · simp_all <;> omega
      · simp at queued ⊢ <;> omega
      · simp_all [Nat.add_one_le_iff]
    · exact .inl ⟨b,here,⟨by simp [Ne.symm other],by simp [Ne.symm other],rfl,
        by simp [Ne.symm other]⟩,.inl (Nat.le_refl _)⟩

/-- A task in the queue has an `Arc`. -/
theorem Task.clones_of_reserves {task : Task} {x : Nat} (held : task.reserves x = true) :
    task.clones x = true := by
  obtain ⟨tenant,phase⟩ := task
  cases phase <;> simp_all [Task.reserves,Task.clones]

variable {c : Crowd AdmissionControl Task} {i : Nat} {tenant : String} {t : AdmissionControl}
  {p q : Phase}

theorem Sound.share (sound : Sound c) (here : c.tasks[i]? = some ⟨tenant,p⟩) {x : Nat}
    {a : TenantAdmission} (found : c.state.instances[x]? = some a) : Share c.state x p a := by
  have accounts := sound.accounts x a found
  constructor
  · have moved := countP_moved here (Task.clones x) ⟨tenant,.lock⟩
    have strongCount := accounts.strongCount
    simp [Task.clones] at moved strongCount ⊢
    omega
  · have moved := countP_moved here (Task.reserves x) ⟨tenant,.lock⟩
    have queued := accounts.queued
    simp [Task.reserves] at moved queued ⊢
    omega

/-- No task has anything of an instance that is still to come. -/
theorem Sound.untouched (sound : Sound c) {x : Nat} (new : c.state.instances.length ≤ x) :
    c.tasks.countP (Task.clones x) = 0 ∧ c.tasks.countP (Task.permits x) = 0 ∧
      c.tasks.countP (Task.reserves x) = 0 ∧ c.state.tenants.countP (·.2 = x) = 0 := by
  have free : ∀ task ∈ c.tasks, ¬(task.clones x = true ∨ task.permits x = true) := by
    intro task member held
    obtain ⟨j,there⟩ := List.mem_iff_getElem?.mp member
    have := sound.known _ (sound.mapped j task x there held)
    dsimp only at this
    omega
  refine ⟨?_,?_,?_,?_⟩
  · exact List.countP_eq_zero.mpr fun task member held => free task member (.inl held)
  · exact List.countP_eq_zero.mpr fun task member held => free task member (.inr held)
  · exact List.countP_eq_zero.mpr fun task member held => free task member 
      (.inl (Task.clones_of_reserves held))
  · apply List.countP_eq_zero.mpr
    intro entry member same
    have := sound.known entry member
    simp at same
    omega

theorem Acquire.limits {i : Nat} {s t : AdmissionControl} (acted : Acquire i tenant s p t q) :
    t.maxConcurrentPerTenant = s.maxConcurrentPerTenant ∧
      t.maxQueuePerTenant = s.maxQueuePerTenant := by
  cases acted <;> exact ⟨rfl,rfl⟩

theorem Sound.accounts_kept (sound : Sound c) (here : c.tasks[i]? = some ⟨tenant,p⟩)
    (acted : Acquire i tenant c.state p t q) (x : Nat) (b : TenantAdmission)
    (found : t.instances[x]? = some b) : Accounts ⟨t,c.tasks.set i ⟨tenant,q⟩⟩ x b := by
  have clones := countP_moved here (Task.clones x) ⟨tenant,q⟩
  have permits := countP_moved here (Task.permits x) ⟨tenant,q⟩
  have reserves := countP_moved here (Task.reserves x) ⟨tenant,q⟩
  simp only [Task.clones,Task.permits,Task.reserves] at clones permits reserves
  obtain ⟨maxConcurrent,maxQueue⟩ := acted.limits
  have evicting : ∀ entry left, p = .evict entry left → entry ∈ c.state.tenants := by
    rintro entry left rfl
    exact (sound.evicting i _ here).2.1 entry List.mem_cons_self
  rcases acted.balance found (fun a => sound.share here) evicting with
    ⟨a,old,balance,bound⟩ | ⟨rfl,rfl,new,tenants,rfl⟩
  · have accounts := sound.accounts x a old
    have ⟨strongCount,permits',capacity,queued⟩ := balance
    constructor
    · have := accounts.strongCount
      dsimp only
      omega
    · have := accounts.permits
      dsimp only
      omega
    · rw [capacity,accounts.capacity,maxConcurrent]
    · have := accounts.queued
      dsimp only
      omega
    · have := accounts.bounded
      simp only [maxQueue]
      omega
  · obtain ⟨noClones,noPermits,noReserves,noEntry⟩ := sound.untouched (Nat.le_of_eq new.symm)
    simp at clones permits reserves
    constructor <;> simp [tenants,maxConcurrent,clones,permits,reserves,noClones,noPermits,
      noReserves,noEntry]

theorem Sound.global_kept (sound : Sound c) (here : c.tasks[i]? = some ⟨tenant,p⟩)
    (acted : Acquire i tenant c.state p t q) :
    t.global + (c.tasks.set i ⟨tenant,q⟩).countP Task.permitsGlobally = maxGlobalInflight := by
  have counted := sound.global
  have moved := countP_moved here Task.permitsGlobally ⟨tenant,q⟩
  simp only [Task.permitsGlobally] at moved
  cases acted <;> simp at moved ⊢ <;> omega

/-- What one step does to the map. -/
inductive MapStep (s t : AdmissionControl) (tenant : String) (p q : Phase) : Prop
  | same (tenants : t.tenants = s.tenants) (length : t.instances.length = s.instances.length)
  | insert (before : p = .entry) (after : q = .admitted s.instances.length)
      (room : s.full tenant = false) (unknown : s.tenants.lookup tenant = none)
      (tenants : t.tenants = s.tenants ++ [(tenant,s.instances.length)])
      (length : t.instances.length = s.instances.length + 1)
  | evict (entry : String × Nat) (left : List (String × Nat)) (before : p = .evict entry left)
      (after : q = .retain left)
      (tenants : t.tenants = s.tenants.erase entry)
      (length : t.instances.length = s.instances.length)

theorem Acquire.map {s : AdmissionControl} (acted : Acquire i tenant s p t q) :
    MapStep s t tenant p q := by
  cases acted
  case insert room unknown => exact .insert rfl rfl room unknown rfl (by simp)
  case evict entry left => exact .evict entry left rfl rfl rfl (by simp)
  all_goals exact .same rfl (by simp)

/-- The lock is taken when it is free and left by the task that has it. -/
theorem Acquire.owner {s : AdmissionControl} (acted : Acquire i tenant s p t q) :
    (q.locks = true → t.owner = some i ∨ p.locks = true ∧ t.owner = s.owner) ∧
      (t.owner = s.owner ∨ s.owner = none ∨ p.locks = true) := by
  cases acted <;> simp_all

/-- Nothing of an instance is got without having something of it, but for the `Arc` that is
cloned from the map. -/
theorem Acquire.holds {s : AdmissionControl} {x : Nat} (acted : Acquire i tenant s p t q) :
    (q.clone? = some x → p.clone? = some x ∨ p = .entry ∧ (tenant,x) ∈ t.tenants) ∧
      (q.permit? = some x → p.clone? = some x ∨ p.permit? = some x) := by
  cases acted
  case known room found =>
    refine ⟨fun equal => .inr ⟨rfl,?_⟩,by simp⟩
    obtain rfl := Option.some.inj equal
    obtain ⟨before,after,split,_⟩ := List.lookup_eq_some_iff.mp found
    simp [split]
  case insert => simp +contextual [eq_comm]
  all_goals simp_all

theorem Sound.lock_kept (sound : Sound c) (here : c.tasks[i]? = some ⟨tenant,p⟩)
    (acted : Acquire i tenant c.state p t q) (j : Nat) (task : Task)
    (there : (c.tasks.set i ⟨tenant,q⟩)[j]? = some task) (locks : task.phase.locks = true) :
    t.owner = some j := by
  obtain ⟨taken,left⟩ := acted.owner
  rcases getElem?_moved there with ⟨rfl,rfl⟩ | ⟨other,old⟩
  · rcases taken locks with now | ⟨before,same⟩
    · exact now
    · rw [same]
      exact sound.lock j _ here before
  · have owns := sound.lock j task old locks
    rcases left with same | free | before
    · rw [same,owns]
    · simp [free] at owns
    · have := sound.lock i _ here before
      simp [this] at owns
      omega

theorem Sound.map_kept (sound : Sound c) (here : c.tasks[i]? = some ⟨tenant,p⟩)
    (acted : Acquire i tenant c.state p t q) :
    (t.tenants.map Prod.fst).Nodup ∧ (t.tenants.map Prod.snd).Nodup ∧
      (∀ entry ∈ t.tenants, entry.2 < t.instances.length) ∧
      t.tenants.length ≤ maxTrackedTenants := by
  rcases acted.map with
    ⟨tenants,length⟩ | ⟨rfl,rfl,room,unknown,tenants,length⟩ |
      ⟨entry,left,rfl,rfl,tenants,length⟩
  · rw [tenants,length]
    exact ⟨sound.names,sound.places,sound.known,sound.tracked⟩
  · rw [tenants,length]
    refine ⟨?_,?_,?_,?_⟩
    · have fresh : ∀ entry ∈ c.state.tenants, entry.1 ≠ tenant := by
        intro entry member same
        have different := List.lookup_eq_none_iff.mp unknown entry member
        simp [same] at different
      rw [List.map_append]
      refine List.nodup_append.mpr ⟨sound.names,by simp,?_⟩
      intro name member other last
      obtain ⟨entry,old,rfl⟩ := List.mem_map.mp member
      simp only [List.map_cons,List.map_nil,List.mem_singleton] at last
      exact last ▸ fresh entry old
    · rw [List.map_append]
      refine List.nodup_append.mpr ⟨sound.places,by simp,?_⟩
      intro place member other last
      obtain ⟨entry,old,rfl⟩ := List.mem_map.mp member
      simp only [List.map_cons,List.map_nil,List.mem_singleton] at last
      exact last ▸ Nat.ne_of_lt (sound.known entry old)
    · intro entry member
      rcases List.mem_append.mp member with old | new
      · exact Nat.lt_succ_of_lt (sound.known entry old)
      · simp only [List.mem_singleton] at new
        simp [new]
    · have := sound.tracked
      simp [AdmissionControl.full,unknown] at room
      simp
      omega
  · rw [tenants,length]
    have sub : (c.state.tenants.erase entry).Sublist c.state.tenants := List.erase_sublist
    exact ⟨sound.names.sublist (sub.map _),sound.places.sublist (sub.map _),
      fun entry member => sound.known entry (sub.subset member),
      Nat.le_trans sub.length_le sound.tracked⟩

/-- An entry that is evicted is not the entry of an instance a task has something of. -/
theorem Sound.mapped_kept (sound : Sound c) (here : c.tasks[i]? = some ⟨tenant,p⟩)
    (acted : Acquire i tenant c.state p t q) (j : Nat) (task : Task) (x : Nat)
    (there : (c.tasks.set i ⟨tenant,q⟩)[j]? = some task)
    (held : task.clones x = true ∨ task.permits x = true) : (task.tenant,x) ∈ t.tenants := by
  rcases getElem?_moved there with ⟨rfl,rfl⟩ | ⟨other,old⟩
  · obtain ⟨clone,permit⟩ := acted.holds (x := x)
    simp only [Task.clones,Task.permits,decide_eq_true_eq] at held
    have before : p = .entry ∧ (tenant,x) ∈ t.tenants ∨
        (tenant,x) ∈ c.state.tenants := by
      rcases held with clones | permits
      · rcases clone clones with old | fresh
        · exact .inr (sound.mapped j _ x here (.inl (decide_eq_true old)))
        · exact .inl fresh
      · rcases permit permits with old | old
        · exact .inr (sound.mapped j _ x here (.inl (decide_eq_true old)))
        · exact .inr (sound.mapped j _ x here (.inr (decide_eq_true old)))
    rcases before with ⟨-,now⟩ | before
    · exact now
    · rcases acted.map with ⟨tenants,_⟩ | ⟨_,_,_,_,tenants,_⟩ | ⟨_,_,_,rfl,_,_⟩
      · rwa [tenants]
      · rw [tenants]
        exact List.mem_append_left _ before
      · simp at held
  · have mapped := sound.mapped j task x old held
    rcases acted.map with ⟨tenants,_⟩ | ⟨_,_,_,_,tenants,_⟩ | ⟨_,_,rfl,_,tenants,_⟩
    · rwa [tenants]
    · rw [tenants]
      exact List.mem_append_left _ mapped
    · rw [tenants]
      obtain ⟨-,-,noClones,noPermits⟩ := sound.evicting i _ here
      refine (List.mem_erase_of_ne ?_).mpr mapped
      rintro rfl
      have member := List.mem_of_getElem? old
      rcases held with clones | permits
      · exact List.countP_eq_zero.mp noClones task member clones
      · exact List.countP_eq_zero.mp noPermits task member permits

/-- The count of one leaves the map's own `Arc` alone. -/
theorem Sound.unshared (sound : Sound c) {entry : String × Nat}
    (member : entry ∈ c.state.tenants) {a : TenantAdmission}
    (found : c.state.instances[entry.2]? = some a) (one : ¬1 < a.strongCount) :
    c.tasks.countP (Task.clones entry.2) = 0 := by
  have strongCount := (sound.accounts _ a found).strongCount
  have own : 0 < c.state.tenants.countP (·.2 = entry.2) :=
    List.countP_pos_iff.mpr ⟨entry,member,by simp⟩
  omega

/-- Nothing gets an `Arc` or a permit of an instance without `Arc`s while another task has the
lock. -/
theorem evicting_other (here : c.tasks[i]? = some ⟨tenant,p⟩)
    (acted : Acquire i tenant c.state p t q) (unlocked : p.locks = false) {x : Nat}
    (noClones : c.tasks.countP (Task.clones x) = 0) :
    (c.tasks.set i ⟨tenant,q⟩).countP (Task.clones x) = 0 ∧
      (c.tasks.countP (Task.permits x) = 0 →
        (c.tasks.set i ⟨tenant,q⟩).countP (Task.permits x) = 0) := by
  obtain ⟨clone,permit⟩ := acted.holds (x := x)
  have without : p.clone? ≠ some x := by
    intro equal
    have member := List.mem_of_getElem? here
    exact List.countP_eq_zero.mp noClones _ member (decide_eq_true equal)
  constructor
  · apply countP_eq_zero_moved noClones
    apply decide_eq_false
    intro equal
    rcases clone equal with old | ⟨rfl,-⟩
    · exact without old
    · simp at unlocked
  · intro noPermits
    apply countP_eq_zero_moved noPermits
    apply decide_eq_false
    intro equal
    rcases permit equal with old | old
    · exact without old
    · have member := List.mem_of_getElem? here
      exact List.countP_eq_zero.mp noPermits _ member (decide_eq_true old)

theorem Evicting.locks {phase : Phase} (unlocked : phase.locks = false) : Evicting c phase := by
  cases phase <;> simp_all [Evicting]

theorem Sound.evicting_kept (sound : Sound c) (here : c.tasks[i]? = some ⟨tenant,p⟩)
    (acted : Acquire i tenant c.state p t q) (j : Nat) (task : Task)
    (there : (c.tasks.set i ⟨tenant,q⟩)[j]? = some task) :
    Evicting ⟨t,c.tasks.set i ⟨tenant,q⟩⟩ task.phase := by
  rcases getElem?_moved there with ⟨rfl,rfl⟩ | ⟨other,old⟩
  · have before := sound.evicting j _ here
    cases acted
    case retainAll full order =>
      exact ⟨order.nodup_iff.mpr sound.names.of_map,fun entry member => order.subset member⟩
    case unshared entry a left one found =>
      obtain ⟨nodup,entries⟩ := before
      exact ⟨nodup,entries,countP_eq_zero_moved
        (sound.unshared (entries entry List.mem_cons_self) found one) rfl⟩
    case unqueued entry a left none found =>
      obtain ⟨nodup,entries,noClones⟩ := before
      exact ⟨nodup,entries,countP_eq_zero_moved noClones rfl⟩
    case unused entry a left equal found =>
      obtain ⟨nodup,entries,noClones⟩ := before
      have accounts := (sound.accounts _ a found).permits
      have noPermits : c.tasks.countP (Task.permits entry.2) = 0 := by omega
      exact ⟨nodup,entries,countP_eq_zero_moved noClones rfl,countP_eq_zero_moved noPermits rfl⟩
    case evict entry left =>
      obtain ⟨nodup,entries,-⟩ := before
      obtain ⟨absent,rest⟩ := List.nodup_cons.mp nodup
      refine ⟨rest,fun other member => (List.mem_erase_of_ne ?_).mpr
        (entries other (List.mem_cons_of_mem entry member))⟩
      rintro rfl
      exact absent member
    case shared entry a left many found =>
      exact ⟨before.1.of_cons,fun other member => before.2 other (List.mem_cons_of_mem _ member)⟩
    case queued entry a left some found =>
      exact ⟨before.1.of_cons,fun other member => before.2.1 other (List.mem_cons_of_mem _ member)⟩
    case used entry a left differ found =>
      exact ⟨before.1.of_cons,fun other member => before.2.1 other (List.mem_cons_of_mem _ member)⟩
    all_goals trivial
  · by_cases locks : task.phase.locks = true
    · have owns := sound.lock j task old locks
      have unlocked : p.locks = false := by
        by_contra holds
        have := sound.lock i _ here (by simpa using holds)
        rw [owns] at this
        exact other (Option.some.inj this)
      have before := sound.evicting j task old
      have tenants : t.tenants = c.state.tenants := by
        rcases acted.map with ⟨tenants,_⟩ | ⟨rfl,_,_,_,_,_⟩ | ⟨_,_,rfl,_,_,_⟩
        · exact tenants
        · simp at unlocked
        · simp at unlocked
      obtain ⟨tenant',phase⟩ := task
      cases phase with
      | retain left => simpa [Evicting,tenants] using before
      | retainQueued entry left | retainPermits entry left =>
        obtain ⟨nodup,entries,noClones⟩ := before
        exact ⟨nodup,tenants ▸ entries,(evicting_other here acted unlocked noClones).1⟩
      | evict entry left =>
        obtain ⟨nodup,entries,noClones,noPermits⟩ := before
        obtain ⟨clones,permits⟩ := evicting_other here acted unlocked noClones
        exact ⟨nodup,tenants ▸ entries,clones,permits noPermits⟩
      | _ => trivial
    · exact Evicting.locks (by simpa using locks)

variable {maxConcurrent maxQueue : UInt16}

theorem Sound.act (sound : Sound c) {task next : Task} (here : c.tasks[i]? = some task)
    (acted : (control maxConcurrent maxQueue).act i c.state task t next) : Sound ⟨t,c.tasks.set i next⟩ := by
  obtain ⟨tenant,p⟩ := task
  obtain ⟨tenant',q⟩ := next
  obtain ⟨rfl,acted⟩ := acted
  obtain ⟨names,places,known,tracked⟩ := sound.map_kept here acted
  exact {
    accounts := sound.accounts_kept here acted
    «global» := sound.global_kept here acted
    lock := sound.lock_kept here acted
    names := names
    places := places
    known := known
    tracked := tracked
    mapped := sound.mapped_kept here acted
    evicting := sound.evicting_kept here acted }

/-- A task that has yet to take the lock holds nothing. -/
theorem Sound.begin (sound : Sound c) (tenant : String) :
    Sound ⟨c.state,c.tasks ++ [⟨tenant,.lock⟩]⟩ where
  accounts x a found := by
    obtain ⟨strongCount,permits,capacity,queued,bounded⟩ := sound.accounts x a found
    refine ⟨?_,?_,capacity,?_,bounded⟩
    all_goals
      dsimp only
      rwa [countP_begun _ _ rfl]
  «global» := by
    rw [countP_begun _ _ rfl]
    exact sound.global
  lock i task found locks := by
    rcases getElem?_begun found with old | ⟨-,rfl⟩
    · exact sound.lock i task old locks
    · simp at locks
  names := sound.names
  places := sound.places
  known := sound.known
  tracked := sound.tracked
  mapped i task x found held := by
    rcases getElem?_begun found with old | ⟨-,rfl⟩
    · exact sound.mapped i task x old held
    · simp [Task.clones,Task.permits] at held
  evicting i task found := by
    rcases getElem?_begun found with old | ⟨-,rfl⟩
    · have before := sound.evicting i task old
      obtain ⟨tenant',phase⟩ := task
      have same (x : Nat) := countP_begun c.tasks (Task.clones x) (t := ⟨tenant,.lock⟩) rfl
      have same' (x : Nat) := countP_begun c.tasks (Task.permits x) (t := ⟨tenant,.lock⟩) rfl
      cases phase <;> simp only [Evicting,same,same'] at before ⊢ <;> exact before
    · trivial

theorem sound_of_reachable (reachable : (control maxConcurrent maxQueue).Reachable c) :
    Sound c := by
  refine reachable.invariant Sound ?_ ?_
  · rintro s rfl
    constructor <;> simp [AdmissionControl.new]
  · intro c d sound stepped
    cases stepped with
    | begin fresh =>
      rename_i task
      obtain ⟨tenant,phase⟩ := task
      obtain rfl : phase = .lock := fresh
      exact sound.begin tenant
    | act here acted => exact sound.act here acted
    | drift moved => exact moved.elim

theorem limits_of_reachable (reachable : (control maxConcurrent maxQueue).Reachable c) :
    c.state.maxConcurrentPerTenant = maxConcurrent.toNat ∧
      c.state.maxQueuePerTenant = maxQueue.toNat := by
  refine reachable.invariant (fun c => c.state.maxConcurrentPerTenant = maxConcurrent.toNat ∧
    c.state.maxQueuePerTenant = maxQueue.toNat) ?_ ?_
  · rintro s rfl
    exact ⟨rfl,rfl⟩
  · intro c d limits stepped
    cases stepped with
    | begin fresh => exact limits
    | act here acted =>
      obtain ⟨concurrent,queue⟩ := acted.2.limits
      exact ⟨concurrent.trans limits.1,queue.trans limits.2⟩
    | drift moved => exact moved.elim

/-- Two tasks of one tenant that hold a permit or wait have to do with one instance. -/
theorem Sound.one_instance (sound : Sound c) {i j : Nat} {task other : Task} {x y : Nat}
    (here : c.tasks[i]? = some task) (there : c.tasks[j]? = some other)
    (same : task.tenant = other.tenant) (held : task.permits x = true ∨ task.reserves x = true)
    (held' : other.permits y = true ∨ other.reserves y = true) : x = y := by
  have mapped := sound.mapped i task x here (held.symm.imp_left Task.clones_of_reserves)
  have mapped' := sound.mapped j other y there (held'.symm.imp_left Task.clones_of_reserves)
  rw [← same] at mapped'
  have := List.inj_on_of_nodup_map sound.names mapped mapped' rfl
  exact congrArg Prod.snd this

theorem Sound.instance_of (sound : Sound c) {x : Nat} {task : Task} (here : c.tasks[i]? = some task)
    (held : task.clones x = true ∨ task.permits x = true) :
    ∃ a, c.state.instances[x]? = some a ∧ Accounts c x a := by
  have bound := sound.known _ (sound.mapped i task x here held)
  have found := List.getElem?_eq_getElem bound
  exact ⟨_,found,sound.accounts x _ found⟩

/-- So what the tasks of a tenant hold of one kind is held of one instance. -/
theorem Sound.of_tenant (sound : Sound c) (kind : Phase → Option Nat)
    (held : ∀ (task : Task) x, kind task.phase = some x →
      task.permits x = true ∨ task.reserves x = true) (tenant : String) :
    c.tasks.countP (fun task => task.tenant = tenant && (kind task.phase).isSome) = 0 ∨
      ∃ x a, Accounts c x a ∧
        c.tasks.countP (fun task => task.tenant = tenant && (kind task.phase).isSome) ≤
          c.tasks.countP (fun task => kind task.phase = some x) := by
  by_cases empty :
    c.tasks.countP (fun task => task.tenant = tenant && (kind task.phase).isSome) = 0
  · exact .inl empty
  obtain ⟨task,member,holds⟩ := List.countP_pos_iff.mp (Nat.pos_of_ne_zero empty)
  obtain ⟨i,here⟩ := List.mem_iff_getElem?.mp member
  simp only [Bool.and_eq_true,decide_eq_true_eq,Option.isSome_iff_exists] at holds
  obtain ⟨named,x,first⟩ := holds
  obtain ⟨a,-,accounts⟩ :=
    sound.instance_of here ((held task x first).symm.imp_left Task.clones_of_reserves)
  refine .inr ⟨x,a,accounts,List.countP_mono_left ?_⟩
  intro other found holds
  obtain ⟨j,there⟩ := List.mem_iff_getElem?.mp found
  simp only [Bool.and_eq_true,decide_eq_true_eq,Option.isSome_iff_exists] at holds
  obtain ⟨named',y,second⟩ := holds
  obtain rfl := sound.one_instance here there (named.trans named'.symm) (held task x first)
    (held other y second)
  simpa using second

theorem Sound.live_le (sound : Sound c) (tenant : String) :
    c.tasks.countP (Task.live tenant) ≤ c.state.maxConcurrentPerTenant := by
  rcases sound.of_tenant Phase.permit?
      (fun _ _ permit => .inl (decide_eq_true permit)) tenant with none | ⟨x,a,accounts,bound⟩
  · exact Nat.le_trans (Nat.le_of_eq none) (Nat.zero_le _)
  · have permits : a.permits + c.tasks.countP (fun task => task.phase.permit? = some x) =
        a.capacity := accounts.permits
    have capacity := accounts.capacity
    exact Nat.le_trans bound (by omega)

theorem Sound.waits_le (sound : Sound c) (tenant : String) :
    c.tasks.countP (Task.waits tenant) ≤ c.state.maxQueuePerTenant := by
  rcases sound.of_tenant Phase.reservation?
      (fun _ _ reservation => .inr (decide_eq_true reservation)) tenant with
    none | ⟨x,a,accounts,bound⟩
  · exact Nat.le_trans (Nat.le_of_eq none) (Nat.zero_le _)
  · have queued : a.queued = c.tasks.countP (fun task => task.phase.reservation? = some x) :=
      accounts.queued
    have bounded := accounts.bounded
    exact Nat.le_trans bound (by omega)

/-- Nothing is left of a failed `acquire`: what is not free is held by other tasks. -/
def GivenBack (c : Crowd AdmissionControl Task) : Prop :=
  (∀ (i : Nat) task reason, c.tasks[i]? = some task → task.phase = .failed reason →
    (∀ x, task.clones x = false ∧ task.permits x = false ∧ task.reserves x = false) ∧
      task.permitsGlobally = false) ∧
  (∀ x a, c.state.instances[x]? = some a →
    a.permits + c.tasks.countP (Task.permits x) = a.capacity ∧
      a.queued = c.tasks.countP (Task.reserves x)) ∧
  c.state.global + c.tasks.countP Task.permitsGlobally = maxGlobalInflight

theorem acquire_bounded {maxConcurrent maxQueue : UInt16} {c : Crowd AdmissionControl Task}
    (reachable : (control maxConcurrent maxQueue).Reachable c) :
    (∀ tenant, c.tasks.countP (Task.live tenant) ≤ maxConcurrent.toNat) ∧
    (∀ tenant, c.tasks.countP (Task.waits tenant) ≤ maxQueue.toNat) ∧
    c.state.tenants.length ≤ maxTrackedTenants ∧
    c.tasks.countP Task.permitsGlobally ≤ maxGlobalInflight ∧
    GivenBack c ∧
    (∀ (i j : Nat) task other x y, c.tasks[i]? = some task → c.tasks[j]? = some other →
      task.tenant = other.tenant → task.permits x = true ∨ task.reserves x = true →
      other.permits y = true ∨ other.reserves y = true → x = y) := by
  have sound := sound_of_reachable reachable
  obtain ⟨concurrent,queue⟩ := limits_of_reachable reachable
  refine ⟨?_,?_,sound.tracked,?_,⟨?_,?_,sound.global⟩,?_⟩
  · intro tenant
    exact concurrent ▸ sound.live_le tenant
  · intro tenant
    exact queue ▸ sound.waits_le tenant
  · have counted := sound.global
    omega
  · rintro i ⟨tenant,phase⟩ reason here rfl
    exact ⟨fun x => ⟨rfl,rfl,rfl⟩,rfl⟩
  · intro x a found
    have accounts := sound.accounts x a found
    exact ⟨accounts.permits,accounts.queued⟩
  · intro i j task other x y here there same held held'
    exact sound.one_instance here there same held held'

/-- One request of one tenant, admitted. -/
def admittedOnce : Crowd AdmissionControl Task :=
  ⟨⟨none,[("tenant-a",0)],1,1,255,[⟨0,0,1,1⟩]⟩,[⟨"tenant-a",.live 0⟩]⟩

theorem admittedOnce_reachable : (control 1 1).Reachable admittedOnce := by
  have start : (control 1 1).Reachable ⟨.new 1 1,[]⟩ := .initial rfl
  have begun := start.begin ⟨"tenant-a",.lock⟩ (by rfl)
  have locked := begun.act 0 ⟨"tenant-a",.locked⟩ rfl ⟨rfl,.lock rfl⟩
  have entry := locked.act 0 ⟨"tenant-a",.entry⟩ rfl ⟨rfl,.retainNone rfl⟩
  have admitted := entry.act 0 ⟨"tenant-a",.admitted 0⟩ rfl ⟨rfl,.insert rfl rfl⟩
  have permitted := admitted.act 0 ⟨"tenant-a",.permitted 0⟩ rfl
    ⟨rfl,.tried rfl (by decide)⟩
  have accepted := permitted.act 0 ⟨"tenant-a",.accepted 0⟩ rfl
    ⟨rfl,.globally (by decide)⟩
  exact accepted.act 0 ⟨"tenant-a",.live 0⟩ rfl ⟨rfl,.accepted⟩

theorem acquire_bounded_example :
    admittedOnce.tasks.countP (Task.live "tenant-a") ≤ 1 ∧ GivenBack admittedOnce := by
  obtain ⟨live,-,-,-,givenBack,-⟩ := acquire_bounded admittedOnce_reachable
  exact ⟨live "tenant-a",givenBack⟩

end GaugeMesh.Admission
