import GaugeMesh.Pool.ProcessPool

/-! What holds of the pool however its clients interleave: slots, references and guards are
accounted for, and an entry outlives every permit that was given out for it. -/
namespace GaugeMesh.Pool
open Interleaving

namespace Activity

/-- A slot that was taken and is in no entry. -/
def hasSlot : Activity → Bool
  | enter (.slotted _) | inLine (.slotted _) | guard true _ | returnSlot _ => true
  | _ => false

/-- The permit whose release has yet to be accounted for. -/
def releasing? : Activity → Option ProcessPermit
  | enter (.release permit) | inLine (.release permit) => some permit
  | _ => none

def releases (key : ProcessKey) (activity : Activity) : Bool :=
  activity.releasing?.any fun permit => permit.key = key

/-- At work with the lock of the entries. -/
def locked : Activity → Bool
  | guard .. | reaping .. => true
  | _ => false

end Activity

namespace ProcessPool

/-- The permits of a key that no client is releasing. -/
def held (s : ProcessPool) (key : ProcessKey) : Nat :=
  s.permits.countP (·.2.key = key) + s.dropped.countP (·.key = key)

def references (s : ProcessPool) (key : ProcessKey) : Nat :=
  ((s.entries.lookup key).map PoolEntry.references).getD 0

def guards (s : ProcessPool) (m : Nat) : Nat := s.permits.countP (·.2.serialization = some m)

def mutexHeld (s : ProcessPool) (m : Nat) : Bool := (s.mutexes[m]?).getD false

end ProcessPool

/-- The acquired and not yet released permits of a key. -/
def unreleased (c : Crowd ProcessPool Activity) (key : ProcessKey) : Nat :=
  c.state.held key + c.tasks.countP (Activity.releases key)

/-- A permit that was acquired and not yet released. -/
def Outstanding (c : Crowd ProcessPool Activity) (permit : ProcessPermit) : Prop :=
  (∃ i, (i,permit) ∈ c.state.permits) ∨ permit ∈ c.state.dropped ∨
    ∃ (i : Nat) (activity : Activity), c.tasks[i]? = some activity ∧
      activity.releasing? = some permit

structure Sound (maxProcesses : Nat) (c : Crowd ProcessPool Activity) : Prop where
  slots : c.state.slots + c.state.entries.length + c.tasks.countP Activity.hasSlot = maxProcesses
  distinct : Keyed.Distinct c.state.entries
  references : ∀ key, c.state.references key = unreleased c key
  head : ∀ (i : Nat) activity, c.tasks[i]? = some activity → activity.locked = true →
    c.state.line.head? = some i
  known : ∀ key entry, c.state.entries.lookup key = some entry →
    entry.serialization < c.state.mutexes.length
  guards : ∀ m, c.state.guards m = (c.state.mutexHeld m).toNat
  own : ∀ i permit m, (i,permit) ∈ c.state.permits → permit.serialization = some m →
    ∃ entry, c.state.entries.lookup permit.key = some entry ∧ entry.serialization = m
  generations : ∀ permit, Outstanding c permit →
    ∃ entry, c.state.entries.lookup permit.key = some entry ∧
      permit.generation ≤ entry.generation
  reaping : ∀ (i : Nat) expired left, c.tasks[i]? = some (.reaping expired left) →
    ∀ key ∈ left, unreleased c key = 0

theorem unreleased_pos {c : Crowd ProcessPool Activity} {permit : ProcessPermit}
    (outstanding : Outstanding c permit) : 0 < unreleased c permit.key := by
  rcases outstanding with ⟨i,member⟩ | member | ⟨i,activity,here,releasing⟩
  · have := List.countP_pos_iff (p := fun q : Nat × ProcessPermit => q.2.key = permit.key)
      |>.mpr ⟨_,member,by simp⟩
    simp only [unreleased,ProcessPool.held]
    omega
  · have := List.countP_pos_iff (p := fun q : ProcessPermit => q.key = permit.key)
      |>.mpr ⟨_,member,by simp⟩
    simp only [unreleased,ProcessPool.held]
    omega
  · have := countP_pos_of_getElem? (p := Activity.releases permit.key) here
      (by simp [Activity.releases,releasing])
    simp only [unreleased]
    omega

variable {i : Nat} {s t : ProcessPool} {p q : Activity}

/-- The slots that are free, in an entry or in the hands of the client stay as many. -/
theorem Act.slots (acted : Act i s p t q) (distinct : Keyed.Distinct s.entries) :
    t.slots + t.entries.length + q.hasSlot.toNat =
      s.slots + s.entries.length + p.hasSlot.toNat := by
  cases acted
  case remove key left =>
    have removed : (Keyed.remove key s.entries).length +
        ((s.entries.lookup key).isSome).toNat = s.entries.length := Keyed.length_remove distinct
    simp only [ProcessPool.remove,Activity.hasSlot]
    omega
  case queue work => cases work <;> rfl
  case reference slotted _ _ _ =>
    cases slotted <;> simp [Activity.hasSlot,Activity.referenced,Section.lookup]
  case guarded slotted _ _ =>
    cases slotted <;> simp [Activity.hasSlot,Activity.referenced]
  case await slotted _ _ _ => cases slotted <;> rfl
  case crashed key own =>
    rcases s.recordCrash_cases key with same | same <;> simp [same,Activity.hasSlot]
  all_goals
    simp [Activity.hasSlot] <;> omega

theorem Abandon.slots (left : Abandon i s p t q) :
    t.slots = s.slots ∧ t.entries = s.entries ∧ q.hasSlot = p.hasSlot := by
  cases left
  case enter work => cases work <;> exact ⟨rfl,rfl,rfl⟩
  case inLine work => cases work <;> exact ⟨rfl,rfl,rfl⟩
  case guard key slotted => cases slotted <;> exact ⟨rfl,rfl,rfl⟩
  all_goals exact ⟨rfl,rfl,rfl⟩

/-- The references of a key stay as many as its permits. -/
theorem Act.balance (acted : Act i s p t q) (key : ProcessKey)
    (share : (p.releases key).toNat ≤ s.references key)
    (reaping : ∀ expired left, p = .reaping expired (key :: left) → s.references key = 0) :
    t.references key + s.held key + (p.releases key).toNat =
      s.references key + t.held key + (q.releases key).toNat := by
  cases acted
  case queue work => cases work <;> rfl
  case insert name own none =>
    by_cases same : key = name
    · subst same
      simp [ProcessPool.references,ProcessPool.held,Activity.releases,Activity.releasing?,
        Keyed.lookup_add none,ProcessPool.insertedPermit,none]
      omega
    · have other : ¬name = key := fun equal => same equal.symm
      simp [ProcessPool.references,ProcessPool.held,Activity.releases,Activity.releasing?,
        Keyed.lookup_add none,ProcessPool.insertedPermit,same,other]
  case reference entry name slotted plain own found =>
    by_cases same : key = name
    · subst same
      cases slotted <;> simp [ProcessPool.references,ProcessPool.held,Activity.releases,
        Activity.releasing?,Activity.referenced,Section.lookup,found,PoolEntry.reference] <;> omega
    · have other : ¬name = key := fun equal => same equal.symm
      cases slotted <;> simp [ProcessPool.references,ProcessPool.held,Activity.releases,
        Activity.releasing?,Activity.referenced,Section.lookup,Keyed.lookup_update,same,other]
  case await name entry slotted _ _ _ => cases slotted <;> rfl
  case guarded entry name slotted found free =>
    by_cases same : key = name
    · subst same
      cases slotted <;> simp [ProcessPool.references,ProcessPool.held,Activity.releases,
        Activity.releasing?,Activity.referenced,found,PoolEntry.reference] <;> omega
    · have other : ¬name = key := fun equal => same equal.symm
      cases slotted <;> simp [ProcessPool.references,ProcessPool.held,Activity.releases,
        Activity.releasing?,Activity.referenced,Keyed.lookup_update,same,other]
  case release permit answer held =>
    have erased := countP_erase held fun q => q.2.key = key
    simp [ProcessPool.references,ProcessPool.held,Activity.releases,Activity.releasing?]
      at erased ⊢
    omega
  case released permit own =>
    by_cases same : key = permit.key
    · subst same
      cases found : s.entries.lookup permit.key
      all_goals
        simp [ProcessPool.references,ProcessPool.held,Activity.releases,Activity.releasing?,
          PoolEntry.dereference,found] at share ⊢
      omega
    · have other : ¬permit.key = key := fun equal => same equal.symm
      simp [ProcessPool.references,ProcessPool.held,Activity.releases,Activity.releasing?,
        Keyed.lookup_update,same,other]
  case remove expired name left =>
    by_cases same : key = name
    · subst same
      have gone := reaping _ _ rfl
      rw [gone]
      simp [ProcessPool.references,ProcessPool.held,Activity.releases,Activity.releasing?]
    · simp [ProcessPool.references,ProcessPool.held,Activity.releases,Activity.releasing?,
        Keyed.lookup_remove,same]
  case crashed name own =>
    rcases s.recordCrash_cases name with same | same
    · simp [same,ProcessPool.references,ProcessPool.held,Activity.releases,Activity.releasing?]
    · by_cases asked : key = name <;>
        simp [same,asked,ProcessPool.references,ProcessPool.held,Activity.releases,
          Activity.releasing?,Keyed.lookup_update,Function.comp_def,PoolEntry.crash]
  all_goals rfl

/-- A dropped guard frees its lock. -/
theorem guards_freed {permit : ProcessPermit}
    (bits : ∀ m, s.guards m = (s.mutexHeld m).toNat) (held : (i,permit) ∈ s.permits)
    (erased : t.permits = s.permits.erase (i,permit))
    (freed : t.mutexes = permit.serialization.elim s.mutexes fun m => s.mutexes.set m false)
    (m : Nat) : t.guards m = (t.mutexHeld m).toNat := by
  have counted := countP_erase held fun q => q.2.serialization = some m
  have bit := bits m
  simp only [ProcessPool.guards,ProcessPool.mutexHeld] at bit ⊢
  rw [erased,freed]
  cases serialization : permit.serialization with
  | none =>
    simp only [serialization,reduceCtorEq,decide_false,Bool.toNat_false] at counted
    simp only [Option.elim_none]
    omega
  | some n =>
    simp only [Option.elim_some,List.getElem?_set]
    by_cases same : n = m
    · subst same
      simp only [serialization,decide_true,Bool.toNat_true] at counted
      have one := Bool.toNat_le ((s.mutexes[n]?).getD false)
      have none : (s.permits.erase (i,permit)).countP (fun q => q.2.serialization = some n) = 0 := by
        omega
      rw [none]
      by_cases bound : n < s.mutexes.length <;> simp [bound]
    · simp only [serialization,Option.some.injEq,same,decide_false,Bool.toNat_false] at counted
      simp only [if_neg same]
      omega

/-- A serialization lock is held exactly when one permit has its guard. -/
theorem Act.guards (acted : Act i s p t q) (bits : ∀ m, s.guards m = (s.mutexHeld m).toNat)
    (m : Nat) : t.guards m = (t.mutexHeld m).toNat := by
  have bit := bits m
  cases acted
  case insert key own none =>
    have fresh := bits s.mutexes.length
    rw [ProcessPool.mutexHeld,List.getElem?_eq_none (Nat.le_refl _)] at fresh
    simp only [ProcessPool.guards,ProcessPool.mutexHeld,ProcessPool.unlock,ProcessPool.insert,
      ProcessPool.insertedPermit,List.countP_cons,Option.getD_none,Bool.toNat_false] at bit fresh ⊢
    by_cases same : m = s.mutexes.length
    · subst same
      rw [fresh,List.getElem?_concat_length]
      cases needs : key.needsSerialization <;> simp
    · have other : ¬s.mutexes.length = m := fun equal => same equal.symm
      have kept : (s.mutexes ++ [key.needsSerialization])[m]?.getD false =
          s.mutexes[m]?.getD false := by
        rcases Nat.lt_or_gt_of_ne same with before | after
        · rw [List.getElem?_append_left before]
        · rw [List.getElem?_eq_none (by simp; omega),List.getElem?_eq_none (by omega)]
      rw [kept,bit]
      cases needs : key.needsSerialization <;> simp [other]
  case guarded entry name slotted found free =>
    have taken := bits entry.serialization
    simp only [ProcessPool.guards,ProcessPool.mutexHeld,ProcessPool.unlock,ProcessPool.reference,
      ProcessPool.lockMutex,List.countP_cons,free,Option.getD_some,Bool.toNat_false]
      at bit taken ⊢
    obtain ⟨bound,-⟩ := List.getElem?_eq_some_iff.mp free
    by_cases same : entry.serialization = m
    · subst same
      rw [taken,List.getElem?_set_self bound]
      simp
    · rw [List.getElem?_set_ne same,bit]
      simp [same]
  case release permit answer held => exact guards_freed bits held rfl rfl m
  case reference entry name slotted plain own found =>
    simpa [ProcessPool.guards,ProcessPool.mutexHeld] using bit
  case crashed name own =>
    rcases s.recordCrash_cases name with same | same <;> rw [same] <;> exact bit
  all_goals exact bit

/-- An entry as it was, but for its counters and a generation that may have grown. -/
def Carried (before after : PoolEntry) : Prop :=
  before.generation ≤ after.generation ∧ after.serialization = before.serialization

theorem carried_update {entries : List (ProcessKey × PoolEntry)} {key : ProcessKey}
    {entry : PoolEntry} (found : entries.lookup key = some entry) (name : ProcessKey)
    {change : PoolEntry → PoolEntry} (keeps : ∀ before, Carried before (change before)) :
    ∃ after, (Keyed.update name change entries).lookup key = some after ∧ Carried entry after := by
  rw [Keyed.lookup_update,found]
  by_cases same : key = name
  · exact ⟨change entry,by simp [same],keeps entry⟩
  · exact ⟨entry,by simp [same],Nat.le_refl _,rfl⟩

theorem carried_back {entries : List (ProcessKey × PoolEntry)} {key name : ProcessKey}
    {change : PoolEntry → PoolEntry} {after : PoolEntry}
    (found : (Keyed.update name change entries).lookup key = some after)
    (keeps : ∀ before, Carried before (change before)) :
    ∃ before, entries.lookup key = some before ∧ Carried before after := by
  rw [Keyed.lookup_update] at found
  by_cases same : key = name
  · rw [if_pos same] at found
    obtain ⟨before,here,rfl⟩ := Option.map_eq_some_iff.mp found
    exact ⟨before,here,keeps before⟩
  · rw [if_neg same] at found
    exact ⟨after,found,Nat.le_refl _,rfl⟩

theorem carried_reference (before : PoolEntry) : Carried before before.reference :=
  ⟨Nat.le_refl _,rfl⟩

theorem carried_dereference (now : Nat) (before : PoolEntry) :
    Carried before (before.dereference now) := ⟨Nat.le_refl _,rfl⟩

theorem carried_crash (before : PoolEntry) : Carried before before.crash := ⟨Nat.le_succ _,rfl⟩

/-- Only a reap takes an entry away. -/
theorem Act.carries (acted : Act i s p t q) {key : ProcessKey} {entry : PoolEntry}
    (found : s.entries.lookup key = some entry) :
    (∃ expired left, p = .reaping expired (key :: left)) ∨
      ∃ after, t.entries.lookup key = some after ∧ Carried entry after := by
  have kept : ∃ after, s.entries.lookup key = some after ∧ Carried entry after :=
    ⟨entry,found,Nat.le_refl _,rfl⟩
  cases acted
  case insert name own none =>
    have different : key ≠ name := by
      rintro rfl
      simp [none] at found
    refine .inr ⟨entry,?_,Nat.le_refl _,rfl⟩
    simp [Keyed.lookup_add none,different,found]
  case reference name _ _ _ _ => exact .inr (carried_update found _ carried_reference)
  case guarded name _ _ _ => exact .inr (carried_update found _ carried_reference)
  case released permit own => exact .inr (carried_update found _ (carried_dereference s.now))
  case remove expired name left =>
    by_cases same : key = name
    · exact .inl ⟨_,_,by rw [same]⟩
    · refine .inr ⟨entry,?_,Nat.le_refl _,rfl⟩
      simp [Keyed.lookup_remove_ne same,found]
  case crashed name own =>
    rcases s.recordCrash_cases name with same | same
    · rw [same]
      exact .inr kept
    · rw [same]
      exact .inr (carried_update found name carried_crash)
  all_goals exact .inr kept

/-- An entry found afterwards is an old one, or a client has put it in, with a new lock. -/
theorem Act.origin (acted : Act i s p t q) {key : ProcessKey} {after : PoolEntry}
    (found : t.entries.lookup key = some after) :
    (∃ before, s.entries.lookup key = some before ∧ Carried before after) ∨
      p = .inLine (.slotted key) ∧ after.serialization = s.mutexes.length ∧
        s.mutexes.length < t.mutexes.length := by
  have kept (old : s.entries.lookup key = some after) :
      ∃ before, s.entries.lookup key = some before ∧ Carried before after :=
    ⟨after,old,Nat.le_refl _,rfl⟩
  cases acted
  case insert name own none =>
    simp only [ProcessPool.unlock,ProcessPool.insert,Keyed.lookup_add none] at found
    by_cases same : key = name
    · subst same
      rw [if_pos rfl] at found
      obtain rfl := Option.some.inj found
      exact .inr ⟨rfl,rfl,by simp⟩
    · rw [if_neg same] at found
      exact .inl (kept found)
  case reference => exact .inl (carried_back found carried_reference)
  case guarded => exact .inl (carried_back found carried_reference)
  case released => exact .inl (carried_back found (carried_dereference s.now))
  case remove expired name left =>
    simp only [ProcessPool.remove,Keyed.lookup_remove] at found
    by_cases same : key = name
    · simp [same] at found
    · rw [if_neg same] at found
      exact .inl (kept found)
  case crashed name own =>
    rcases s.recordCrash_cases name with same | same <;> rw [same] at found
    · exact .inl (kept found)
    · exact .inl (carried_back found carried_crash)
  all_goals exact .inl (kept found)

theorem Act.mutexes (acted : Act i s p t q) : s.mutexes.length ≤ t.mutexes.length := by
  cases acted
  case insert => simp
  case guarded => simp
  case release permit _ _ => cases serialization : permit.serialization <;> simp
  case crashed name own =>
    rcases s.recordCrash_cases name with same | same <;> rw [same] <;> exact Nat.le_refl _
  all_goals exact Nat.le_refl _

theorem Act.known (acted : Act i s p t q)
    (known : ∀ key entry, s.entries.lookup key = some entry →
      entry.serialization < s.mutexes.length) (key : ProcessKey) (entry : PoolEntry)
    (found : t.entries.lookup key = some entry) : entry.serialization < t.mutexes.length := by
  rcases acted.origin found with ⟨before,old,carried⟩ | ⟨-,new,longer⟩
  · rw [carried.2]
    exact Nat.lt_of_lt_of_le (known key before old) acted.mutexes
  · rw [new]
    exact longer

/-- A permit that is out has been out, or its entry says so. -/
theorem Act.permits (acted : Act i s p t q) {j : Nat} {permit : ProcessPermit}
    (out : (j,permit) ∈ t.permits) :
    (j,permit) ∈ s.permits ∨
      ∃ entry, t.entries.lookup permit.key = some entry ∧ permit.generation ≤ entry.generation ∧
        ∀ m, permit.serialization = some m → entry.serialization = m := by
  cases acted
  case insert name own none =>
    rcases List.mem_cons.mp out with new | old
    · obtain ⟨-,rfl⟩ := Prod.mk.inj new
      refine .inr ⟨⟨1,1,2,.none,s.mutexes.length⟩,?_,Nat.le_refl _,?_⟩
      · simp [Keyed.lookup_add none,ProcessPool.insertedPermit]
      · intro m serialization
        simp only [ProcessPool.insertedPermit] at serialization
        split at serialization
        · exact Option.some.inj serialization
        · simp at serialization
    · exact .inl old
  case reference entry name slotted plain own found =>
    rcases List.mem_cons.mp out with new | old
    · obtain ⟨-,rfl⟩ := Prod.mk.inj new
      exact .inr ⟨entry.reference,by simp [found],Nat.le_refl _,fun m none => by simp at none⟩
    · exact .inl old
  case guarded entry name slotted found free =>
    rcases List.mem_cons.mp out with new | old
    · obtain ⟨-,rfl⟩ := Prod.mk.inj new
      exact .inr ⟨entry.reference,by simp [found],Nat.le_refl _,fun m same => Option.some.inj same⟩
    · exact .inl old
  case release permit' answer held => exact .inl (List.mem_of_mem_erase out)
  case crashed name own =>
    rcases s.recordCrash_cases name with same | same <;> rw [same] at out <;> exact .inl out
  all_goals exact .inl out

/-- A permit under release was out or under release before. -/
theorem Act.releasing (acted : Act i s p t q) {permit : ProcessPermit}
    (releasing : q.releasing? = some permit) :
    p.releasing? = some permit ∨ (i,permit) ∈ s.permits := by
  cases acted
  case queue work => cases work <;> simp_all [Activity.releasing?]
  case reference _ _ slotted _ _ _ =>
    cases slotted <;> simp [Activity.releasing?,Activity.referenced] at releasing
  case guarded _ _ slotted _ _ =>
    cases slotted <;> simp [Activity.releasing?,Activity.referenced] at releasing
  case release permit' answer held =>
    simp only [Activity.releasing?,Option.some.injEq] at releasing
    exact .inr (releasing ▸ held)
  all_goals simp [Activity.releasing?] at releasing

theorem Act.dropped (acted : Act i s p t q) : t.dropped = s.dropped := by
  cases acted
  case crashed name own => rcases s.recordCrash_cases name with same | same <;> rw [same] <;> rfl
  all_goals rfl

/-- The line grows at its end, and its head leaves it. -/
theorem Act.line (acted : Act i s p t q) :
    (t.line = s.line ∨ t.line = s.line ++ [i] ∨
        t.line = s.line.tail ∧ (s.line.head? = some i ∨ p.locked = true)) ∧
      (q.locked = true → t.line = s.line ∧ (s.line.head? = some i ∨ p.locked = true)) := by
  cases acted
  case reference _ _ slotted _ own _ =>
    refine ⟨.inr (.inr ⟨rfl,.inl own⟩),?_⟩
    cases slotted <;> simp [Activity.referenced,Activity.locked]
  case guarded _ _ slotted _ _ =>
    refine ⟨.inr (.inr ⟨rfl,.inr rfl⟩),?_⟩
    cases slotted <;> simp [Activity.referenced,Activity.locked]
  case crashed name own =>
    rcases s.recordCrash_cases name with same | same <;> simp [same,own,Activity.locked]
  all_goals simp_all [Activity.locked]

/-- Permits of a key come only from the client that has the lock. -/
theorem Act.weight (acted : Act i s p t q) (key : ProcessKey) :
    t.held key + (q.releases key).toNat ≤ s.held key + (p.releases key).toNat ∨
      s.line.head? = some i ∨ p.locked = true := by
  cases acted
  case queue work => cases work <;> exact .inl (Nat.le_refl _)
  case release permit answer held =>
    have erased := countP_erase held fun q => q.2.key = key
    simp [ProcessPool.held,Activity.releases,Activity.releasing?] at erased ⊢
    omega
  case guarded => exact .inr (.inr rfl)
  case remove => exact .inr (.inr rfl)
  case reaped => exact .inr (.inr rfl)
  all_goals first
    | exact .inr (.inl ‹_›)
    | exact .inl (Nat.le_refl _)

theorem Act.distinct (acted : Act i s p t q) (distinct : Keyed.Distinct s.entries) :
    Keyed.Distinct t.entries := by
  cases acted
  case insert key own none => exact distinct.add none
  case reference => exact distinct.update
  case guarded => exact distinct.update
  case released => exact distinct.update
  case remove => exact distinct.remove
  case crashed name own =>
    rcases s.recordCrash_cases name with same | same <;> rw [same]
    · exact distinct
    · exact distinct.update
  all_goals exact distinct

/-- The keys to be removed are the expired ones, or those left of them. -/
theorem Act.reaping (acted : Act i s p t q) {expired left : List ProcessKey}
    (reaping : q = .reaping expired left) :
    (∀ key, t.held key = s.held key) ∧ (∀ key, p.releases key = false) ∧
      (∀ key, q.releases key = false) ∧
      ((∃ now idleTtl, left = s.expired now idleTtl) ∨
        ∃ last, p = .reaping expired (last :: left)) := by
  cases acted
  case expire now idleTtl own =>
    obtain ⟨rfl,rfl⟩ := Activity.reaping.inj reaping
    exact ⟨fun _ => rfl,fun _ => rfl,fun _ => rfl,.inl ⟨now,idleTtl,rfl⟩⟩
  case remove =>
    obtain ⟨rfl,rfl⟩ := Activity.reaping.inj reaping
    exact ⟨fun _ => rfl,fun _ => rfl,fun _ => rfl,.inr ⟨_,rfl⟩⟩
  case reference _ _ slotted _ _ _ => cases slotted <;> simp [Activity.referenced] at reaping
  case guarded _ _ slotted _ _ => cases slotted <;> simp [Activity.referenced] at reaping
  all_goals simp at reaping

/-- An operation that is given up leaves the line, and its permit counts as before. -/
theorem Abandon.spec (given : Abandon i s p t q) :
    t.permits = s.permits ∧ t.mutexes = s.mutexes ∧ q.locked = false ∧ q.releasing? = none ∧
      t.dropped = p.releasing?.toList ++ s.dropped ∧
      (t.line = s.line ∨ t.line = s.line.erase i ∧ p.locked = false ∨
        t.line = s.line.tail ∧ p.locked = true) := by
  cases given
  case enter work => cases work <;> simp [Section.abandoned,Activity.locked,Activity.releasing?]
  case inLine work => cases work <;> simp [Section.abandoned,Activity.locked,Activity.releasing?]
  case guard key slotted => cases slotted <;> simp [Activity.locked,Activity.releasing?]
  all_goals simp [Activity.locked,Activity.releasing?]

/-- Without an operation permits only change hands. -/
theorem Drift.spec (drifted : Drift s t) (bits : ∀ m, s.guards m = (s.mutexHeld m).toNat) :
    t.line = s.line ∧ t.entries = s.entries ∧ t.slots = s.slots ∧
      t.mutexes.length = s.mutexes.length ∧ (∀ key, t.held key = s.held key) ∧
      (∀ m, t.guards m = (t.mutexHeld m).toNat) ∧
      (∀ j permit, (j,permit) ∈ t.permits → ∃ i, (i,permit) ∈ s.permits) ∧
      (∀ permit ∈ t.dropped, permit ∈ s.dropped ∨ ∃ i, (i,permit) ∈ s.permits) := by
  cases drifted
  case tick => exact ⟨rfl,rfl,rfl,rfl,fun _ => rfl,bits,fun j _ out => ⟨j,out⟩,fun _ => .inl⟩
  case hand i permit j held =>
    refine ⟨rfl,rfl,rfl,rfl,?_,?_,?_,fun _ => .inl⟩
    · intro key
      have erased := countP_erase held fun q => q.2.key = key
      simp only [ProcessPool.held,List.countP_cons]
      by_cases same : permit.key = key <;> simp [same] at erased ⊢ <;> omega
    · intro m
      have erased := countP_erase held fun q => q.2.serialization = some m
      have bit := bits m
      simp only [ProcessPool.guards,ProcessPool.mutexHeld,List.countP_cons] at bit ⊢
      by_cases same : permit.serialization = some m <;> simp [same] at erased ⊢ <;> omega
    · intro k other out
      rcases List.mem_cons.mp out with new | old
      · obtain ⟨-,rfl⟩ := Prod.mk.inj new
        exact ⟨i,held⟩
      · exact ⟨k,List.mem_of_mem_erase old⟩
  case drop i permit held =>
    refine ⟨rfl,rfl,rfl,?_,?_,guards_freed bits held rfl rfl,
      fun j other out => ⟨j,List.mem_of_mem_erase out⟩,?_⟩
    · cases serialization : permit.serialization <;> simp
    · intro key
      have erased := countP_erase held fun q => q.2.key = key
      simp only [ProcessPool.held,ProcessPool.freeMutex,List.countP_cons]
      by_cases same : permit.key = key <;> simp [same] at erased ⊢ <;> omega
    · intro other member
      rcases List.mem_cons.mp member with rfl | old
      · exact .inr ⟨i,held⟩
      · exact .inl old

variable {maxProcesses : Nat} {c : Crowd ProcessPool Activity}

theorem unreleased_moved (here : c.tasks[i]? = some p) (t : ProcessPool) (q : Activity)
    (key : ProcessKey) :
    unreleased ⟨t,c.tasks.set i q⟩ key + c.state.held key + (p.releases key).toNat =
      unreleased c key + t.held key + (q.releases key).toNat := by
  have moved := countP_moved here (Activity.releases key) q
  simp only [unreleased]
  omega

/-- The lock has one owner. -/
theorem Sound.owner (sound : Sound maxProcesses c) (here : c.tasks[i]? = some p)
    (owns : c.state.line.head? = some i ∨ p.locked = true) : c.state.line.head? = some i := by
  rcases owns with own | locked
  · exact own
  · exact sound.head i p here locked

/-- A client that is reaping keeps every other client from the lock. -/
theorem Sound.reaping_alone (sound : Sound maxProcesses c) (here : c.tasks[i]? = some p)
    {j : Nat} {other : Activity} (there : c.tasks[j]? = some other) (locked : other.locked = true)
    (owns : c.state.line.head? = some i ∨ p.locked = true) : j = i := by
  have own := sound.owner here owns
  have head := sound.head j other there locked
  rw [own] at head
  exact (Option.some.inj head).symm

theorem Sound.share (sound : Sound maxProcesses c) (here : c.tasks[i]? = some p)
    (key : ProcessKey) : (p.releases key).toNat ≤ c.state.references key := by
  have moved := countP_moved here (Activity.releases key) (.idle .nothing)
  have references := sound.references key
  simp only [unreleased] at references
  have none : Activity.releases key (.idle .nothing) = false := rfl
  rw [none,Bool.toNat_false] at moved
  omega

theorem Sound.head_kept (sound : Sound maxProcesses c) (here : c.tasks[i]? = some p)
    (grown : t.line = c.state.line ∨ t.line = c.state.line ++ [i] ∨
      (t.line = c.state.line.erase i ∧ p.locked = false) ∨
      t.line = c.state.line.tail ∧ (c.state.line.head? = some i ∨ p.locked = true))
    (own : q.locked = true →
      t.line = c.state.line ∧ (c.state.line.head? = some i ∨ p.locked = true))
    (j : Nat) (activity : Activity) (there : (c.tasks.set i q)[j]? = some activity)
    (locked : activity.locked = true) : t.line.head? = some j := by
  rcases getElem?_moved there with ⟨rfl,rfl⟩ | ⟨other,old⟩
  · obtain ⟨same,owns⟩ := own locked
    rw [same]
    exact sound.owner here owns
  · have head := sound.head j activity old locked
    cases line : c.state.line with
    | nil => simp [line] at head
    | cons first rest =>
      obtain rfl : first = j := by simpa [line] using head
      rcases grown with same | same | ⟨same,-⟩ | ⟨same,owns⟩
      · simp [same,line]
      · simp [same,line]
      · simp [same,line,other]
      · exact absurd (sound.reaping_alone here old locked owns) other

/-- No other client lets the keys under removal have permits again. -/
theorem Sound.reaping_other (sound : Sound maxProcesses c) (here : c.tasks[i]? = some p)
    (weight : ∀ key, t.held key + (q.releases key).toNat ≤
        c.state.held key + (p.releases key).toNat ∨
      c.state.line.head? = some i ∨ p.locked = true)
    {j : Nat} {expired left : List ProcessKey} (other : j ≠ i)
    (there : c.tasks[j]? = some (.reaping expired left)) (key : ProcessKey)
    (member : key ∈ left) : unreleased ⟨t,c.tasks.set i q⟩ key = 0 := by
  have none := sound.reaping j expired left there key member
  have moved := unreleased_moved here t q key
  rcases weight key with bound | owns
  · omega
  · exact absurd (sound.reaping_alone here there rfl owns) other

/-- The entry of a permit that is out is there after the step too. -/
theorem Sound.carried (sound : Sound maxProcesses c) (here : c.tasks[i]? = some p)
    (acted : Act i c.state p t q) {permit : ProcessPermit} (out : Outstanding c permit)
    {entry : PoolEntry} (found : c.state.entries.lookup permit.key = some entry) :
    ∃ after, t.entries.lookup permit.key = some after ∧ Carried entry after := by
  rcases acted.carries found with ⟨expired,left,rfl⟩ | kept
  · have none := sound.reaping i expired _ here permit.key List.mem_cons_self
    have some := unreleased_pos out
    omega
  · exact kept

/-- A key whose entry has no references has no permits. -/
theorem Sound.expired (sound : Sound maxProcesses c) {now idleTtl : Nat} {key : ProcessKey}
    (member : key ∈ c.state.expired now idleTtl) : unreleased c key = 0 := by
  obtain ⟨⟨name,entry⟩,filtered,rfl⟩ := List.mem_map.mp member
  obtain ⟨inside,idle⟩ := List.mem_filter.mp filtered
  have found := Keyed.lookup_of_mem sound.distinct inside
  simp only [PoolEntry.expired,Bool.and_eq_true,decide_eq_true_eq] at idle
  rw [← sound.references,ProcessPool.references,found]
  exact idle.1

theorem Sound.act (sound : Sound maxProcesses c) (here : c.tasks[i]? = some p)
    (acted : Act i c.state p t q) : Sound maxProcesses ⟨t,c.tasks.set i q⟩ where
  slots := by
    have slots := sound.slots
    have step := acted.slots sound.distinct
    have moved := countP_moved here Activity.hasSlot q
    dsimp only
    omega
  distinct := acted.distinct sound.distinct
  references key := by
    have references := sound.references key
    have moved := unreleased_moved here t q key
    have balance := acted.balance key (sound.share here key) (by
      rintro expired left rfl
      rw [references]
      exact sound.reaping i expired _ here key List.mem_cons_self)
    dsimp only
    omega
  head := by
    obtain ⟨line,own⟩ := acted.line
    refine sound.head_kept here ?_ own
    rcases line with same | same | same
    · exact .inl same
    · exact .inr (.inl same)
    · exact .inr (.inr (.inr same))
  known := acted.known sound.known
  guards := acted.guards sound.guards
  own j permit m out serialization := by
    rcases acted.permits out with old | ⟨entry,found,-,same⟩
    · obtain ⟨entry,found,rfl⟩ := sound.own j permit m old serialization
      obtain ⟨after,there,-,same⟩ := sound.carried here acted (.inl ⟨j,old⟩) found
      exact ⟨after,there,same⟩
    · exact ⟨entry,found,same m serialization⟩
  generations permit out := by
    have before : Outstanding c permit ∨ ∃ entry, t.entries.lookup permit.key = some entry ∧
        permit.generation ≤ entry.generation := by
      rcases out with ⟨j,out⟩ | out | ⟨j,activity,there,releasing⟩
      · rcases acted.permits out with old | ⟨entry,found,grown,-⟩
        · exact .inl (.inl ⟨j,old⟩)
        · exact .inr ⟨entry,found,grown⟩
      · exact .inl (.inr (.inl (acted.dropped ▸ out)))
      · rcases getElem?_moved there with ⟨rfl,rfl⟩ | ⟨other,old⟩
        · rcases acted.releasing releasing with old | old
          · exact .inl (.inr (.inr ⟨j,p,here,old⟩))
          · exact .inl (.inl ⟨j,old⟩)
        · exact .inl (.inr (.inr ⟨j,activity,old,releasing⟩))
    rcases before with old | new
    · obtain ⟨entry,found,bound⟩ := sound.generations permit old
      obtain ⟨after,there,grown,-⟩ := sound.carried here acted old found
      exact ⟨after,there,Nat.le_trans bound grown⟩
    · exact new
  reaping j expired left there key member := by
    rcases getElem?_moved there with ⟨rfl,same⟩ | ⟨other,old⟩
    · have moved := unreleased_moved here t q key
      obtain ⟨held,p_none,q_none,chosen⟩ := acted.reaping same.symm
      have before : unreleased c key = 0 := by
        rcases chosen with ⟨now,idleTtl,rfl⟩ | ⟨last,rfl⟩
        · exact sound.expired member
        · exact sound.reaping j _ _ here key (List.mem_cons_of_mem last member)
      have same := held key
      rw [p_none key,q_none key] at moved
      omega
    · exact sound.reaping_other here acted.weight other old key member

theorem Sound.abandon (sound : Sound maxProcesses c) (here : c.tasks[i]? = some p)
    (given : Abandon i c.state p t q) : Sound maxProcesses ⟨t,c.tasks.set i q⟩ := by
  obtain ⟨slots,entries,slot⟩ := given.slots
  obtain ⟨permits,mutexes,unlocked,none,dropped,line⟩ := given.spec
  have weight (key : ProcessKey) : t.held key + (q.releases key).toNat =
      c.state.held key + (p.releases key).toNat := by
    simp only [ProcessPool.held,permits,dropped,Activity.releases,none]
    cases p.releasing? with
    | none => simp
    | some permit =>
      by_cases same : permit.key = key <;> simp [same]
      omega
  have counted (key : ProcessKey) : unreleased ⟨t,c.tasks.set i q⟩ key = unreleased c key := by
    have moved := unreleased_moved here t q key
    have := weight key
    omega
  exact {
    slots := by
      have moved := countP_moved here Activity.hasSlot q
      have := sound.slots
      rw [slot] at moved
      simp only [slots,entries]
      omega
    distinct := by simpa only [entries] using sound.distinct
    references := by
      intro key
      rw [counted,← sound.references]
      simp only [ProcessPool.references,entries]
    head := by
      refine sound.head_kept here ?_ (by simp [unlocked])
      rcases line with same | same | ⟨same,locked⟩
      · exact .inl same
      · exact .inr (.inr (.inl same))
      · exact .inr (.inr (.inr ⟨same,.inr locked⟩))
    known := by simpa only [entries,mutexes] using sound.known
    guards := by
      simpa only [ProcessPool.guards,ProcessPool.mutexHeld,permits,mutexes] using sound.guards
    own := by simpa only [permits,entries] using sound.own
    generations := by
      intro permit out
      simp only [entries]
      refine sound.generations permit ?_
      rcases out with ⟨j,out⟩ | out | ⟨j,activity,there,releasing⟩
      · exact .inl ⟨j,permits ▸ out⟩
      · rcases List.mem_append.mp (dropped ▸ out) with now | old
        · exact .inr (.inr ⟨i,p,here,by simpa using now⟩)
        · exact .inr (.inl old)
      · rcases getElem?_moved there with ⟨rfl,rfl⟩ | ⟨other,old⟩
        · simp [none] at releasing
        · exact .inr (.inr ⟨j,activity,old,releasing⟩)
    reaping := by
      intro j expired left there key member
      rcases getElem?_moved there with ⟨rfl,rfl⟩ | ⟨other,old⟩
      · simp [Activity.locked] at unlocked
      · exact sound.reaping_other here (fun key => .inl (Nat.le_of_eq (weight key))) other old key
          member }

theorem Sound.drift (sound : Sound maxProcesses c) (drifted : Drift c.state t) :
    Sound maxProcesses ⟨t,c.tasks⟩ := by
  obtain ⟨line,entries,slots,mutexes,held,guards,permits,dropped⟩ := drifted.spec sound.guards
  have counted (key : ProcessKey) : unreleased ⟨t,c.tasks⟩ key = unreleased c key := by
    simp only [unreleased,held]
  exact {
    slots := by simpa only [slots,entries] using sound.slots
    distinct := by simpa only [entries] using sound.distinct
    references := by
      intro key
      rw [counted,← sound.references]
      simp only [ProcessPool.references,entries]
    head := by simpa only [line] using sound.head
    known := by simpa only [entries,mutexes] using sound.known
    guards := guards
    own := by
      intro j permit m out serialization
      obtain ⟨i,old⟩ := permits j permit out
      simpa only [entries] using sound.own i permit m old serialization
    generations := by
      intro permit out
      simp only [entries]
      refine sound.generations permit ?_
      rcases out with ⟨j,out⟩ | out | out
      · exact .inl (permits j permit out)
      · rcases dropped permit out with old | old
        · exact .inr (.inl old)
        · exact .inl old
      · exact .inr (.inr out)
    reaping := by
      intro j expired left there key member
      rw [counted]
      exact sound.reaping j expired left there key member }

theorem Sound.begin (sound : Sound maxProcesses c) :
    Sound maxProcesses ⟨c.state,c.tasks ++ [.idle .nothing]⟩ := by
  have counted (key : ProcessKey) :
      unreleased ⟨c.state,c.tasks ++ [.idle .nothing]⟩ key = unreleased c key := by
    simp only [unreleased,countP_begun c.tasks (Activity.releases key) (t := .idle .nothing) rfl]
  exact { sound with
    slots := by
      rw [countP_begun _ _ rfl]
      exact sound.slots
    references := by
      intro key
      rw [counted]
      exact sound.references key
    head := by
      intro i activity there locked
      rcases getElem?_begun there with old | ⟨-,rfl⟩
      · exact sound.head i activity old locked
      · simp [Activity.locked] at locked
    generations := by
      intro permit out
      refine sound.generations permit ?_
      rcases out with out | out | ⟨i,activity,there,releasing⟩
      · exact .inl out
      · exact .inr (.inl out)
      · rcases getElem?_begun there with old | ⟨-,rfl⟩
        · exact .inr (.inr ⟨i,activity,old,releasing⟩)
        · simp [Activity.releasing?] at releasing
    reaping := by
      intro i expired left there key member
      rw [counted]
      rcases getElem?_begun there with old | ⟨-,same⟩
      · exact sound.reaping i expired left old key member
      · simp at same }

theorem Sound.kept {d : Crowd ProcessPool Activity} (sound : Sound maxProcesses c)
    (stepped : (pool maxProcesses).Step c d) : Sound maxProcesses d := by
  cases stepped with
  | begin fresh =>
    obtain rfl := fresh
    exact sound.begin
  | act here acted =>
    rcases acted with acted | given
    · exact sound.act here acted
    · exact sound.abandon here given
  | drift moved => exact sound.drift moved

theorem sound_of_reachable (reachable : (pool maxProcesses).Reachable c) : Sound maxProcesses c := by
  refine reachable.invariant (Sound maxProcesses) ?_ fun c d sound stepped => sound.kept stepped
  intro s bounded
  simp only [pool,ProcessPool.bounded] at bounded
  split at bounded
  · obtain rfl := Option.some.inj bounded
    constructor <;> simp [Keyed.Distinct,ProcessPool.references,unreleased,ProcessPool.held,
      ProcessPool.guards,ProcessPool.mutexHeld,Outstanding]
  · simp at bounded

/-- The permits of a key that have the guard of its entry. -/
def guarding (c : Crowd ProcessPool Activity) (key : ProcessKey) : Nat :=
  c.state.permits.countP fun q => q.2.key = key && q.2.serialization.isSome

theorem Sound.guarding_le (sound : Sound maxProcesses c) (key : ProcessKey) :
    guarding c key ≤ 1 := by
  by_cases empty : guarding c key = 0
  · omega
  obtain ⟨⟨j,permit⟩,member,guards⟩ := List.countP_pos_iff.mp (Nat.pos_of_ne_zero empty)
  simp only [Bool.and_eq_true,decide_eq_true_eq,Option.isSome_iff_exists] at guards
  obtain ⟨rfl,m,serialization⟩ := guards
  obtain ⟨entry,found,rfl⟩ := sound.own j permit m member serialization
  -- All of them have the guard of the one entry there is.
  have mono : guarding c permit.key ≤ c.state.guards entry.serialization := by
    apply List.countP_mono_left
    rintro ⟨k,other⟩ inside guards
    simp only [Bool.and_eq_true,decide_eq_true_eq,Option.isSome_iff_exists] at guards
    obtain ⟨same,n,serialization'⟩ := guards
    obtain ⟨entry',found',rfl⟩ := sound.own k other n inside serialization'
    rw [same,found] at found'
    obtain rfl := Option.some.inj found'
    simpa using serialization'
  have bit := sound.guards entry.serialization
  have one := Bool.toNat_le (c.state.mutexHeld entry.serialization)
  omega

/-- An entry with an unreleased permit survives every step, and its generation does not fall. -/
theorem Sound.survives {d : Crowd ProcessPool Activity} (sound : Sound maxProcesses c)
    (stepped : (pool maxProcesses).Step c d) {key : ProcessKey} {entry : PoolEntry}
    (found : c.state.entries.lookup key = some entry) (out : 0 < unreleased c key) :
    ∃ after, d.state.entries.lookup key = some after ∧ Carried entry after := by
  have same : ∃ after, c.state.entries.lookup key = some after ∧ Carried entry after :=
    ⟨entry,found,Nat.le_refl _,rfl⟩
  cases stepped
  case begin fresh => exact same
  case act i activity t next here acted =>
    rcases acted with acted | given
    · rcases acted.carries found with ⟨expired,left,rfl⟩ | kept
      · have none := sound.reaping i expired _ here key List.mem_cons_self
        omega
      · exact kept
    · simpa only [given.slots.2.1] using same
  case drift moved => simpa only [(moved.spec sound.guards).2.1] using same

theorem pool_safe (reachable : (pool maxProcesses).Reachable c) :
    c.state.entries.length ≤ maxProcesses ∧
    (∀ key entry, (key,entry) ∈ c.state.entries → entry.references = unreleased c key) ∧
    (∀ key, key.needsSerialization = true → guarding c key ≤ 1) ∧
    (∀ permit, Outstanding c permit → ∃ entry, (permit.key,entry) ∈ c.state.entries ∧
      permit.generation ≤ entry.generation) ∧
    (∀ d, (pool maxProcesses).Step c d → ∀ key entry, (key,entry) ∈ c.state.entries →
      0 < unreleased c key → ∃ after, (key,after) ∈ d.state.entries ∧
        entry.generation ≤ after.generation) := by
  have sound := sound_of_reachable reachable
  refine ⟨?_,?_,?_,?_,?_⟩
  · have slots := sound.slots
    omega
  · intro key entry member
    have references := sound.references key
    simpa [ProcessPool.references,Keyed.lookup_of_mem sound.distinct member] using references
  · intro key _
    exact sound.guarding_le key
  · intro permit out
    obtain ⟨entry,found,bound⟩ := sound.generations permit out
    exact ⟨entry,Keyed.mem_of_lookup found,bound⟩
  · intro d stepped key entry member out
    have found := Keyed.lookup_of_mem sound.distinct member
    obtain ⟨after,there,grown,-⟩ := sound.survives stepped found out
    exact ⟨after,Keyed.mem_of_lookup there,grown⟩

/-- A key of the class whose users take turns. -/
def serializedKey : ProcessKey :=
  ⟨.default,"server","2026-07-28","tenant-a",.default,.default,.shareableWithSerialization,none,none⟩

/-- One client that has acquired it. -/
def acquiredOnce : Crowd ProcessPool Activity :=
  ⟨⟨[],[(serializedKey,⟨1,1,2,none,0⟩)],0,[],[true],[(0,⟨serializedKey,1,some 0⟩)],[],0⟩,
    [.idle (.acquired (.ok ⟨serializedKey,1,some 0⟩))]⟩

theorem serializedKey_valid : serializedKey.validate = .ok () := by decide

theorem acquires_once (slots : Nat) : (pool (slots + 1)).Reachable
    ⟨⟨[],[(serializedKey,⟨1,1,2,none,0⟩)],slots,[],[true],[(0,⟨serializedKey,1,some 0⟩)],[],0⟩,
      [.idle (.acquired (.ok ⟨serializedKey,1,some 0⟩))]⟩ := by
  have start : (pool (slots + 1)).Reachable ⟨⟨[],[],slots + 1,[],[],[],[],0⟩,[]⟩ := .initial rfl
  have begun := start.begin (.idle .nothing) rfl
  have called := begun.act 0 (.enter (.existing serializedKey)) rfl
    (.inl (.acquire serializedKey_valid))
  have inLine := called.act 0 (.inLine (.existing serializedKey)) rfl (.inl .queue)
  have missed := inLine.act 0 (.wantSlot serializedKey) rfl (.inl (.missing rfl rfl))
  have slotted := missed.act 0 (.enter (.slotted serializedKey)) rfl
    (.inl (.takeSlot (Nat.succ_pos slots)))
  have again := slotted.act 0 (.inLine (.slotted serializedKey)) rfl (.inl .queue)
  exact again.act 0 (.idle (.acquired (.ok ⟨serializedKey,1,some 0⟩))) rfl
    (.inl (.insert rfl rfl))

theorem acquiredOnce_reachable : (pool 1).Reachable acquiredOnce := acquires_once 0

theorem pool_safe_example :
    acquiredOnce.state.entries.length ≤ 1 ∧ guarding acquiredOnce serializedKey ≤ 1 := by
  obtain ⟨bound,-,guards,-⟩ := pool_safe acquiredOnce_reachable
  exact ⟨bound,guards serializedKey rfl⟩

end GaugeMesh.Pool
