import GaugeMesh.Pool.Line
import Mathlib.Logic.Relation

/-! Keys are isolated: an acquire waits for no client that waits for the guard of another key, as
long as nobody who has a guard that is sought is busy with something else. -/
namespace GaugeMesh.Pool
open Interleaving

namespace Activity

/-- The key of the acquire under way. -/
def acquiring? : Activity → Option ProcessKey
  | enter (.existing key) | enter (.slotted key) | inLine (.existing key) | inLine (.slotted key)
  | guard _ key | wantSlot key | awaitSlot key => some key
  | _ => none

/-- Between two operations, but for a slot that is still to be given back. -/
def atRest : Activity → Bool
  | idle _ | returnSlot _ => true
  | _ => false

end Activity

/-- What an operation does next; a wait for a slot may also be over. -/
inductive Move (i : Nat) : ProcessPool → Activity → ProcessPool → Activity → Prop
  | act (acted : Act i s p t q) : Move i s p t q
  | timeout : Move i s (.awaitSlot key) { s with slotLine := s.slotLine.erase i }
      (.idle (.acquired (.error .capacityTimeout)))

/-- At the guard of a key other than `key`, while somebody has it. -/
def Blocked (s : ProcessPool) (key : ProcessKey) (activity : Activity) : Prop :=
  ∃ slotted other entry, activity = .guard slotted other ∧ other ≠ key ∧
    s.entries.lookup other = some entry ∧ s.mutexes[entry.serialization]? = some true

/-- What the clients can bring about for client `i`, which acquires `key`, by operations of which
none waits for the guard of another key. -/
inductive Aided (i : Nat) (key : ProcessKey) (c : Crowd ProcessPool Activity) :
    Crowd ProcessPool Activity → Prop
  | start : Aided i key c c
  | move (before : Aided i key c d) (here : d.tasks[j]? = some p) (moved : Move j d.state p t q)
      (free : j ≠ i → (∀ first, c.tasks[j]? = some first → ¬Blocked c.state key first) ∧
        ¬Blocked t key q) : Aided i key c ⟨t,d.tasks.set j q⟩

/-- Client `i` waits for client `j`: it stands behind it in the line, or `j` has its guard. -/
def Awaits (c : Crowd ProcessPool Activity) (i j : Nat) : Prop :=
  i ∈ c.state.line ∧ c.state.line.idxOf j < c.state.line.idxOf i ∨
    ∃ slotted key permit, c.tasks[i]? = some (.guard slotted key) ∧ (j,permit) ∈ c.state.permits ∧
      permit.key = key ∧ permit.serialization.isSome

/-- The key has an entry, and no client has its guard. -/
def Unguarded (s : ProcessPool) (key : ProcessKey) : Prop :=
  (∃ entry, s.entries.lookup key = some entry) ∧
    ∀ i permit, (i,permit) ∈ s.permits → permit.key = key → permit.serialization = none

/-- What an acquire comes to: a permit, unless it had found no entry and waits for a slot while
there is none. -/
def Served (c : Crowd ProcessPool Activity) (activity : Activity) (key : ProcessKey)
    (result : Except PoolError ProcessPermit) : Prop :=
  (∃ permit, result = .ok permit ∧ permit.key = key) ∨
    result = .error .capacityTimeout ∧ c.state.slots = 0 ∧
      (activity = .wantSlot key ∨ activity = .awaitSlot key)

structure Isolated (c : Crowd ProcessPool Activity) : Prop where
  completes : ∀ i activity key, c.tasks[i]? = some activity → activity.acquiring? = some key →
    Unguarded c.state key ∨ 0 < c.state.slots →
      ∃ d result, Aided i key c d ∧ d.tasks[i]? = some (.idle (.acquired result)) ∧
        Served c activity key result
  acyclic : ∀ i, ¬Relation.TransGen (Awaits c) i i

/-- Client `k` has the guard of a key that is being acquired. -/
def Sought (c : Crowd ProcessPool Activity) (k : Nat) (permit : ProcessPermit) : Prop :=
  (k,permit) ∈ c.state.permits ∧ permit.serialization.isSome ∧
    ∃ (i : Nat) (activity : Activity), c.tasks[i]? = some activity ∧
      activity.acquiring? = some permit.key

/-- Who has a guard that is sought is between two operations and has no other such guard, and no
client has come to await it with the lock of the entries. -/
structure Orderly (c : Crowd ProcessPool Activity) : Prop where
  rest : ∀ k permit, Sought c k permit → ∃ activity, c.tasks[k]? = some activity ∧
    activity.atRest = true
  single : ∀ k permit other, Sought c k permit → Sought c k other → other.key = permit.key
  unawaited : ∀ k permit (i : Nat) slotted, Sought c k permit →
    c.tasks[i]? ≠ some (Activity.guard slotted permit.key)

variable {maxProcesses : Nat} {c d : Crowd ProcessPool Activity} {i j : Nat} {s t : ProcessPool}
  {p q : Activity} {key : ProcessKey}

/-- What is known of a crowd from which an acquire can be helped on. -/
structure Ready (maxProcesses : Nat) (c : Crowd ProcessPool Activity) : Prop where
  sound : Sound maxProcesses c
  lined : Lined c
  orderly : Orderly c

theorem Activity.not_atRest (acquiring : p.acquiring? = some key) : p.atRest = false := by
  cases p <;> simp_all [Activity.acquiring?,Activity.atRest]

/-- A move keeps order if it makes no new key sought, if whoever still has a sought guard is at
rest after it, and if it brings no client to a guard that is held. -/
theorem Orderly.kept (orderly : Orderly c) (sound : Sound maxProcesses c)
    (here : c.tasks[j]? = some p)
    (acquiring : ∀ key, q.acquiring? = some key → p.acquiring? = some key)
    (permits : ∀ k permit, (k,permit) ∈ t.permits → permit.serialization.isSome →
      (k,permit) ∈ c.state.permits ∨ k = j ∧ q.atRest = true ∧ p.acquiring? = some permit.key ∧
        (c.state.line.head? = some j ∨ p.locked = true))
    (rest : ∀ permit, (j,permit) ∈ t.permits → Sought c j permit → q.atRest = true)
    (free : ∀ slotted key, q = .guard slotted key → ∀ k permit, (k,permit) ∈ t.permits →
      permit.key = key → permit.serialization = none) : Orderly ⟨t,c.tasks.set j q⟩ := by
  have earlier {k : Nat} {permit : ProcessPermit} (sought : Sought ⟨t,c.tasks.set j q⟩ k permit) :
      ∃ (i : Nat) (activity : Activity), c.tasks[i]? = some activity ∧
        activity.acquiring? = some permit.key := by
    obtain ⟨-,-,i,activity,there,about⟩ := sought
    rcases getElem?_moved there with ⟨rfl,rfl⟩ | ⟨-,old⟩
    · exact ⟨i,p,here,acquiring permit.key about⟩
    · exact ⟨i,activity,old,about⟩
  have old {k : Nat} {permit : ProcessPermit} (sought : Sought ⟨t,c.tasks.set j q⟩ k permit) :
      Sought c k permit ∨ k = j ∧ q.atRest = true ∧ p.acquiring? = some permit.key ∧
        (c.state.line.head? = some j ∨ p.locked = true) := by
    rcases permits k permit sought.1 sought.2.1 with before | new
    · exact .inl ⟨before,sought.2.1,earlier sought⟩
    · exact .inr new
  -- A client that acquires has no guard that is sought.
  have none {permit : ProcessPermit} {key : ProcessKey} (sought : Sought c j permit)
      (about : p.acquiring? = some key) : False := by
    obtain ⟨activity,there,rest⟩ := orderly.rest j permit sought
    rw [here] at there
    obtain rfl := Option.some.inj there
    simp [Activity.not_atRest about] at rest
  refine ⟨fun k permit sought => ?_,fun k permit other sought sought' => ?_,
    fun k permit i slotted sought there => ?_⟩
  · have bound : j < c.tasks.length := (List.getElem?_eq_some_iff.mp here).choose
    have mine (rest : q.atRest = true) :
        ∃ activity, (c.tasks.set j q)[j]? = some activity ∧ activity.atRest = true :=
      ⟨q,by simp [bound],rest⟩
    rcases old sought with before | ⟨rfl,rest,-,-⟩
    · by_cases same : k = j
      · subst same
        exact mine (rest permit sought.1 before)
      · obtain ⟨activity,there,rest⟩ := orderly.rest k permit before
        exact ⟨activity,by rw [List.getElem?_set_ne (Ne.symm same),there],rest⟩
    · exact mine rest
  · rcases old sought with before | ⟨rfl,-,about,-⟩
    · rcases old sought' with before' | ⟨rfl,-,about,-⟩
      · exact orderly.single k permit other before before'
      · exact (none before about).elim
    · rcases old sought' with before' | ⟨-,-,about',-⟩
      · exact (none before' about).elim
      · rw [about] at about'
        exact (Option.some.inj about').symm
  · rcases getElem?_moved there with ⟨rfl,rfl⟩ | ⟨other,before⟩
    · have unguarded := free slotted permit.key rfl k permit sought.1 rfl
      simpa [unguarded] using sought.2.1
    · rcases old sought with sought | ⟨-,-,-,owns⟩
      · exact orderly.unawaited k permit i slotted sought before
      · exact other (sound.reaping_alone here before rfl owns)

/-- What a client does in the middle of an operation, but for one that comes to a held guard. -/
def Calm (s : ProcessPool) (p q : Activity) : Prop :=
  (∀ answer, p ≠ .idle answer) ∧
    ∀ slotted key, q = .guard slotted key → ∀ k permit, (k,permit) ∈ s.permits →
      permit.key = key → permit.serialization = none

theorem Act.acquiring (acted : Act i s p t q) (busy : ∀ answer, p ≠ .idle answer)
    (acquiring : q.acquiring? = some key) : p.acquiring? = some key := by
  cases acted
  case queue work => cases work <;> exact acquiring
  case reference slotted _ _ _ =>
    cases slotted <;> simp [Activity.referenced,Activity.acquiring?] at acquiring
  case await slotted _ _ _ => cases slotted <;> exact acquiring
  case guarded slotted _ _ =>
    cases slotted <;> simp [Activity.referenced,Activity.acquiring?] at acquiring
  case acquire => exact absurd rfl (busy _)
  all_goals first
    | exact acquiring
    | simp [Activity.acquiring?] at acquiring

/-- A permit with a guard comes to the client that acquires its key, which has the lock of the
entries and is at rest then. -/
theorem Act.guardPermit (acted : Act i s p t q) {k : Nat} {permit : ProcessPermit}
    (out : (k,permit) ∈ t.permits) (guard : permit.serialization.isSome) :
    (k,permit) ∈ s.permits ∨ k = i ∧ q.atRest = true ∧ p.acquiring? = some permit.key ∧
      (s.line.head? = some i ∨ p.locked = true) := by
  cases acted
  case insert key own none =>
    rcases List.mem_cons.mp out with new | old
    · obtain ⟨rfl,rfl⟩ := Prod.mk.inj new
      exact .inr ⟨rfl,rfl,rfl,.inl own⟩
    · exact .inl old
  case reference entry key slotted plain own found =>
    rcases List.mem_cons.mp out with new | old
    · obtain ⟨rfl,rfl⟩ := Prod.mk.inj new
      simp at guard
    · exact .inl old
  case guarded entry key slotted found free =>
    rcases List.mem_cons.mp out with new | old
    · obtain ⟨rfl,rfl⟩ := Prod.mk.inj new
      refine .inr ⟨rfl,?_,rfl,.inr rfl⟩
      cases slotted <;> rfl
    · exact .inl old
  case release permit' answer held => exact .inl (List.mem_of_mem_erase out)
  case crashed key own =>
    rcases s.recordCrash_cases key with same | same <;> rw [same] at out <;> exact .inl out
  all_goals exact .inl out

theorem Ready.act (ready : Ready maxProcesses c) (here : c.tasks[j]? = some p)
    (acted : Act j c.state p t q) (calm : Calm c.state p q) :
    Ready maxProcesses ⟨t,c.tasks.set j q⟩ where
  sound := ready.sound.act here acted
  lined := ready.lined.act ready.sound here acted
  orderly := by
    refine ready.orderly.kept ready.sound here (fun key => acted.acquiring calm.1)
      (fun k permit => acted.guardPermit) ?_ ?_
    · intro permit _ sought
      obtain ⟨activity,there,rest⟩ := ready.orderly.rest j permit sought
      rw [here] at there
      obtain rfl := Option.some.inj there
      cases acted
      case returnSlot => rfl
      all_goals first
        | exact absurd rfl (calm.1 _)
        | simp [Activity.atRest] at rest
    · intro slotted key came k permit out same
      cases guard : permit.serialization with
      | none => rfl
      | some m =>
        rcases acted.guardPermit out (by simp [guard]) with old | ⟨-,rest,-,-⟩
        · rw [← guard]
          exact calm.2 slotted key came k permit old same
        · simp [came,Activity.atRest] at rest

theorem Ready.timeout (ready : Ready maxProcesses c) (here : c.tasks[j]? = some (.awaitSlot key)) :
    Ready maxProcesses ⟨{ c.state with slotLine := c.state.slotLine.erase j },
      c.tasks.set j (.idle (.acquired (.error .capacityTimeout)))⟩ where
  sound := ready.sound.abandon here (.awaitSlot _ (.inr rfl))
  lined := ready.lined.abandon ready.sound here (.awaitSlot _ (.inr rfl))
  orderly := by
    refine ready.orderly.kept ready.sound here ?_ (fun k permit out _ => .inl out)
      (fun _ _ _ => rfl) ?_
    · intro key acquiring
      simp [Activity.acquiring?] at acquiring
    · intro slotted key came
      simp at came

/-- The guard of a serialized key is in one permit. -/
theorem Ready.holder (ready : Ready maxProcesses c) {entry : PoolEntry}
    (found : c.state.entries.lookup key = some entry)
    (held : c.state.mutexes[entry.serialization]? = some true) :
    ∃ k permit, (k,permit) ∈ c.state.permits ∧ permit.key = key ∧
      permit.serialization = some entry.serialization := by
  have bit := ready.sound.guards entry.serialization
  rw [ProcessPool.mutexHeld,held,Option.getD_some,Bool.toNat_true] at bit
  have positive : 0 < c.state.guards entry.serialization := by omega
  obtain ⟨⟨k,permit⟩,out,guard⟩ := List.countP_pos_iff.mp positive
  simp only [decide_eq_true_eq] at guard
  obtain ⟨entry',found',same⟩ := ready.sound.own k permit _ out guard
  exact ⟨k,permit,out,ready.lined.apart permit.key key entry' entry found' found same,guard⟩

theorem Ready.mutex (ready : Ready maxProcesses c) {entry : PoolEntry}
    (found : c.state.entries.lookup key = some entry) :
    c.state.mutexes[entry.serialization]? = some false ∨
      c.state.mutexes[entry.serialization]? = some true := by
  have bound := ready.sound.known key entry found
  rw [List.getElem?_eq_getElem bound]
  cases c.state.mutexes[entry.serialization] <;> simp

/-- A client that has come to a guard can have it. -/
theorem Ready.unheld (ready : Ready maxProcesses c) {slotted : Bool}
    (here : c.tasks[j]? = some (.guard slotted key)) {entry : PoolEntry}
    (found : c.state.entries.lookup key = some entry) :
    c.state.mutexes[entry.serialization]? = some false := by
  rcases ready.mutex found with free | held
  · exact free
  obtain ⟨k,permit,out,rfl,guard⟩ := ready.holder found held
  have sought : Sought c k permit := ⟨out,by simp [guard],j,_,here,rfl⟩
  exact absurd here (ready.orderly.unawaited k permit j slotted sought)

theorem Ready.unblocked (ready : Ready maxProcesses c) (here : c.tasks[j]? = some p)
    (key : ProcessKey) : ¬Blocked c.state key p := by
  rintro ⟨slotted,other,entry,rfl,-,found,held⟩
  rw [ready.unheld here found] at held
  simp at held

/-- There is an entry of the key, or a slot for one. -/
def Supplied (s : ProcessPool) (key : ProcessKey) : Prop :=
  (∃ entry, s.entries.lookup key = some entry) ∨ 0 < s.slots

/-- The crowd gets from `d` to `e`, and the clients in `keeps` stay where they are if they are busy. -/
structure Goes (maxProcesses : Nat) (i : Nat) (key : ProcessKey) (c : Crowd ProcessPool Activity)
    (keeps : Nat → Prop) (d e : Crowd ProcessPool Activity) : Prop where
  ready : Ready maxProcesses e
  aided : Aided i key c d → Aided i key c e
  kept : ∀ k activity, keeps k → d.tasks[k]? = some activity → activity.atRest = false →
    e.tasks[k]? = some activity
  supplied : Supplied d.state key → Supplied e.state key

variable {e f : Crowd ProcessPool Activity} {keeps keeps' : Nat → Prop}

theorem Goes.refl (ready : Ready maxProcesses d) : Goes maxProcesses i key c keeps d d :=
  ⟨ready,id,fun _ _ _ there _ => there,id⟩

theorem Goes.trans (first : Goes maxProcesses i key c keeps d e)
    (second : Goes maxProcesses i key c keeps e f) : Goes maxProcesses i key c keeps d f where
  ready := second.ready
  aided := second.aided ∘ first.aided
  kept k activity member there busy :=
    second.kept k activity member (first.kept k activity member there busy) busy
  supplied := second.supplied ∘ first.supplied

theorem Goes.mono (goes : Goes maxProcesses i key c keeps d e) (fewer : ∀ k, keeps' k → keeps k) :
    Goes maxProcesses i key c keeps' d e :=
  ⟨goes.ready,goes.aided,fun k activity member => goes.kept k activity (fewer k member),
    goes.supplied⟩

/-- An entry leaves a slot behind. -/
theorem Act.supplied (acted : Act i s p t q) (takes : p.awaitsSlot = false)
    (wants : ∀ other, p ≠ .wantSlot other) (supplied : Supplied s key) : Supplied t key := by
  rcases supplied with ⟨entry,found⟩ | free
  · rcases acted.carries found with ⟨expired,left,rfl⟩ | ⟨after,kept,-⟩
    · cases acted
      refine .inr ?_
      simp [found]
    · exact .inl ⟨after,kept⟩
  · refine .inr ?_
    cases acted
    case takeSlot other _ => exact absurd rfl (wants other)
    case granted => simp [Activity.awaitsSlot] at takes
    case returnSlot => exact Nat.lt_succ_of_lt free
    case remove => exact Nat.lt_add_right _ free
    case crashed name own =>
      rcases s.recordCrash_cases name with same | same <;> rw [same] <;> exact free
    all_goals exact free

theorem Goes.move (start : Ready maxProcesses c) (here : d.tasks[j]? = some p)
    (moved : Move j d.state p t q) (ready : Ready maxProcesses ⟨t,d.tasks.set j q⟩)
    (supplied : Supplied d.state key → Supplied t key) :
    Goes maxProcesses i key c (· ≠ j) d ⟨t,d.tasks.set j q⟩ where
  ready := ready
  aided before := by
    have bound : j < d.tasks.length := (List.getElem?_eq_some_iff.mp here).choose
    refine before.move here moved fun _ => ⟨fun first there => start.unblocked there key,?_⟩
    exact ready.unblocked (j := j) (by simp [bound]) key
  kept k activity other there _ := by
    rw [List.getElem?_set_ne (Ne.symm other)]
    exact there
  supplied := supplied

theorem Goes.act (start : Ready maxProcesses c) (ready : Ready maxProcesses d)
    (here : d.tasks[j]? = some p) (acted : Act j d.state p t q) (calm : Calm d.state p q)
    (takes : p.awaitsSlot = false) (wants : ∀ other, p ≠ .wantSlot other) :
    Goes maxProcesses i key c (· ≠ j) d ⟨t,d.tasks.set j q⟩ :=
  .move start here (.act acted) (ready.act here acted calm) (acted.supplied takes wants)

/-- Who is at rest with a guard that is sought can release it, and is in nobody's way then. -/
theorem Ready.release (ready : Ready maxProcesses c) {answer : Answer} {permit : ProcessPermit}
    (here : c.tasks[j]? = some (.idle answer)) (sought : Sought c j permit) :
    Ready maxProcesses ⟨{ c.state with permits := c.state.permits.erase (j,permit) }.freeMutex
      permit.serialization,c.tasks.set j (.enter (.release permit))⟩ where
  sound := ready.sound.act here (.release sought.1)
  lined := ready.lined.act ready.sound here (.release sought.1)
  orderly := by
    refine ready.orderly.kept ready.sound here ?_
      (fun k permit out _ => .inl (List.mem_of_mem_erase out)) ?_ ?_
    · intro key acquiring
      simp [Activity.acquiring?] at acquiring
    · intro other left sought'
      -- The guard that was released was the only one of its key.
      exfalso
      have same := ready.orderly.single j permit other sought sought'
      have one := ready.sound.guarding_le permit.key
      have erased := countP_erase sought.1 fun q => q.2.key = permit.key && q.2.serialization.isSome
      have again : 0 < (c.state.permits.erase (j,permit)).countP
          fun q => q.2.key = permit.key && q.2.serialization.isSome :=
        List.countP_pos_iff.mpr ⟨(j,other),left,by simp [same,sought'.2.1]⟩
      rw [guarding] at one
      simp only [decide_true,sought.2.1,Bool.and_self,Bool.toNat_true] at erased
      omega
    · intro slotted key came
      simp at came

theorem Goes.rested (goes : Goes maxProcesses i key c (· ≠ j) d e) (here : d.tasks[j]? = some p)
    (rest : p.atRest = true) : Goes maxProcesses i key c (fun _ => True) d e where
  ready := goes.ready
  aided := goes.aided
  kept k activity _ there busy := by
    refine goes.kept k activity ?_ there busy
    rintro rfl
    rw [here] at there
    obtain rfl := Option.some.inj there
    simp [rest] at busy
  supplied := goes.supplied

theorem Goes.sought (goes : Goes maxProcesses i key c (fun _ => True) d e) {k : Nat}
    {permit : ProcessPermit} (sought : Sought d k permit) (out : (k,permit) ∈ e.state.permits) :
    Sought e k permit := by
  obtain ⟨-,guard,j,activity,there,acquiring⟩ := sought
  exact ⟨out,guard,j,activity,
    goes.kept j activity trivial there (Activity.not_atRest acquiring),acquiring⟩

/-- A guard that is sought is given back. -/
theorem Ready.freed_idle (start : Ready maxProcesses c) (i : Nat) (key : ProcessKey)
    (ready : Ready maxProcesses d)
    {k m : Nat} {answer : Answer} {permit : ProcessPermit}
    (here : d.tasks[k]? = some (.idle answer)) (sought : Sought d k permit)
    (guard : permit.serialization = some m) (bound : m < d.state.mutexes.length) :
    ∃ e, Goes maxProcesses i key c (fun _ => True) d e ∧ e.state.entries = d.state.entries ∧
      e.state.line = d.state.line ∧ e.state.mutexes[m]? = some false := by
  have goes : Goes maxProcesses i key c (· ≠ k) d _ :=
    .move start here (.act (.release sought.1)) (ready.release here sought) id
  refine ⟨_,goes.rested here rfl,rfl,rfl,?_⟩
  simp [guard,bound]

/-- Whoever has the guard of a key that is being acquired can give it back. -/
theorem Ready.freed (start : Ready maxProcesses c) (i : Nat) (key : ProcessKey)
    (ready : Ready maxProcesses d)
    {other : ProcessKey} (here : d.tasks[j]? = some p) (acquiring : p.acquiring? = some other)
    {entry : PoolEntry} (found : d.state.entries.lookup other = some entry) :
    ∃ e, Goes maxProcesses i key c (fun _ => True) d e ∧ e.state.entries = d.state.entries ∧
      e.state.line = d.state.line ∧ e.state.mutexes[entry.serialization]? = some false := by
  rcases ready.mutex found with free | held
  · exact ⟨d,.refl ready,rfl,rfl,free⟩
  obtain ⟨k,permit,out,rfl,guard⟩ := ready.holder found held
  have sought : Sought d k permit := ⟨out,by simp [guard],j,p,here,acquiring⟩
  have bound := ready.sound.known permit.key entry found
  obtain ⟨activity,there,rest⟩ := ready.orderly.rest k permit sought
  cases activity with
  | idle answer => exact start.freed_idle i key ready there sought guard bound
  | returnSlot answer =>
    -- The slot goes back first.
    have calm : Calm d.state (.returnSlot answer) (.idle answer) := by
      constructor <;> simp
    have goes : Goes maxProcesses i key c (· ≠ k) d _ :=
      .act start ready there .returnSlot calm rfl (by simp)
    have inside : k < d.tasks.length := (List.getElem?_eq_some_iff.mp there).choose
    have all := goes.rested there rfl
    obtain ⟨e,last,entries,line,free⟩ := start.freed_idle i key goes.ready
      (List.getElem?_set_self inside) (all.sought sought out) guard bound
    exact ⟨e,all.trans last,entries,line,free⟩
  | _ => simp [Activity.atRest] at rest

theorem Calm.of (busy : ∀ answer, p ≠ .idle answer)
    (other : ∀ slotted key, q ≠ .guard slotted key) :
    Calm s p q := ⟨busy,fun slotted key came => absurd came (other slotted key)⟩

theorem Goes.pass (start : Ready maxProcesses c) (ready : Ready maxProcesses d)
    (here : d.tasks[j]? = some p) (acted : Act j d.state p t q) (queued : p.queued = true)
    (other : ∀ slotted key, q ≠ .guard slotted key) :
    Goes maxProcesses i key c (· ≠ j) d ⟨t,d.tasks.set j q⟩ := by
  refine .act start ready here acted (.of ?_ other) ?_ ?_
  · rintro answer rfl
    simp [Activity.queued] at queued
  · cases p <;> simp_all [Activity.queued,Activity.awaitsSlot]
  · rintro wanted rfl
    simp [Activity.queued] at queued

theorem Ready.calm_guard (ready : Ready maxProcesses c) {slotted : Bool} {entry : PoolEntry}
    (busy : ∀ answer, p ≠ .idle answer) (found : c.state.entries.lookup key = some entry)
    (free : c.state.mutexes[entry.serialization]? = some false) :
    Calm c.state p (.guard slotted key) := by
  refine ⟨busy,?_⟩
  rintro _ _ came k permit out rfl
  obtain ⟨-,rfl⟩ := Activity.guard.inj came
  cases guard : permit.serialization with
  | none => rfl
  | some m =>
    obtain ⟨entry',found',rfl⟩ := ready.sound.own k permit m out guard
    rw [found] at found'
    obtain rfl := Option.some.inj found'
    have bit := ready.sound.guards entry.serialization
    rw [ProcessPool.mutexHeld,free,Option.getD_some,Bool.toNat_false] at bit
    exact absurd (List.countP_eq_zero.mp bit _ out) (by simp [guard])

/-- With the lock of the entries, an acquire that finds its entry references it. -/
theorem Ready.looked (start : Ready maxProcesses c) (i : Nat) (key : ProcessKey)
    (ready : Ready maxProcesses d) (slotted : Bool) {other : ProcessKey} {entry : PoolEntry}
    (head : d.state.line.head? = some j)
    (here : d.tasks[j]? = some (.inLine (.lookup slotted other)))
    (found : d.state.entries.lookup other = some entry) :
    ∃ e permit, Goes maxProcesses i key c (· ≠ j) d e ∧ e.state.line = d.state.line.tail ∧
      permit.key = other ∧ e.tasks[j]? = some (.referenced slotted permit) := by
  have inside {q : Activity} : (d.tasks.set j q)[j]? = some q :=
    List.getElem?_set_self (List.getElem?_eq_some_iff.mp here).choose
  cases plain : other.needsSerialization with
  | false =>
    refine ⟨_,_,.pass start ready here (.reference slotted head found plain) rfl ?_,rfl,rfl,inside⟩
    cases slotted <;> simp [Activity.referenced]
  | true =>
    have acquiring : (Activity.inLine (.lookup slotted other)).acquiring? = some other := by
      cases slotted <;> rfl
    obtain ⟨e,freed,entries,line,free⟩ := start.freed i key ready here acquiring found
    have there := freed.kept j _ trivial here rfl
    have bound : j < e.tasks.length := (List.getElem?_eq_some_iff.mp there).choose
    rw [← entries] at found
    rw [← line] at head ⊢
    have came : Goes maxProcesses i key c (· ≠ j) e _ :=
      .act start freed.ready there (.await slotted head found plain)
        (freed.ready.calm_guard (by simp) found free) rfl (by simp)
    have guarded : Goes maxProcesses i key c (· ≠ j) _ _ :=
      .pass start came.ready (List.getElem?_set_self bound) (.guarded slotted found free) rfl
        (by cases slotted <;> simp [Activity.referenced])
    refine ⟨_,⟨other,entry.generation,some entry.serialization⟩,
      ((freed.mono fun _ _ => trivial).trans came).trans guarded,rfl,rfl,?_⟩
    simp [bound]

theorem Ready.reaped (start : Ready maxProcesses c) (i : Nat) (key : ProcessKey)
    (expired : List ProcessKey) :
    ∀ (left : List ProcessKey) (d : Crowd ProcessPool Activity), Ready maxProcesses d →
      d.tasks[j]? = some (.reaping expired left) →
        ∃ e, Goes maxProcesses i key c (· ≠ j) d e ∧ e.state.line = d.state.line.tail
  | [],d,ready,here => ⟨_,.pass start ready here .reaped rfl (by simp),rfl⟩
  | other :: left,d,ready,here => by
    have removes : Goes maxProcesses i key c (· ≠ j) d _ :=
      .pass start ready here .remove rfl (by simp)
    have bound : j < d.tasks.length := (List.getElem?_eq_some_iff.mp here).choose
    obtain ⟨e,goes,line⟩ :=
      start.reaped i key expired left _ removes.ready (List.getElem?_set_self bound)
    exact ⟨e,removes.trans goes,line⟩

/-- Whoever has the lock of the entries can get done with it. -/
theorem Ready.passes (start : Ready maxProcesses c) (i : Nat) (key : ProcessKey)
    (ready : Ready maxProcesses d)
    (head : d.state.line.head? = some j) (here : d.tasks[j]? = some p) (queued : p.queued = true) :
    ∃ e, Goes maxProcesses i key c (· ≠ j) d e ∧ e.state.line = d.state.line.tail := by
  have bound : j < d.tasks.length := (List.getElem?_eq_some_iff.mp here).choose
  cases p with
  | inLine work =>
    cases work with
    | existing other =>
      cases found : d.state.entries.lookup other with
      | none =>
        exact ⟨_,.pass start ready here (.missing head found) rfl (by simp),rfl⟩
      | some entry =>
        obtain ⟨e,-,goes,line,-⟩ := start.looked i key ready false head here found
        exact ⟨e,goes,line⟩
    | slotted other =>
      cases found : d.state.entries.lookup other with
      | none =>
        exact ⟨_,.pass start ready here (.insert head found) rfl (by simp),rfl⟩
      | some entry =>
        obtain ⟨e,-,goes,line,-⟩ := start.looked i key ready true head here found
        exact ⟨e,goes,line⟩
    | release permit =>
      exact ⟨_,.pass start ready here (.released head) rfl (by simp),rfl⟩
    | reapIdle now idleTtl =>
      have expires : Goes maxProcesses i key c (· ≠ j) d _ :=
        .pass start ready here (.expire head) rfl (by simp)
      obtain ⟨e,goes,line⟩ := start.reaped i key _ _ _ expires.ready (List.getElem?_set_self bound)
      exact ⟨e,expires.trans goes,line⟩
    | recordCrash other =>
      refine ⟨_,.pass start ready here (.crashed other head) rfl (by simp),?_⟩
      rcases d.state.recordCrash_cases other with same | same <;> simp [same]
  | guard slotted other =>
    obtain ⟨-,entry,found⟩ := ready.lined.present j slotted other here
    exact ⟨_,.pass start ready here (.guarded slotted found (ready.unheld here found)) rfl
      (by cases slotted <;> simp [Activity.referenced]),rfl⟩
  | reaping expired left => exact start.reaped i key expired left d ready here
  | _ => simp [Activity.queued] at queued

/-- Who stands in the line comes to its head. -/
theorem Ready.reaches_head (start : Ready maxProcesses c) (i : Nat) (key : ProcessKey) :
    ∀ (line : List Nat) (d : Crowd ProcessPool Activity), d.state.line = line →
      Ready maxProcesses d → i ∈ line →
        ∃ e, Goes maxProcesses i key c (· = i) d e ∧ e.state.line.head? = some i
  | [],_,_,_,member => by simp at member
  | j :: rest,d,same,ready,member => by
    by_cases first : j = i
    · exact ⟨d,.refl ready,by simp [same,first]⟩
    · obtain ⟨activity,there,queued⟩ := (ready.lined.line.mem j).mp (by simp [same])
      obtain ⟨e,goes,line⟩ := start.passes i key ready (by simp [same]) there queued
      rw [same,List.tail_cons] at line
      obtain ⟨f,last,head⟩ := start.reaches_head i key rest e line goes.ready
        ((List.mem_cons.mp member).resolve_left (Ne.symm first))
      exact ⟨f,(goes.mono fun k same => by rw [same]; exact Ne.symm first).trans last,head⟩

/-- All others give up their wait for a slot. -/
theorem Ready.cleared (start : Ready maxProcesses c) (i : Nat) (key : ProcessKey) :
    ∀ (n : Nat) (d : Crowd ProcessPool Activity), d.state.slotLine.length = n →
      Ready maxProcesses d → ∃ e, Goes maxProcesses i key c (· = i) d e ∧
        e.state.slots = d.state.slots ∧ ∀ j ∈ e.state.slotLine, j = i
  | n,d,size,ready => by
    by_cases alone : ∀ j ∈ d.state.slotLine, j = i
    · exact ⟨d,.refl ready,rfl,alone⟩
    · simp only [not_forall] at alone
      obtain ⟨j,member,other⟩ := alone
      obtain ⟨activity,there,waits⟩ := (ready.lined.slotLine.mem j).mp member
      cases activity with
      | awaitSlot wanted =>
        have gives : Goes maxProcesses i key c (· ≠ j) d _ :=
          .move start there .timeout (ready.timeout there) id
        have shorter := List.length_erase_of_mem member
        have some := List.length_pos_of_mem member
        obtain ⟨e,goes,slots,last⟩ :=
          start.cleared i key (n - 1) _ (by simp only; omega) gives.ready
        exact ⟨e,(gives.mono fun k same => by rw [same]; exact Ne.symm other).trans goes,slots,last⟩
      | _ => simp [Activity.awaitsSlot] at waits
  termination_by n => n
  decreasing_by omega

/-- Client `i` can get its permit. -/
def Completes (i : Nat) (key : ProcessKey) (c d : Crowd ProcessPool Activity) : Prop :=
  ∃ e permit, (Aided i key c d → Aided i key c e) ∧ permit.key = key ∧
    e.tasks[i]? = some (.idle (.acquired (.ok permit)))

theorem Goes.completes (goes : Goes maxProcesses i key c keeps d e)
    (completes : Completes i key c e) : Completes i key c d := by
  obtain ⟨f,permit,aided,same,there⟩ := completes
  exact ⟨f,permit,aided ∘ goes.aided,same,there⟩

theorem Completes.act (here : d.tasks[i]? = some p) (acted : Act i d.state p t q)
    (completes : Completes i key c ⟨t,d.tasks.set i q⟩) : Completes i key c d := by
  obtain ⟨e,permit,aided,same,there⟩ := completes
  exact ⟨e,permit,fun before => aided (before.move here (.act acted) (absurd rfl)),same,there⟩

theorem Completes.done {permit : ProcessPermit}
    (here : d.tasks[i]? = some (.idle (.acquired (.ok permit)))) (same : permit.key = key) :
    Completes i key c d := ⟨d,permit,id,same,here⟩

theorem Completes.referenced {slotted : Bool} {permit : ProcessPermit}
    (here : d.tasks[i]? = some (.referenced slotted permit)) (same : permit.key = key) :
    Completes i key c d := by
  cases slotted with
  | false => exact .done here same
  | true =>
    have bound : i < d.tasks.length := (List.getElem?_eq_some_iff.mp here).choose
    exact .act here .returnSlot (.done (List.getElem?_set_self bound) same)

theorem Ready.completes_slotted (start : Ready maxProcesses c) (ready : Ready maxProcesses d)
    (here : d.tasks[i]? = some (.inLine (.slotted key))) : Completes i key c d := by
  obtain ⟨e,goes,head⟩ := start.reaches_head i key _ d rfl ready
    ((ready.lined.line.mem i).mpr ⟨_,here,rfl⟩)
  have there := goes.kept i _ rfl here rfl
  have bound : i < e.tasks.length := (List.getElem?_eq_some_iff.mp there).choose
  refine goes.completes ?_
  cases found : e.state.entries.lookup key with
  | none =>
    exact .act there (.insert head found) (.done (List.getElem?_set_self bound) rfl)
  | some entry =>
    obtain ⟨f,permit,last,-,same,referenced⟩ := start.looked i key goes.ready true head
      there found
    exact last.completes (.referenced referenced same)

theorem Ready.completes_enter (start : Ready maxProcesses c) (ready : Ready maxProcesses d)
    (here : d.tasks[i]? = some (.enter (.slotted key))) : Completes i key c d := by
  have bound : i < d.tasks.length := (List.getElem?_eq_some_iff.mp here).choose
  exact .act here .queue (start.completes_slotted (ready.act here .queue (.of (by simp) (by simp)))
    (List.getElem?_set_self bound))

/-- A slot that is there goes to the client, once all others have given up their wait. -/
theorem Ready.completes_slot (start : Ready maxProcesses c) (ready : Ready maxProcesses d)
    (here : d.tasks[i]? = some (.wantSlot key) ∨ d.tasks[i]? = some (.awaitSlot key))
    (free : 0 < d.state.slots) : Completes i key c d := by
  obtain ⟨e,goes,slots,alone⟩ := start.cleared i key _ d rfl ready
  refine goes.completes ?_
  rw [← slots] at free
  rcases here with wants | awaits
  · have there := goes.kept i _ rfl wants rfl
    have bound : i < e.tasks.length := (List.getElem?_eq_some_iff.mp there).choose
    have empty : e.state.slotLine = [] := by
      refine List.eq_nil_iff_forall_not_mem.mpr fun j member => ?_
      obtain rfl := alone j member
      obtain ⟨activity,found,waits⟩ := (goes.ready.lined.slotLine.mem j).mp member
      rw [there] at found
      obtain rfl := Option.some.inj found
      simp [Activity.awaitsSlot] at waits
    have takes : Act i e.state (.wantSlot key) _ (.enter (.slotted key)) :=
      .takeSlot (by simpa [empty] using free)
    exact .act there takes (start.completes_enter
      (goes.ready.act there takes (.of (by simp) (by simp))) (List.getElem?_set_self bound))
  · have there := goes.kept i _ rfl awaits rfl
    have bound : i < e.tasks.length := (List.getElem?_eq_some_iff.mp there).choose
    have first : e.state.slotLine.idxOf i = 0 := by
      have member := (goes.ready.lined.slotLine.mem i).mpr ⟨_,there,rfl⟩
      cases line : e.state.slotLine with
      | nil => simp [line] at member
      | cons j rest => simp [alone j (by simp [line])]
    have granted : Act i e.state (.awaitSlot key) _ (.enter (.slotted key)) :=
      .granted (by simpa [first] using free)
    exact .act there granted (start.completes_enter
      (goes.ready.act there granted (.of (by simp) (by simp))) (List.getElem?_set_self bound))

theorem Ready.completes_existing (start : Ready maxProcesses c) (ready : Ready maxProcesses d)
    (here : d.tasks[i]? = some (.inLine (.existing key))) (supplied : Supplied d.state key) :
    Completes i key c d := by
  obtain ⟨e,goes,head⟩ := start.reaches_head i key _ d rfl ready
    ((ready.lined.line.mem i).mpr ⟨_,here,rfl⟩)
  have there := goes.kept i _ rfl here rfl
  have bound : i < e.tasks.length := (List.getElem?_eq_some_iff.mp there).choose
  refine goes.completes ?_
  cases found : e.state.entries.lookup key with
  | none =>
    have free : 0 < e.state.slots := by
      rcases goes.supplied supplied with ⟨entry,there⟩ | free
      · simp [found] at there
      · exact free
    have misses : Act i e.state (.inLine (.existing key)) _ (.wantSlot key) := .missing head found
    exact .act there misses (start.completes_slot
      (goes.ready.act there misses (.of (by simp) (by simp)))
      (.inl (List.getElem?_set_self bound)) free)
  | some entry =>
    obtain ⟨f,permit,last,-,same,referenced⟩ := start.looked i key goes.ready false head
      there found
    exact last.completes (.referenced referenced same)

theorem Ready.completes (ready : Ready maxProcesses c) (here : c.tasks[i]? = some p)
    (acquiring : p.acquiring? = some key) (supplied : Supplied c.state key)
    (slot : p = .wantSlot key ∨ p = .awaitSlot key → 0 < c.state.slots) :
    Completes i key c c := by
  have bound : i < c.tasks.length := (List.getElem?_eq_some_iff.mp here).choose
  cases p with
  | enter work =>
    cases work with
    | existing other =>
      obtain rfl := Option.some.inj acquiring
      exact .act here .queue (ready.completes_existing
        (ready.act here .queue (.of (by simp) (by simp))) (List.getElem?_set_self bound) supplied)
    | slotted other =>
      obtain rfl := Option.some.inj acquiring
      exact ready.completes_enter ready here
    | _ => simp [Activity.acquiring?] at acquiring
  | inLine work =>
    cases work with
    | existing other =>
      obtain rfl := Option.some.inj acquiring
      exact ready.completes_existing ready here supplied
    | slotted other =>
      obtain rfl := Option.some.inj acquiring
      exact ready.completes_slotted ready here
    | _ => simp [Activity.acquiring?] at acquiring
  | guard slotted other =>
    obtain rfl := Option.some.inj acquiring
    obtain ⟨-,entry,found⟩ := ready.lined.present i slotted other here
    exact .act here (.guarded slotted found (ready.unheld here found))
      (.referenced (List.getElem?_set_self bound) rfl)
  | wantSlot other =>
    obtain rfl := Option.some.inj acquiring
    exact ready.completes_slot ready (.inl here) (slot (.inl rfl))
  | awaitSlot other =>
    obtain rfl := Option.some.inj acquiring
    exact ready.completes_slot ready (.inr here) (slot (.inr rfl))
  | _ => simp [Activity.acquiring?] at acquiring

/-- An acquire that waits for a slot may get none. -/
theorem times_out (here : c.tasks[i]? = some (.wantSlot key) ∨ c.tasks[i]? = some (.awaitSlot key))
    (none : c.state.slots = 0) : ∃ d, Aided i key c d ∧
      d.tasks[i]? = some (.idle (.acquired (.error .capacityTimeout))) := by
  rcases here with wants | awaits
  · have bound : i < c.tasks.length := (List.getElem?_eq_some_iff.mp wants).choose
    have awaits : Aided i key c _ :=
      Aided.start.move wants (.act (.awaitSlot (by simp [none]))) (absurd rfl)
    exact ⟨_,awaits.move (List.getElem?_set_self bound) .timeout (absurd rfl),by simp [bound]⟩
  · have bound : i < c.tasks.length := (List.getElem?_eq_some_iff.mp awaits).choose
    exact ⟨_,Aided.start.move awaits .timeout (absurd rfl),by simp [bound]⟩

/-- Where no client awaits a guard, each client that waits stands behind those it waits for. -/
theorem Orderly.behind (orderly : Orderly c)
    (awaits : Relation.TransGen (Awaits c) i j) : c.state.line.idxOf j < c.state.line.idxOf i := by
  have one {i j : Nat} (awaits : Awaits c i j) : c.state.line.idxOf j < c.state.line.idxOf i := by
    rcases awaits with ⟨-,ahead⟩ | ⟨slotted,key,permit,here,out,rfl,guard⟩
    · exact ahead
    · have sought : Sought c j permit := ⟨out,guard,i,_,here,rfl⟩
      exact absurd here (orderly.unawaited j permit i slotted sought)
  induction awaits with
  | single awaits => exact one awaits
  | tail _ awaits ih => exact Nat.lt_trans (one awaits) ih

theorem acquires_isolated (reachable : (pool maxProcesses).Reachable c) (orderly : Orderly c) :
    Isolated c := by
  have ready : Ready maxProcesses c :=
    ⟨sound_of_reachable reachable,lined_of_reachable reachable,orderly⟩
  refine ⟨fun i activity key here acquiring premise => ?_,
    fun i cycle => Nat.lt_irrefl _ (orderly.behind cycle)⟩
  have supplied : Supplied c.state key := premise.imp And.left id
  by_cases waits : (activity = .wantSlot key ∨ activity = .awaitSlot key) ∧ c.state.slots = 0
  · obtain ⟨slot,none⟩ := waits
    obtain ⟨d,aided,there⟩ := times_out
      (slot.imp (fun same => same ▸ here) fun same => same ▸ here) none
    exact ⟨d,_,aided,there,.inr ⟨rfl,none,slot⟩⟩
  · obtain ⟨d,permit,aided,same,there⟩ := ready.completes here acquiring supplied fun slot =>
      Nat.pos_of_ne_zero fun none => waits ⟨slot,none⟩
    exact ⟨d,_,aided .start,there,.inl ⟨permit,rfl,same⟩⟩

/-- A key whose users share. -/
def plainKey : ProcessKey :=
  ⟨.default,"tools","2026-07-28","tenant-a",.default,.default,.shareableStateless,none,none⟩

theorem plainKey_valid : plainKey.validate = .ok () := by decide

def firstPermit : ProcessPermit := ⟨serializedKey,1,some 0⟩

/-- One client has the guard of a key, and there is a slot left. -/
def seized (line : List Nat) : ProcessPool :=
  ⟨line,[(serializedKey,⟨1,1,2,none,0⟩)],1,[],[true],[(0,firstPermit)],[],0⟩

/-- A second client is in the line for that key. -/
theorem seized_behind : (pool 2).Reachable ⟨seized [1],
    [.idle (.acquired (.ok firstPermit)),.inLine (.existing serializedKey)]⟩ := by
  have begun := (acquires_once 1).begin (.idle .nothing) rfl
  have called := begun.act 1 (.enter (.existing serializedKey)) rfl
    (.inl (.acquire serializedKey_valid))
  exact called.act 1 (.inLine (.existing serializedKey)) rfl (.inl .queue)

/-- A third one behind it, for a key without an entry. -/
def orderlyCrowd : Crowd ProcessPool Activity := ⟨seized [1,2],
  [.idle (.acquired (.ok firstPermit)),.inLine (.existing serializedKey),
    .inLine (.existing plainKey)]⟩

theorem orderlyCrowd_reachable : (pool 2).Reachable orderlyCrowd := by
  have begun := seized_behind.begin (.idle .nothing) rfl
  have called := begun.act 2 (.enter (.existing plainKey)) rfl (.inl (.acquire plainKey_valid))
  exact called.act 2 (.inLine (.existing plainKey)) rfl (.inl .queue)

theorem orderlyCrowd_orderly : Orderly orderlyCrowd := by
  have only {k : Nat} {permit : ProcessPermit} (sought : Sought orderlyCrowd k permit) :
      k = 0 ∧ permit = firstPermit := by
    simpa using Prod.mk.inj (List.mem_singleton.mp sought.1)
  refine ⟨fun k permit sought => ?_,fun k permit other sought sought' => ?_,
    fun k permit i slotted _ there => ?_⟩
  · obtain ⟨rfl,rfl⟩ := only sought
    exact ⟨_,rfl,rfl⟩
  · rw [(only sought).2,(only sought').2]
  · have member := List.mem_of_getElem? there
    simp [orderlyCrowd] at member

/-- The third client gets a permit, although the second one waits before it. -/
theorem acquires_isolated_example : ∃ d result, Aided 2 plainKey orderlyCrowd d ∧
    d.tasks[2]? = some (.idle (.acquired result)) ∧
      Served orderlyCrowd (.inLine (.existing plainKey)) plainKey result :=
  (acquires_isolated orderlyCrowd_reachable orderlyCrowd_orderly).completes 2 _ plainKey rfl rfl
    (.inr (by decide))

/-- The second client has come to the guard with the lock of the entries; the first one, which
has the guard, acquires another key. -/
def crossed : Crowd ProcessPool Activity := ⟨seized [1,0],
  [.inLine (.existing plainKey),.guard false serializedKey]⟩

theorem crossed_reachable : (pool 2).Reachable crossed := by
  have came := seized_behind.act 1 (.guard false serializedKey) rfl
    (.inl (.await false rfl rfl rfl))
  have called := came.act 0 (.enter (.existing plainKey)) rfl (.inl (.acquire plainKey_valid))
  exact called.act 0 (.inLine (.existing plainKey)) rfl (.inl .queue)

/-- A client in the line goes on when it is the first. -/
theorem Act.owns {work : Section} (acted : Act i s p t q) (line : p = .inLine work) :
    s.line.head? = some i := by
  cases acted
  all_goals first
    | assumption
    | simp at line

theorem Act.unheld {slotted : Bool} {entry : PoolEntry} (acted : Act i s p t q)
    (guard : p = .guard slotted key) (found : s.entries.lookup key = some entry) :
    s.mutexes[entry.serialization]? = some false := by
  cases acted
  case guarded entry' _ found' free =>
    obtain ⟨-,rfl⟩ := Activity.guard.inj guard
    rw [found'] at found
    obtain rfl := Option.some.inj found
    exact free
  all_goals simp at guard

theorem crossed_stuck (aided : Aided 0 plainKey crossed d) : d = crossed := by
  induction aided with
  | start => rfl
  | @move d j p t q before here moved free ih =>
    subst ih
    match j with
    | 0 =>
      obtain rfl := Option.some.inj here
      cases moved with
      | act acted => exact absurd (acted.owns rfl) (by decide)
    | 1 =>
      obtain rfl := Option.some.inj here
      cases moved with
      | act acted => exact absurd (acted.unheld rfl rfl) (by decide)
    | _ + 2 => simp [crossed] at here

theorem acquires_crossed : ∃ c, (pool 2).Reachable c ∧ 0 < c.state.slots ∧
    c.tasks[0]? = some (.inLine (.existing plainKey)) ∧
    (¬∃ d result, Aided 0 plainKey c d ∧ d.tasks[0]? = some (.idle (.acquired result))) ∧
    Relation.TransGen (Awaits c) 0 0 := by
  refine ⟨crossed,crossed_reachable,by decide,rfl,?_,?_⟩
  · rintro ⟨d,result,aided,there⟩
    rw [crossed_stuck aided] at there
    simp [crossed] at there
  · have line : Awaits crossed 0 1 := .inl (by decide)
    have guard : Awaits crossed 1 0 :=
      .inr ⟨false,serializedKey,firstPermit,rfl,by simp [crossed,seized],rfl,rfl⟩
    exact .tail (.single line) guard

end GaugeMesh.Pool
