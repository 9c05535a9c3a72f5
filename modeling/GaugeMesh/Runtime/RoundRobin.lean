import GaugeMesh.Task.Record
import Mathlib.Data.List.Nodup

/-! `runtime.rs`: the deficit round robin of the tenants. An item waits in the queue of its
tenant until the queue has been passed as often as the item costs; a queue that is passed
goes to the end, and one that has become empty is dropped. -/
namespace GaugeMesh

structure Overloaded where
  retryAfterMs : Nat
  deriving DecidableEq

structure TenantQueue (α : Type) where
  tenant : String
  deficit : Nat
  quantum : Nat
  items : List (Nat × α)

structure DeficitRoundRobin (α : Type) where
  tenants : List (TenantQueue α)
  maxPerTenant : Nat
  maxTenants : Nat
  totalItems : Nat

namespace DeficitRoundRobin

variable {α : Type}

/-- `none` is the failed assertion. -/
def withLimits (maxPerTenant maxTenants : Nat) : Option (DeficitRoundRobin α) :=
  if maxPerTenant > 0 ∧ maxTenants > 0 then some ⟨[],maxPerTenant,maxTenants,0⟩ else none

def new (maxPerTenant : Nat) : Option (DeficitRoundRobin α) := withLimits maxPerTenant 1024

def hasTenant (d : DeficitRoundRobin α) (tenant : String) : Bool :=
  d.tenants.any fun queue => queue.tenant = tenant

/-- The queues with one of the tenant among them, a new one at the end. -/
def withQueue (d : DeficitRoundRobin α) (tenant : String) : List (TenantQueue α) :=
  if d.hasTenant tenant then d.tenants else d.tenants ++ [⟨tenant,0,1,[]⟩]

def push (tenant : String) (cost : Nat) (value : α) (d : DeficitRoundRobin α) :
    Except Overloaded Unit × DeficitRoundRobin α :=
  if tenant.isEmpty ∨ cost > 10000 ∨ (¬d.hasTenant tenant ∧ d.tenants.length ≥ d.maxTenants) then
    (.error ⟨100⟩,d)
  else
    let tenants := d.withQueue tenant
    let position := tenants.findIdx fun queue => queue.tenant = tenant
    if (tenants[position]?).any fun queue => queue.items.length ≥ d.maxPerTenant then
      (.error ⟨100⟩,{ d with tenants := tenants })
    else
      (.ok (),{ d with
        tenants := tenants.modify position fun queue =>
          { queue with items := queue.items ++ [(max cost 1,value)] }
        totalItems := d.totalItems + 1 })

/-- At most so many rounds of the loop of `pop`; the answer names the tenant it is taken from. -/
def popWithin : Nat → DeficitRoundRobin α → Option (String × α) × DeficitRoundRobin α
  | 0, d => (none,d)
  | rounds + 1, d =>
    match d.tenants with
    | [] => (none,d)
    | front :: rest =>
      let queue := { front with deficit := saturatingAdd front.deficit front.quantum }
      match queue.items with
      | [] => popWithin rounds { d with tenants := rest ++ [queue] }
      | (cost,value) :: items =>
        if cost ≤ queue.deficit then
          let queue := { queue with deficit := queue.deficit - cost, items := items }
          (some (queue.tenant,value),{ d with
            tenants := if items.isEmpty then rest else rest ++ [queue]
            totalItems := d.totalItems - 1 })
        else popWithin rounds { d with tenants := rest ++ [queue] }

def popTenant (d : DeficitRoundRobin α) : Option (String × α) × DeficitRoundRobin α :=
  popWithin d.tenants.length d

def pop (d : DeficitRoundRobin α) : Option α × DeficitRoundRobin α :=
  (d.popTenant.1.map Prod.snd,d.popTenant.2)

/-- A queue between two operations: it has items, and no item it could have given away. -/
structure Waiting (maxPerTenant : Nat) (queue : TenantQueue α) : Prop where
  named : queue.tenant ≠ ""
  quantum : queue.quantum = 1
  occupied : queue.items ≠ []
  bounded : queue.items.length ≤ maxPerTenant
  costs : ∀ item ∈ queue.items, 1 ≤ item.1 ∧ item.1 ≤ 10000
  deficit : ∀ item, queue.items.head? = some item → queue.deficit < item.1

structure Sound (d : DeficitRoundRobin α) : Prop where
  room : 0 < d.maxPerTenant
  waiting : ∀ queue ∈ d.tenants, Waiting d.maxPerTenant queue
  distinct : (d.tenants.map (·.tenant)).Nodup
  total : d.totalItems = (d.tenants.map (·.items.length)).sum
  tenants : d.tenants.length ≤ d.maxTenants

/-- The items of a tenant in the order they will come. -/
def queued (tenants : List (TenantQueue α)) (tenant : String) : List α :=
  (tenants.filter (·.tenant = tenant)).flatMap fun queue => queue.items.map Prod.snd

/-- The entries of a tenant in a log of all tenants. -/
def ofTenant (log : List (String × α)) (tenant : String) : List α :=
  (log.filter (·.1 = tenant)).map Prod.snd

@[simp] theorem queued_append (first second : List (TenantQueue α)) (tenant : String) :
    queued (first ++ second) tenant = queued first tenant ++ queued second tenant := by
  simp [queued]

theorem queued_cons (queue : TenantQueue α) (rest : List (TenantQueue α)) (tenant : String) :
    queued (queue :: rest) tenant =
      (if queue.tenant = tenant then queue.items.map Prod.snd else []) ++ queued rest tenant := by
  by_cases same : queue.tenant = tenant <;> simp [queued,same]

@[simp] theorem queued_nil (tenant : String) : queued ([] : List (TenantQueue α)) tenant = [] := rfl

@[simp] theorem ofTenant_append (first second : List (String × α)) (tenant : String) :
    ofTenant (first ++ second) tenant = ofTenant first tenant ++ ofTenant second tenant := by
  simp [ofTenant]

theorem ofTenant_single (name : String) (value : α) (tenant : String) :
    ofTenant [(name,value)] tenant = if name = tenant then [value] else [] := by
  by_cases same : name = tenant <;> simp [ofTenant,same]

/-- A tenant without a queue waits for nothing. -/
theorem queued_absent (tenants : List (TenantQueue α)) {tenant : String}
    (absent : ∀ queue ∈ tenants, queue.tenant ≠ tenant) : queued tenants tenant = [] := by
  have none : tenants.filter (·.tenant = tenant) = [] := by
    simpa [List.filter_eq_nil_iff] using absent
  rw [queued,none]
  rfl

/-- The front queue may as well stand at the end. -/
theorem queued_rotate (queue : TenantQueue α) {rest : List (TenantQueue α)}
    (alone : queue.tenant ∉ rest.map (·.tenant)) (tenant : String) :
    queued (queue :: rest) tenant = queued (rest ++ [queue]) tenant := by
  rw [queued_append,queued_cons,queued_cons,queued_nil,List.append_nil]
  by_cases same : queue.tenant = tenant
  · rw [queued_absent rest]
    · simp
    · intro other member equal
      exact alone (List.mem_map.mpr ⟨other,member,equal.trans same.symm⟩)
  · simp [same]

theorem findIdx_split {before after : List α} {a : α} {p : α → Bool}
    (earlier : ∀ b ∈ before, p b = false) (found : p a = true) :
    (before ++ a :: after).findIdx p = before.length := by
  induction before with
  | nil => simp [List.findIdx_cons,found]
  | cons b before ih =>
    have none := earlier b List.mem_cons_self
    have rest := ih fun c member => earlier c (List.mem_cons_of_mem b member)
    simp [List.findIdx_cons,none,rest]

theorem modify_split (before after : List α) (a : α) (f : α → α) :
    (before ++ a :: after).modify before.length f = before ++ f a :: after := by
  induction before with
  | nil => rfl
  | cons b before ih => simp [ih]

/-- What a push does to a sound scheduler. -/
inductive Pushed (d : DeficitRoundRobin α) (tenant : String) (cost : Nat) (value : α) :
    Except Overloaded Unit × DeficitRoundRobin α → Prop
  | refused (error : Overloaded) : Pushed d tenant cost value (.error error,d)
  | known (same : queue.tenant = tenant) (tenants : d.tenants = before ++ queue :: after)
      (room : queue.items.length < d.maxPerTenant) (cheap : cost ≤ 10000) :
      Pushed d tenant cost value (.ok (),{ d with
        tenants := before ++
          { queue with items := queue.items ++ [(max cost 1,value)] } :: after
        totalItems := d.totalItems + 1 })
  | fresh (named : tenant ≠ "") (new : ∀ queue ∈ d.tenants, queue.tenant ≠ tenant)
      (room : d.tenants.length < d.maxTenants) (cheap : cost ≤ 10000) :
      Pushed d tenant cost value (.ok (),{ d with
        tenants := d.tenants ++ [⟨tenant,0,1,[(max cost 1,value)]⟩]
        totalItems := d.totalItems + 1 })

theorem hasTenant_iff (d : DeficitRoundRobin α) (tenant : String) :
    d.hasTenant tenant = true ↔ ∃ queue ∈ d.tenants, queue.tenant = tenant := by
  simp [hasTenant]

theorem push_cases (d : DeficitRoundRobin α) (room : 0 < d.maxPerTenant) (tenant : String)
    (cost : Nat) (value : α) : Pushed d tenant cost value (d.push tenant cost value) := by
  rw [push]
  split
  · exact .refused _
  · next admitted =>
    simp only [not_or,String.isEmpty_iff,not_lt,not_and,Nat.not_le] at admitted
    obtain ⟨named,cheap,limit⟩ := admitted
    by_cases present : d.hasTenant tenant = true
    · -- The first queue of the tenant is found where it stands.
      obtain ⟨queue,found⟩ : ∃ queue, d.tenants.find? (fun queue => queue.tenant = tenant) =
          some queue := by
        rw [← Option.isSome_iff_exists,List.find?_isSome]
        simpa [hasTenant] using present
      obtain ⟨same,before,after,tenants,earlier⟩ := List.find?_eq_some_iff_append.mp found
      have index : d.tenants.findIdx (fun queue => queue.tenant = tenant) = before.length := by
        rw [tenants]
        exact findIdx_split (by simpa using earlier) same
      have here : d.tenants[before.length]? = some queue := by simp [tenants]
      simp only [withQueue,if_pos present,index,here,Option.any_some,decide_eq_true_eq]
      split
      · exact .refused _
      · next space =>
        rw [tenants,modify_split]
        exact .known (of_decide_eq_true same) tenants (Nat.lt_of_not_le space) cheap
    · have new : ∀ queue ∈ d.tenants, queue.tenant ≠ tenant :=
        fun queue member same => present ((d.hasTenant_iff tenant).mpr ⟨queue,member,same⟩)
      have index : (d.tenants ++ [(⟨tenant,0,1,[]⟩ : TenantQueue α)]).findIdx
          (fun queue => queue.tenant = tenant) = d.tenants.length :=
        findIdx_split (by simpa using new) (by simp)
      have open' : ¬d.maxPerTenant ≤ 0 := Nat.not_le.mpr room
      simp only [withQueue,if_neg present,index,List.getElem?_concat_length,Option.any_some,
        List.length_nil,ge_iff_le,open',decide_false,Bool.false_eq_true,↓reduceIte,modify_split]
      exact .fresh named new (limit present) cheap

theorem push_sound {d next : DeficitRoundRobin α} {tenant : String} {cost : Nat} {value : α}
    (sound : Sound d) (pushed : Pushed d tenant cost value (.ok (),next)) :
    Sound next ∧ ∀ other, queued next.tenants other =
      queued d.tenants other ++ ofTenant [(tenant,value)] other := by
  cases pushed with
  | @known before queue after same tenants room cheap =>
    have waits := sound.waiting queue (by simp [tenants])
    have distinct := sound.distinct
    rw [tenants,List.map_append,List.map_cons] at distinct
    refine ⟨⟨sound.room,?_,?_,?_,?_⟩,fun other => ?_⟩
    · intro moved member
      rcases List.mem_append.mp member with old | new
      · exact sound.waiting moved (by simp [tenants,old])
      · rcases List.mem_cons.mp new with rfl | old
        · refine ⟨waits.named,waits.quantum,by simp,by simpa using Nat.succ_le_of_lt room,?_,?_⟩
          · intro item inside
            rcases List.mem_append.mp inside with old | new
            · exact waits.costs item old
            · rw [List.mem_singleton.mp new]
              constructor <;> simp only <;> omega
          · intro item first
            rw [List.head?_append_of_ne_nil _ waits.occupied] at first
            exact waits.deficit item first
        · exact sound.waiting moved (by simp [tenants,old])
    · simpa using distinct
    · have total := sound.total
      simp only [tenants,List.map_append,List.map_cons,List.sum_append,List.sum_cons,
        List.length_append,List.length_singleton] at total ⊢
      omega
    · have bound := sound.tenants
      simpa [tenants] using bound
    · rw [ofTenant_single,tenants]
      simp only [queued_append,queued_cons]
      by_cases mine : tenant = other
      · have alone : queued after other = [] := by
          refine queued_absent _ fun later member equal => ?_
          refine (List.nodup_cons.mp (List.nodup_append.mp distinct).2.1).1 ?_
          exact List.mem_map.mpr ⟨later,member,equal.trans (mine.symm.trans same.symm)⟩
        simp [same,mine,alone]
      · simp [same,mine]
  | fresh named new room cheap =>
    refine ⟨⟨sound.room,?_,?_,?_,?_⟩,fun other => ?_⟩
    · intro queue member
      rcases List.mem_append.mp member with old | last
      · exact sound.waiting queue old
      · rw [List.mem_singleton.mp last]
        refine ⟨named,rfl,by simp,sound.room,?_,?_⟩
        · intro item inside
          rw [List.mem_singleton.mp inside]
          constructor <;> simp only <;> omega
        · intro item first
          cases first
          simp only
          omega
    · rw [List.map_append,List.nodup_append]
      refine ⟨sound.distinct,by simp,?_⟩
      rintro name member other last rfl
      obtain ⟨queue,inside,equal⟩ := List.mem_map.mp member
      exact new queue inside (equal.trans (by simpa using last))
    · have total := sound.total
      simp only [List.map_append,List.sum_append,List.map_cons,List.map_nil,List.sum_cons,
        List.sum_nil,List.length_singleton] at total ⊢
      omega
    · simpa using Nat.succ_le_of_lt room
    · simp only [queued_append,queued_cons,queued_nil,ofTenant_single,List.append_nil,
        List.map_cons,List.map_nil]

/-- A queue that could not pay for its head yet goes to the end with a larger deficit. -/
theorem Sound.rotate {d : DeficitRoundRobin α} {front : TenantQueue α} {rest : List (TenantQueue α)}
    (sound : Sound d) (deficit : Nat) (tenants : d.tenants = front :: rest)
    (short : ∀ item, front.items.head? = some item → deficit < item.1) :
    Sound { d with tenants := rest ++ [{ front with deficit := deficit }] } ∧
      ∀ tenant, queued (rest ++ [{ front with deficit := deficit }]) tenant =
        queued d.tenants tenant := by
  have waits := sound.waiting front (by simp [tenants])
  have distinct := sound.distinct
  rw [tenants,List.map_cons,List.nodup_cons] at distinct
  refine ⟨⟨sound.room,?_,?_,?_,?_⟩,fun tenant => ?_⟩
  · intro queue member
    rcases List.mem_append.mp member with old | last
    · exact sound.waiting queue (by simp [tenants,old])
    · rw [List.mem_singleton.mp last]
      exact ⟨waits.named,waits.quantum,waits.occupied,waits.bounded,waits.costs,short⟩
  · rw [List.map_append,List.nodup_append]
    refine ⟨distinct.2,by simp,?_⟩
    rintro name member other last rfl
    exact distinct.1 (by rwa [show name = front.tenant by simpa using last] at member)
  · have total := sound.total
    simp only [tenants,List.map_cons,List.sum_cons,List.map_append,List.sum_append,List.map_nil,
      List.sum_nil] at total ⊢
    omega
  · have bound := sound.tenants
    simpa [tenants] using bound
  · rw [tenants,queued_rotate _ distinct.1]
    simp only [queued_append,queued_cons]

/-- A queue that pays for its head loses just that item, and is dropped with its last one. -/
theorem Sound.take {d : DeficitRoundRobin α} {front : TenantQueue α} {rest : List (TenantQueue α)}
    {cost : Nat} {value : α} {items : List (Nat × α)} (sound : Sound d)
    (tenants : d.tenants = front :: rest) (head : front.items = (cost,value) :: items) :
    Sound { d with
      tenants := if items.isEmpty then rest else
        rest ++ [{ front with deficit := 0, items := items }]
      totalItems := d.totalItems - 1 } ∧
      ∀ tenant, queued d.tenants tenant = ofTenant [(front.tenant,value)] tenant ++
        queued (if items.isEmpty then rest else
          rest ++ [{ front with deficit := 0, items := items }]) tenant := by
  have waits := sound.waiting front (by simp [tenants])
  have distinct := sound.distinct
  have total := sound.total
  have bound := sound.tenants
  have length := waits.bounded
  rw [tenants,List.map_cons,List.nodup_cons] at distinct
  simp only [tenants,List.map_cons,List.sum_cons,head,List.length_cons] at total bound length
  have popped : ∀ tenant, queued d.tenants tenant =
      ofTenant [(front.tenant,value)] tenant ++
        queued (rest ++ [{ front with deficit := 0, items := items }]) tenant := by
    intro tenant
    have same := queued_rotate { front with deficit := 0, items := items }
      distinct.1 tenant
    rw [← same,tenants,queued_cons,queued_cons,ofTenant_single,head]
    by_cases mine : front.tenant = tenant <;> simp [mine]
  rcases empty : items.isEmpty
  · refine ⟨⟨sound.room,?_,?_,?_,?_⟩,popped⟩
    · intro queue member
      rcases List.mem_append.mp member with old | last
      · exact sound.waiting queue (by simp [tenants,old])
      · rw [List.mem_singleton.mp last]
        refine ⟨waits.named,waits.quantum,by simpa using empty,by simp only; omega,?_,?_⟩
        · exact fun item inside => waits.costs item (by simp [head,inside])
        · exact fun item first =>
            (waits.costs item (by rw [head]; exact .tail _ (List.mem_of_head? first))).1
    · rw [if_neg (by simp),List.map_append,List.nodup_append]
      refine ⟨distinct.2,by simp,?_⟩
      rintro name member other last rfl
      exact distinct.1 (by rwa [show name = front.tenant by simpa using last] at member)
    · simp only [Bool.false_eq_true,↓reduceIte,List.map_append,List.sum_append,List.map_cons,
        List.map_nil,List.sum_cons,List.sum_nil]
      omega
    · simpa using bound
  · have nothing : items = [] := List.isEmpty_iff.mp empty
    subst nothing
    refine ⟨⟨sound.room,fun queue member => sound.waiting queue (by simp_all),
      by simpa using distinct.2,?_,?_⟩,fun tenant => ?_⟩
    · simp only [↓reduceIte,List.length_nil] at total ⊢
      omega
    · exact Nat.le_of_succ_le bound
    · rw [popped tenant]
      by_cases mine : front.tenant = tenant <;> simp [queued_cons,mine]

/-- What a pop does to a sound scheduler, however many rounds it makes. -/
theorem popWithin_sound (rounds : Nat) {d : DeficitRoundRobin α} (sound : Sound d) :
    Sound (popWithin rounds d).2 ∧ (popWithin rounds d).2.maxPerTenant = d.maxPerTenant ∧
      (popWithin rounds d).2.maxTenants = d.maxTenants ∧ ∀ tenant, queued d.tenants tenant =
        ofTenant (popWithin rounds d).1.toList tenant ++
          queued (popWithin rounds d).2.tenants tenant := by
  induction rounds generalizing d with
  | zero => exact ⟨sound,rfl,rfl,fun _ => rfl⟩
  | succ rounds ih =>
    rw [popWithin]
    split
    · exact ⟨sound,rfl,rfl,fun _ => rfl⟩
    · next front rest tenants =>
      have waits := sound.waiting front (by simp [tenants])
      rcases head : front.items with _ | ⟨⟨cost,value⟩,items⟩
      · exact absurd head waits.occupied
      · have affordable := waits.costs (cost,value) (by simp [head])
        have before := waits.deficit (cost,value) (by simp [head])
        have deficit : saturatingAdd front.deficit front.quantum = front.deficit + 1 := by
          simp only [saturatingAdd,waits.quantum,maxU64]
          omega
        simp only [deficit]
        split
        · next paid =>
          have exactly : front.deficit + 1 - cost = 0 := by
            simp only at before
            omega
          obtain ⟨kept,taken⟩ := sound.take tenants head
          simp only [exactly]
          exact ⟨kept,trivial,trivial,taken⟩
        · next short =>
          obtain ⟨kept,same⟩ := sound.rotate (front.deficit + 1) tenants (by
            intro item first
            rw [head] at first
            cases first
            omega)
          rw [head] at kept same
          obtain ⟨after,perTenant,limit,taken⟩ := ih kept
          exact ⟨after,perTenant,limit,fun tenant => by rw [← same tenant,taken tenant]⟩

inductive Request (α : Type) where
  | push (tenant : String) (cost : Nat) (value : α)
  | pop

/-- A scheduler with what it was given and what it gave back so far. -/
structure Ledger (α : Type) where
  scheduler : DeficitRoundRobin α
  pushed : List (String × α)
  popped : List (String × α)

def Ledger.serve (l : Ledger α) : Request α → Ledger α
  | .push tenant cost value =>
    match l.scheduler.push tenant cost value with
    | (.ok (),next) => ⟨next,l.pushed ++ [(tenant,value)],l.popped⟩
    | (.error _,next) => ⟨next,l.pushed,l.popped⟩
  | .pop => ⟨l.scheduler.popTenant.2,l.pushed,l.popped ++ l.scheduler.popTenant.1.toList⟩

def Ledger.serveAll (l : Ledger α) (requests : List (Request α)) : Ledger α :=
  requests.foldl Ledger.serve l

/-- Nothing is lost: for each tenant, what was popped and what is queued is what was pushed. -/
structure Keeps (maxPerTenant maxTenants : Nat) (l : Ledger α) : Prop where
  sound : Sound l.scheduler
  limits : l.scheduler.maxPerTenant = maxPerTenant ∧ l.scheduler.maxTenants = maxTenants
  fifo : ∀ tenant, ofTenant l.popped tenant ++ queued l.scheduler.tenants tenant =
    ofTenant l.pushed tenant

theorem Keeps.serve {maxPerTenant maxTenants : Nat} {l : Ledger α}
    (keeps : Keeps maxPerTenant maxTenants l) (request : Request α) :
    Keeps maxPerTenant maxTenants (l.serve request) := by
  cases request with
  | push tenant cost value =>
    have cases := push_cases l.scheduler keeps.sound.room tenant cost value
    rw [Ledger.serve]
    split
    · next next pushed =>
      rw [pushed] at cases
      obtain ⟨sound,queued⟩ := push_sound keeps.sound cases
      refine ⟨sound,?_,fun other => ?_⟩
      · cases cases <;> exact keeps.limits
      · rw [queued,ofTenant_append,← keeps.fifo,List.append_assoc]
    · next error next refused =>
      rw [refused] at cases
      cases cases
      exact keeps
  | pop =>
    obtain ⟨sound,perTenant,limit,taken⟩ :=
      popWithin_sound l.scheduler.tenants.length keeps.sound
    refine ⟨sound,⟨perTenant.trans keeps.limits.1,limit.trans keeps.limits.2⟩,fun tenant => ?_⟩
    have before := keeps.fifo tenant
    rw [taken tenant,← List.append_assoc,← ofTenant_append] at before
    exact before

theorem Keeps.serveAll {maxPerTenant maxTenants : Nat} {l : Ledger α}
    (keeps : Keeps maxPerTenant maxTenants l) (requests : List (Request α)) :
    Keeps maxPerTenant maxTenants (l.serveAll requests) := by
  induction requests generalizing l with
  | nil => exact keeps
  | cons request rest ih => exact ih (keeps.serve request)

/-- Over every sequence of pushes and pops the scheduler stays sound and keeps every item in
the order of its tenant, and a push that is refused changes nothing. -/
theorem round_robin_keeps {maxPerTenant maxTenants : Nat} {d : DeficitRoundRobin α}
    (made : withLimits maxPerTenant maxTenants = some d) (requests : List (Request α)) :
    Keeps maxPerTenant maxTenants (Ledger.serveAll ⟨d,[],[]⟩ requests) ∧
      ∀ tenant cost value error next,
        (Ledger.serveAll ⟨d,[],[]⟩ requests).scheduler.push tenant cost value =
          (.error error,next) →
        next = (Ledger.serveAll ⟨d,[],[]⟩ requests).scheduler := by
  have first : Keeps maxPerTenant maxTenants (⟨d,[],[]⟩ : Ledger α) := by
    rw [withLimits] at made
    split at made
    · next limits =>
      cases made
      exact ⟨⟨limits.1,by simp,by simp,rfl,by simp⟩,⟨rfl,rfl⟩,fun _ => rfl⟩
    · cases made
  have keeps := first.serveAll requests
  refine ⟨keeps,fun tenant cost value error next refused => ?_⟩
  have cases := push_cases _ keeps.sound.room tenant cost value
  rw [refused] at cases
  cases cases
  rfl

theorem round_robin_keeps_example : withLimits 2 2 = some (⟨[],2,2,0⟩ : DeficitRoundRobin Nat) ∧
    Keeps 2 2 (Ledger.serveAll ⟨⟨[],2,2,0⟩,[],[]⟩
      [.push "a" 2 7,.push "b" 1 8,.push "a" 1 9,.pop,.pop]) :=
  ⟨rfl,(round_robin_keeps rfl _).1⟩

end DeficitRoundRobin
end GaugeMesh
