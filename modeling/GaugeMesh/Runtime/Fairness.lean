import GaugeMesh.Runtime.RoundRobin

/-! Whom the scheduler passes. Two tenants that both wait are passed in turn, so neither is
ever two passes ahead; what a tenant is served is what it was passed, but for the deficit it
had at the start and has at the end. -/
namespace GaugeMesh.DeficitRoundRobin

variable {α : Type}

/-- `popWithin` with a log of the queues it passes and of what each pays there. -/
def passWithin : Nat → DeficitRoundRobin α →
    List (String × Nat) × Option (String × α) × DeficitRoundRobin α
  | 0, d => ([],none,d)
  | rounds + 1, d =>
    match d.tenants with
    | [] => ([],none,d)
    | front :: rest =>
      let queue := { front with deficit := saturatingAdd front.deficit front.quantum }
      match queue.items with
      | [] =>
        let (log,answer) := passWithin rounds { d with tenants := rest ++ [queue] }
        ((queue.tenant,0) :: log,answer)
      | (cost,value) :: items =>
        if cost ≤ queue.deficit then
          let queue := { queue with deficit := queue.deficit - cost, items := items }
          ([(queue.tenant,cost)],some (queue.tenant,value),{ d with
            tenants := if items.isEmpty then rest else rest ++ [queue]
            totalItems := d.totalItems - 1 })
        else
          let (log,answer) := passWithin rounds { d with tenants := rest ++ [queue] }
          ((queue.tenant,0) :: log,answer)

def names (tenants : List (TenantQueue α)) : List String := tenants.map (·.tenant)

/-- The passes of a pop over a sound scheduler: every queue has an item, its deficit grows by
one, and what it pays is the whole of it. -/
inductive Passes : DeficitRoundRobin α → List (String × Nat) → DeficitRoundRobin α → Prop
  | done (d : DeficitRoundRobin α) : Passes d [] d
  | short {d last : DeficitRoundRobin α} {front : TenantQueue α} {rest : List (TenantQueue α)}
      {log : List (String × Nat)} (tenants : d.tenants = front :: rest)
      (short : ∀ item, front.items.head? = some item → front.deficit + 1 < item.1)
      (later : Passes
        { d with tenants := rest ++ [{ front with deficit := front.deficit + 1 }] } log last) :
      Passes d ((front.tenant,0) :: log) last
  | paid {d : DeficitRoundRobin α} {front : TenantQueue α} {rest : List (TenantQueue α)}
      {value : α} {items : List (Nat × α)} (tenants : d.tenants = front :: rest)
      (head : front.items = (front.deficit + 1,value) :: items) :
      Passes d [(front.tenant,front.deficit + 1)] { d with
        tenants := if items.isEmpty then rest else
          rest ++ [{ front with deficit := 0, items := items }]
        totalItems := d.totalItems - 1 }

theorem Passes.sound {d last : DeficitRoundRobin α} {log : List (String × Nat)}
    (passes : Passes d log last) (sound : Sound d) : Sound last := by
  induction passes with
  | done => exact sound
  | short tenants below _ ih => exact ih (sound.rotate _ tenants below).1
  | paid tenants head => exact (sound.take tenants head).1

/-- The first of two names has been passed as often as the second while it stands before it,
and once more while it stands behind. -/
def Turns (a b : String) (names : List String) (m n : Nat) : Prop :=
  ([a,b].Sublist names ∧ m = n) ∨ ([b,a].Sublist names ∧ m = n + 1)

/-- Of two names in order the first goes behind the second, and any other name passes both. -/
theorem sublist_rotate {a b x : String} {rest : List String} (fresh : x ∉ rest)
    (order : [a,b].Sublist (x :: rest)) :
    (x = a ∧ [b,a].Sublist (rest ++ [x])) ∨
      (x ≠ a ∧ x ≠ b ∧ [a,b].Sublist rest) := by
  by_cases here : x = a
  · subst here
    have second := (List.cons_sublist_cons.mp order)
    exact .inl ⟨rfl,second.append (List.Sublist.refl [x])⟩
  · have later : [a,b].Sublist rest := by
      cases order with
      | cons _ later => exact later
      | cons_cons _ _ => exact absurd rfl here
    have inside : b ∈ rest := later.subset (by simp)
    exact .inr ⟨here,fun same => fresh (same ▸ inside),later⟩

theorem Turns.rotate {a b x : String} {rest : List String} {m n : Nat} (fresh : x ∉ rest)
    (other : a ≠ b) (turns : Turns a b (x :: rest) m n) :
    Turns a b (rest ++ [x]) (m + if x = a then 1 else 0) (n + if x = b then 1 else 0) := by
  rcases turns with ⟨order,rfl⟩ | ⟨order,rfl⟩
  · rcases sublist_rotate fresh order with ⟨rfl,behind⟩ | ⟨first,second,kept⟩
    · rw [if_pos rfl,if_neg other]
      exact .inr ⟨behind,rfl⟩
    · rw [if_neg first,if_neg second]
      exact .inl ⟨kept.trans (List.sublist_append_left _ _),rfl⟩
  · rcases sublist_rotate fresh order with ⟨rfl,behind⟩ | ⟨first,second,kept⟩
    · rw [if_pos rfl,if_neg other.symm]
      exact .inl ⟨behind,rfl⟩
    · rw [if_neg first,if_neg second]
      exact .inr ⟨kept.trans (List.sublist_append_left _ _),rfl⟩

/-- A name that leaves is neither of two that stay. -/
theorem Turns.leave {a b x : String} {rest : List String} {m n : Nat} (fresh : x ∉ rest)
    (first : a ∈ rest) (second : b ∈ rest) (turns : Turns a b (x :: rest) m n) :
    Turns a b rest m n := by
  rcases turns with ⟨order,same⟩ | ⟨order,same⟩
  · rcases sublist_rotate fresh order with ⟨rfl,-⟩ | ⟨-,-,kept⟩
    · exact absurd first fresh
    · exact .inl ⟨kept,same⟩
  · rcases sublist_rotate fresh order with ⟨rfl,-⟩ | ⟨-,-,kept⟩
    · exact absurd second fresh
    · exact .inr ⟨kept,same⟩

theorem Turns.start {a b : String} {names : List String} (other : a ≠ b) (first : a ∈ names)
    (second : b ∈ names) : Turns a b names 0 0 ∨ Turns b a names 0 0 := by
  induction names with
  | nil => cases first
  | cons x rest ih =>
    rcases List.mem_cons.mp first with rfl | inside
    · have later := (List.mem_cons.mp second).resolve_left (Ne.symm other)
      exact .inl (.inl ⟨(List.singleton_sublist.mpr later).cons_cons a,rfl⟩)
    · rcases List.mem_cons.mp second with rfl | behind
      · exact .inr (.inl ⟨(List.singleton_sublist.mpr inside).cons_cons b,rfl⟩)
      · rcases ih inside behind with ⟨⟨order,-⟩ | ⟨-,same⟩⟩ | ⟨⟨order,-⟩ | ⟨-,same⟩⟩
        · exact .inl (.inl ⟨order.cons x,rfl⟩)
        · cases same
        · exact .inr (.inl ⟨order.cons x,rfl⟩)
        · cases same

theorem Turns.near {a b : String} {names : List String} {m n : Nat}
    (turns : Turns a b names m n) : m ≤ n + 1 ∧ n ≤ m + 1 := by
  rcases turns with ⟨-,rfl⟩ | ⟨-,rfl⟩ <;> omega

def visitsTo (tenant : String) (log : List (String × Nat)) : Nat :=
  (log.filter (·.1 = tenant)).length

def servedTo (tenant : String) (log : List (String × Nat)) : Nat :=
  ((log.filter (·.1 = tenant)).map Prod.snd).sum

theorem visitsTo_cons (tenant name : String) (paid : Nat) (log : List (String × Nat)) :
    visitsTo tenant ((name,paid) :: log) =
      (if name = tenant then 1 else 0) + visitsTo tenant log := by
  by_cases same : name = tenant <;> simp [visitsTo,same,Nat.add_comm]

@[simp] theorem visitsTo_nil (tenant : String) : visitsTo tenant [] = 0 := rfl
@[simp] theorem servedTo_nil (tenant : String) : servedTo tenant [] = 0 := rfl

theorem Sound.front {d : DeficitRoundRobin α} {front : TenantQueue α} {rest : List (TenantQueue α)}
    (sound : Sound d) (tenants : d.tenants = front :: rest) : front.tenant ∉ names rest := by
  have distinct := sound.distinct
  rw [tenants,List.map_cons,List.nodup_cons] at distinct
  exact distinct.1

theorem Passes.turns {d last : DeficitRoundRobin α} {log : List (String × Nat)}
    (passes : Passes d log last) (sound : Sound d) {a b : String} {m n : Nat} (other : a ≠ b)
    (first : a ∈ names last.tenants) (second : b ∈ names last.tenants)
    (turns : Turns a b (names d.tenants) m n) :
    Turns a b (names last.tenants) (m + visitsTo a log) (n + visitsTo b log) := by
  induction passes generalizing m n with
  | done => simpa using turns
  | @short d last front rest log tenants below _ ih =>
    have fresh := sound.front tenants
    rw [tenants] at turns
    have after := ih (sound.rotate _ tenants below).1 first second
      (by simpa [names] using turns.rotate fresh other)
    simpa only [visitsTo_cons,Nat.add_assoc] using after
  | @paid d front rest value items tenants head =>
    have fresh := sound.front tenants
    rw [tenants] at turns
    simp only [visitsTo_cons,visitsTo_nil,Nat.add_zero]
    rcases empty : items.isEmpty
    · simpa [names] using turns.rotate fresh other
    · simp only [empty,if_true] at first second
      have apart : ∀ c ∈ names rest, front.tenant ≠ c :=
        fun c member same => fresh (same ▸ member)
      rw [if_neg (apart a first),if_neg (apart b second)]
      simpa using turns.leave fresh first second

def step (d : DeficitRoundRobin α) : Request α → DeficitRoundRobin α
  | .push tenant cost value => (d.push tenant cost value).2
  | .pop => d.pop.2

/-- The queues a request passes. -/
def passed (d : DeficitRoundRobin α) : Request α → List (String × Nat)
  | .push .. => []
  | .pop => (passWithin d.tenants.length d).1

/-- At the start of the interval and after every request the tenant has items waiting. -/
def Backlogged (tenant : String) (d : DeficitRoundRobin α) : List (Request α) → Prop
  | [] => queued d.tenants tenant ≠ []
  | request :: rest => queued d.tenants tenant ≠ [] ∧ Backlogged tenant (d.step request) rest

instance decidableBacklogged (tenant : String) : (d : DeficitRoundRobin α) →
    (interval : List (Request α)) → Decidable (Backlogged tenant d interval)
  | d, [] => inferInstanceAs (Decidable (queued d.tenants tenant ≠ []))
  | d, request :: rest => @instDecidableAnd (queued d.tenants tenant ≠ []) _ inferInstance
      (decidableBacklogged tenant (d.step request) rest)

/-- No item of the tenant costs more. -/
def CostsAtMost (limit : Nat) (tenant : String) (tenants : List (TenantQueue α)) : Prop :=
  ∀ queue ∈ tenants, queue.tenant = tenant → ∀ item ∈ queue.items, item.1 ≤ limit

theorem Backlogged.here {tenant : String} {d : DeficitRoundRobin α} {interval : List (Request α)}
    (waits : Backlogged tenant d interval) : tenant ∈ names d.tenants := by
  have now : queued d.tenants tenant ≠ [] := by
    cases interval with
    | nil => exact waits
    | cons request rest => exact waits.1
  by_contra absent
  refine now (queued_absent _ fun queue member same => absent ?_)
  exact List.mem_map.mpr ⟨queue,member,same⟩

theorem Passes.costs {d last : DeficitRoundRobin α} {log : List (String × Nat)}
    (passes : Passes d log last) {limit : Nat} {tenant : String}
    (costs : CostsAtMost limit tenant d.tenants) : CostsAtMost limit tenant last.tenants := by
  induction passes with
  | done => exact costs
  | @short d last front rest log tenants _ _ ih =>
    refine ih fun queue member mine item inside => ?_
    rcases List.mem_append.mp member with old | new
    · exact costs queue (by simp [tenants,old]) mine item inside
    · rw [List.mem_singleton.mp new] at mine inside
      exact costs front (by simp [tenants]) mine item inside
  | @paid d front rest value items tenants head =>
    intro queue member mine item inside
    have kept : queue ∈ rest ∨ queue = { front with deficit := 0, items := items } := by
      dsimp only at member
      split at member
      · exact .inl member
      · simpa using member
    rcases kept with old | rfl
    · exact costs queue (by simp [tenants,old]) mine item inside
    · exact costs front (by simp [tenants]) mine item (by simp [head,inside])

end GaugeMesh.DeficitRoundRobin
