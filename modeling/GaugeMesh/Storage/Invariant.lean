import GaugeMesh.Storage.Exact

/-! What every reachable memory store looks like: the two indexes hold exactly what the
records say, the number of records is bounded, and a purge takes the oldest expired ones. -/
namespace GaugeMesh
open Json

/-- What is not taken from a sorted list comes after what is. -/
theorem take_before [Preorder α] {items : List α} {item : α} (sorted : items.Pairwise (· < ·))
    (member : item ∈ items) (limit : Nat) (left : item ∉ items.take limit) :
    (items.take limit).length = limit ∧ ∀ other ∈ items.take limit, other < item := by
  have parts := List.take_append_drop limit items
  rw [← parts,List.mem_append] at member
  have later := member.resolve_left left
  constructor
  · have bound := List.length_pos_of_mem later
    rw [List.length_drop] at bound
    rw [List.length_take]
    omega
  · intro other taken
    rw [← parts,List.pairwise_append] at sorted
    exact sorted.2.2 other taken item later

namespace Routes

variable {routes : Routes}

/-- Storing a record adds at most one id. -/
theorem count_update (routes : Routes) (i : PublicTaskId) (r : TaskRouteRecord) :
    count (Function.update routes i (some r)) (fun _ => True) ≤
      count routes (fun _ => True) + 1 := by
  have ids : {id | ∃ s, Function.update routes i (some r) id = some s ∧ True} =
      insert i {id | ∃ s, routes id = some s ∧ True} := by
    ext id
    by_cases same : id = i
    · simp [same]
    · simp [same]
  rw [count,ids]
  exact Set.ncard_insert_le _ _

/-- Replacing a stored record adds none. -/
theorem count_replace {i : PublicTaskId} (stored : routes i = some current) (r : TaskRouteRecord) :
    count (Function.update routes i (some r)) (fun _ => True) = count routes fun _ => True := by
  unfold count
  congr 1
  ext id
  by_cases same : id = i
  · simp [same,stored]
  · simp [Function.update_of_ne same]

/-- What is left of a store is not more than the store. -/
theorem count_sub {after : Routes} (finite : {id | ∃ r, routes id = some r}.Finite)
    (sub : ∀ id r, after id = some r → routes id = some r) :
    count after (fun _ => True) ≤ count routes fun _ => True := by
  refine Set.ncard_le_ncard ?_ (finite.subset fun id ⟨r,found,_⟩ => ⟨r,found⟩)
  rintro id ⟨r,found,-⟩
  exact ⟨r,sub id r found,trivial⟩

theorem insertNew_count {kept : Routes} {record : TaskRouteRecord}
    (bound : count routes (fun _ => True) ≤ maxStoredTaskRoutes) :
    count (insertNew record kept routes).2 (fun _ => True) ≤ maxStoredTaskRoutes := by
  unfold insertNew
  split
  · exact bound
  · split
    · exact bound
    · next room =>
      have := count_update kept record.publicTaskId record
      rw [not_or] at room
      dsimp only
      omega

theorem compareAndSet_count [FloatText] [Sha256] {caller : TaskRouteCaller} {id : PublicTaskId}
    (bound : count routes (fun _ => True) ≤ maxStoredTaskRoutes) :
    count (routes.compareAndSet caller id version update).2 (fun _ => True) ≤
      maxStoredTaskRoutes := by
  unfold compareAndSet
  split
  · exact bound
  · next current stored =>
    split
    · exact bound
    · split
      · exact bound
      · split
        · exact bound
        · exact (count_replace stored _).trans_le bound

theorem begin_count [FloatText] [Sha256] {record : TaskRouteRecord}
    (bound : count routes (fun _ => True) ≤ maxStoredTaskRoutes) :
    count (routes.begin record).2 (fun _ => True) ≤ maxStoredTaskRoutes := by
  unfold Routes.begin
  split
  · exact bound
  · split
    · exact insertNew_count bound
    · split
      · exact insertNew_count bound
      · split
        · exact bound
        · exact bound

end Routes

namespace MemoryTaskRoutes

variable [FloatText] [Sha256] {memory : MemoryTaskRoutes} {routes : Routes}

/-- The routes of a store and the bound on their number. -/
structure Holds (memory : MemoryTaskRoutes) (routes : Routes) : Prop where
  rep : Represents memory routes
  bound : routes.count (fun _ => True) ≤ maxStoredTaskRoutes

theorem Holds.empty : Holds empty fun _ => none :=
  ⟨.empty,by simp [Routes.count]⟩

theorem Holds.perform (holds : Holds memory routes) (operation : Operation) :
    ∃ after, Holds (operation.perform memory).2 after := by
  cases operation with
  | findTaskRoute => exact ⟨routes,holds⟩
  | getTaskRoute => exact ⟨routes,holds⟩
  | beginOrExisting record =>
    exact ⟨_,(holds.rep.begin record).2,Routes.begin_count holds.bound⟩
  | compareAndSetTaskRoute caller id version update =>
    exact ⟨_,(holds.rep.compareAndSet caller id version update).2,
      Routes.compareAndSet_count holds.bound⟩
  | purgeExpiredTaskRoutes now limit =>
    refine ⟨_,(holds.rep.purge now limit).2,(Routes.count_sub holds.rep.finite ?_).trans holds.bound⟩
    exact fun id r found => Routes.purge_step.stored found

theorem Holds.performAll (operations : List Operation) (holds : Holds memory routes) :
    ∃ after, Holds (Operation.performAll operations memory).2 after := by
  induction operations generalizing memory routes with
  | nil => exact ⟨routes,holds⟩
  | cons operation rest ih =>
    obtain ⟨middle,next⟩ := holds.perform operation
    exact ih next

/-- The three indexes agree, and there are not too many records. -/
structure Indexed (memory : MemoryTaskRoutes) : Prop where
  byId : ∀ text r, memory.byId.lookup text = some r → r.publicTaskId.text = text
  byIdempotency : ∀ caller key id, memory.byIdempotency.lookup (caller,key) = some id ↔
    ∃ r, memory.byId.lookup id.text = some r ∧ r.caller = caller ∧ r.idempotencyKey = some key
  byExpiry : ∀ expiry text, toLex (expiry,text) ∈ memory.byExpiry ↔
    ∃ r, memory.byId.lookup text = some r ∧ r.expiresAtUnixMs = expiry
  capacity : memory.byId.keys.card ≤ 4096

theorem Holds.indexed (holds : Holds memory routes) : Indexed memory := by
  obtain ⟨rep,bound⟩ := holds
  refine ⟨?_,?_,?_,?_⟩
  · intro text r found
    rw [rep.byId] at found
    exact congrArg (·.text) (rep.ok.id _ r found)
  · intro caller key id
    rw [rep.byIdempotency,rep.byId]
  · intro expiry text
    rw [rep.byExpiry,rep.byId]
    constructor
    · rintro ⟨r,stored,same⟩
      obtain ⟨rfl,rfl⟩ := Prod.mk.inj (toLex_inj.mp same)
      exact ⟨r,stored,rfl⟩
    · rintro ⟨r,stored,rfl⟩
      have same := rep.ok.id _ r stored
      refine ⟨r,same.symm ▸ stored,?_⟩
      rw [Routes.expiryEntry,same]
  · exact rep.card.trans_le bound

/-- An insertion found room among the caller's active routes. -/
theorem begin_active {record r : TaskRouteRecord}
    (begun : (beginOrExisting record memory).1 = .ok (.inserted r)) :
    memory.countValues (fun existing => existing.caller == record.caller &&
      !existing.isExpired record.createdAtUnixMs) < maxActiveTaskRoutesPerCaller := by
  unfold beginOrExisting atomically at begun
  split at begun
  · next answer after ran =>
    rw [Except.then_ok] at ran
    obtain ⟨-,ran⟩ := ran
    obtain ⟨held,-,rest⟩ := Except.bind_ok.mp ran
    cases begun
    rcases held with existing | expired
    · cases rest
    · simp only [insertChecked,Except.then_ok,reject_ok,not_or,not_le] at rest
      exact rest.2.1.2
  · cases begun

/-- The entries of the expired records, in order: their number and what a bound on it takes. -/
structure Oldest (memory : MemoryTaskRoutes) (now limit : Nat) (gone : List (Nat ×ₗ String)) :
    Prop where
  sorted : gone.Pairwise (· < ·)
  expired : ∀ entry ∈ gone, ∃ r, memory.byId.lookup (ofLex entry).2 = some r ∧
    r.isExpired now = true ∧ (ofLex entry).1 = r.expiresAtUnixMs
  oldest : ∀ text r, memory.byId.lookup text = some r → r.isExpired now = true →
    toLex (r.expiresAtUnixMs,text) ∉ gone →
      gone.length = limit ∧ ∀ entry ∈ gone, entry < toLex (r.expiresAtUnixMs,text)
  bounded : gone.length ≤ limit

theorem Represents.oldest (rep : Represents memory routes) (now limit : Nat) :
    Oldest memory now limit ((routes.due now).take limit) := by
  have due := rep.due now
  rw [← due.due] at due
  refine ⟨due.sorted.sublist (List.take_sublist _ _),?_,?_,List.length_take_le ..⟩
  · intro entry member
    obtain ⟨r,stored,expired,rfl⟩ := (due.member entry).mp (List.mem_of_mem_take member)
    exact ⟨r,(rep.byId _).trans stored,expired,rfl⟩
  · intro text r found expired left
    rw [rep.byId] at found
    have same := rep.ok.id _ r found
    refine take_before due.sorted ((due.member _).mpr ⟨r,?_,expired,?_⟩) limit left
    · rw [same]; exact found
    · rw [Routes.expiryEntry,same]

theorem Represents.purge_oldest (rep : Represents memory routes) (now maxRecords : Nat) :
    ∃ gone, Oldest memory now (min maxRecords 10000) gone ∧
      (purgeExpiredTaskRoutes now maxRecords memory).1 = .ok gone.length ∧
      ∀ text, (purgeExpiredTaskRoutes now maxRecords memory).2.byId.lookup text =
        if text ∈ gone.map (fun entry => (ofLex entry).2) then none
        else memory.byId.lookup text := by
  obtain ⟨answer,after⟩ := rep.purge now maxRecords
  refine ⟨_,rep.oldest now (min maxRecords 10000),answer,fun text => ?_⟩
  rw [after.byId,rep.byId]
  rfl

/-- Any calls, with any arguments, leave the indexes in agreement and the store within
its bound; a refused call changes nothing, an insertion found room, and a purge takes
exactly the oldest expired records up to its limit. -/
theorem memory_store_invariant (operations : List Operation) :
    let memory := (Operation.performAll operations MemoryTaskRoutes.empty).2
    Indexed memory ∧
    (∀ record error, (beginOrExisting record memory).1 = .error error →
      (beginOrExisting record memory).2 = memory) ∧
    (∀ caller id version update error,
      (compareAndSetTaskRoute caller id version update memory).1 = .error error →
        (compareAndSetTaskRoute caller id version update memory).2 = memory) ∧
    (∀ record r, (beginOrExisting record memory).1 = .ok (.inserted r) →
      memory.countValues (fun existing => existing.caller == record.caller &&
        !existing.isExpired record.createdAtUnixMs) ≤ 255) ∧
    (∀ now maxRecords, ∃ gone, Oldest memory now (min maxRecords 10000) gone ∧
      (purgeExpiredTaskRoutes now maxRecords memory).1 = .ok gone.length ∧
      ∀ text, (purgeExpiredTaskRoutes now maxRecords memory).2.byId.lookup text =
        if text ∈ gone.map (fun entry => (ofLex entry).2) then none
        else memory.byId.lookup text) := by
  intro memory
  obtain ⟨routes,holds⟩ := Holds.empty.performAll operations
  refine ⟨holds.indexed,?_,?_,?_,?_⟩
  · exact fun _ _ failed => atomically_error failed
  · exact fun _ _ _ _ _ failed => atomically_error failed
  · exact fun _ _ begun => Nat.le_of_lt_succ (begin_active begun)
  · exact holds.rep.purge_oldest

end MemoryTaskRoutes
end GaugeMesh
