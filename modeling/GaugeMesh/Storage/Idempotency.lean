import GaugeMesh.Storage.Isolation
import GaugeMesh.Storage.Reload

/-! A caller and a key name one task until its route expires. The clock is the one the
callers read: it never goes back, and what they read of it may be late when it reaches the
store. A store keeps the promise as long as it can read its routes back. -/
namespace GaugeMesh
open Json

/-- The time an operation was called with. -/
def Operation.time : Operation → Nat
  | beginOrExisting record => record.createdAtUnixMs
  | purgeExpiredTaskRoutes now _ => now
  | _ => 0

namespace Routes

variable [FloatText] [Sha256] {before after : Routes} {r : TaskRouteRecord} {i : PublicTaskId}

/-- A route that has not expired stays through another begin. -/
theorem Begin.keeps (begun : Begin record before answer after) (stored : before i = some r)
    (live : r.isExpired record.createdAtUnixMs = false) : after i = some r := by
  cases begun with
  | existing => exact stored
  | refused => exact stored
  | inserted _ _ fresh others _ =>
    by_cases new : i = record.publicTaskId
    · subst new
      cases (fresh r stored).2.2.symm.trans live
    · rcases others i new with same | ⟨-,old,found,replaced⟩
      · rw [same,stored]
      · rw [stored] at found; cases found
        cases replaced.2.2.symm.trans live

theorem CompareAndSet.keeps {id : PublicTaskId}
    (set : CompareAndSet caller id version update before answer after) (stored : before i = some r) :
    after i = some r ∨ ∃ next, after i = some next ∧ r.transition update = .ok next := by
  cases set with
  | unknown => exact .inl stored
  | refused => exact .inl stored
  | set found _ _ moved =>
    by_cases same : i = id
    · subst same
      rw [stored] at found; cases found
      exact .inr ⟨_,Function.update_self ..,moved⟩
    · exact .inl ((Function.update_of_ne same ..).trans stored)

omit [FloatText] [Sha256] in
theorem Purge.keeps (purged : Purge now before after) (stored : before i = some r)
    (live : r.isExpired now = false) : after i = some r := by
  rcases purged i with same | ⟨-,old,found,expired⟩
  · rw [same,stored]
  · rw [stored] at found; cases found
    cases expired.symm.trans live

/-- The route is stored, in whatever version, and can be read. -/
structure Stands (unreadable : TaskRouteRecord → Option TaskRouteStorageError) (routes : Routes)
    (r current : TaskRouteRecord) : Prop where
  stored : routes r.publicTaskId = some current
  route : r.SameRoute current
  readable : unreadable current = none

variable {unreadable : TaskRouteRecord → Option TaskRouteStorageError} {routes : Routes}
  {record current : TaskRouteRecord}

/-- A begin with a key that is held and has not expired is answered with its holder. -/
theorem Stands.begin (stands : Stands unreadable routes r current) (ok : routes.WellFormed)
    (prepared : record.verifyPreparedForBegin = .ok ()) (caller : record.caller = r.caller)
    (key : record.idempotencyKey = r.idempotencyKey) (keyed : r.idempotencyKey.isSome)
    (live : r.isExpired record.createdAtUnixMs = false) :
    beginReading unreadable record routes =
      (if record.requestDigest = r.requestDigest then .ok (.existing current)
      else .error .idempotencyConflict,routes) := by
  obtain ⟨stored,route,readable⟩ := stands
  obtain ⟨held,known⟩ := Option.isSome_iff_exists.mp keyed
  have holds : record.idempotencyKey.bind (routes.holder record.caller) = some current := by
    rw [key,known,Option.bind_some]
    refine ok.holder.mpr ⟨?_,route.caller.trans caller.symm,route.idempotencyKey.trans known⟩
    rw [route.publicTaskId,stored]
  have fresh : current.isExpired record.createdAtUnixMs = false := by
    rw [TaskRouteRecord.isExpired,route.expiresAtUnixMs]
    exact live
  rw [beginReading,prepared]
  dsimp only
  rw [holds,reading_none (by rw [Option.bind_some,readable]),Routes.begin,prepared]
  dsimp only
  rw [holds]
  by_cases same : record.requestDigest = r.requestDigest
  · simp [fresh,same,route.requestDigest]
  · simp [fresh,same,route.requestDigest,Ne.symm same]

end Routes

/-- A store, the time, and the records it has said it inserted. -/
structure Timeline (σ : Type) where
  store : σ
  clock : Nat
  inserted : List TaskRouteRecord

namespace Timeline

/-- What a call says it inserted. -/
def insertedBy : Outcome → List TaskRouteRecord
  | .begun (.ok (.inserted record)) => [record]
  | _ => []

section
variable {σ : Type} [FloatText] [Sha256] [TaskRouteStorage σ]

def call (t : Timeline σ) (operation : Operation) : Timeline σ where
  store := (operation.perform t.store).2
  clock := t.clock
  inserted := insertedBy (operation.perform t.store).1 ++ t.inserted

omit [FloatText] [Sha256] in
theorem call_compareAndSet_inserted (t : Timeline σ) (caller : TaskRouteCaller) (i : PublicTaskId)
    (version : Nat) (update : TaskRouteUpdate) :
    (t.call (.compareAndSetTaskRoute caller i version update)).inserted = t.inserted := rfl

omit [FloatText] [Sha256] in
theorem call_compareAndSet_store (t : Timeline σ) (caller : TaskRouteCaller) (i : PublicTaskId)
    (version : Nat) (update : TaskRouteUpdate) :
    (t.call (.compareAndSetTaskRoute caller i version update)).store =
      (TaskRouteStorage.compareAndSetTaskRoute caller i version update t.store).2 := rfl

/-- The clock only moves on, and nobody calls with a time that is still to come. -/
inductive Reached (allowed : Operation → Prop) : Timeline σ → Prop
  | start (clock : Nat) : Reached allowed ⟨TaskRouteStorage.empty,clock,[]⟩
  | tick (before : Reached allowed t) (later : t.clock ≤ now) :
      Reached allowed { t with clock := now }
  | call (before : Reached allowed t) (operation : Operation) (fits : allowed operation)
      (read : operation.time ≤ t.clock) : Reached allowed (t.call operation)

/-- A caller and a key name at most one route that has not expired; every begin with them
finds that route, or the conflict with it. -/
structure Idempotent (t : Timeline σ) : Prop where
  unique : ∀ r ∈ t.inserted, ∀ s ∈ t.inserted, r.isExpired t.clock = false →
    s.isExpired t.clock = false → r.caller = s.caller → r.idempotencyKey.isSome →
      r.idempotencyKey = s.idempotencyKey → r.publicTaskId = s.publicTaskId
  existing : ∀ r ∈ t.inserted, r.isExpired t.clock = false → r.idempotencyKey.isSome →
    ∀ record, record.verifyPreparedForBegin = .ok () → record.createdAtUnixMs ≤ t.clock →
      record.caller = r.caller → record.idempotencyKey = r.idempotencyKey →
      record.requestDigest = r.requestDigest →
        ∃ current, (TaskRouteStorage.beginOrExisting record t.store).1 = .ok (.existing current) ∧
          current.publicTaskId = r.publicTaskId ∧
          TaskRouteStorage.getTaskRoute t.store r.caller r.publicTaskId = .ok (some current)
  conflict : ∀ r ∈ t.inserted, r.isExpired t.clock = false → r.idempotencyKey.isSome →
    ∀ record, record.verifyPreparedForBegin = .ok () → record.createdAtUnixMs ≤ t.clock →
      record.caller = r.caller → record.idempotencyKey = r.idempotencyKey →
      record.requestDigest ≠ r.requestDigest →
        TaskRouteStorage.beginOrExisting record t.store = (.error .idempotencyConflict,t.store)

end

section
variable {σ : Type} [FloatText] [Sha256] [TaskRouteStorage σ] [ExactTaskRouteStorage σ]

open ExactTaskRouteStorage

/-- The allowed operations store only what can be read back. -/
structure KeepsReadable (σ : Type) [TaskRouteStorage σ] [ExactTaskRouteStorage σ]
    (allowed : Operation → Prop) : Prop where
  begin : ∀ record, allowed (.beginOrExisting record) → record.Valid →
    unreadable σ record = none
  set : ∀ caller id version update r next,
    allowed (.compareAndSetTaskRoute caller id version update) → unreadable σ r = none →
      r.transition update = .ok next → unreadable σ next = none

/-- Every record that was inserted and has not expired still stands. -/
structure Consistent (t : Timeline σ) (routes : Routes) : Prop where
  rep : Represents t.store routes
  stands : ∀ r ∈ t.inserted, r.isExpired t.clock = false →
    ∃ current, Routes.Stands (unreadable σ) routes r current

/-- An empty store after a begin. -/
def first (σ : Type) [TaskRouteStorage σ] (clock : Nat) (record : TaskRouteRecord) : Timeline σ :=
  call ⟨TaskRouteStorage.empty,clock,[]⟩ (.beginOrExisting record)

theorem first_stored {clock : Nat} (prepared : record.verifyPreparedForBegin = .ok ()) :
    record ∈ (first σ clock record).inserted ∧ Represents (first σ clock record).store
      (Function.update (fun _ => none) record.publicTaskId (some record)) := by
  obtain ⟨answer,after⟩ := ExactTaskRouteStorage.begin (σ := σ) record empty
  rw [Routes.beginReading_empty prepared] at answer after
  refine ⟨?_,after⟩
  change record ∈ insertedBy (.begun (TaskRouteStorage.beginOrExisting record
    (TaskRouteStorage.empty : σ)).1) ++ []
  rw [answer]
  exact List.mem_cons_self

/-- What is read of a route after an update it accepted. -/
theorem read_moved {s : σ} {routes : Routes} {i : PublicTaskId} {r : TaskRouteRecord}
    (rep : Represents s routes) (stored : routes i = some r) (readable : unreadable σ r = none)
    (moved : r.transition update = .ok next) :
    TaskRouteStorage.getTaskRoute (TaskRouteStorage.compareAndSetTaskRoute r.caller i
      r.transitionVersion update s).2 r.caller i = Routes.read (unreadable σ) (some next) := by
  have after := (ExactTaskRouteStorage.compareAndSet r.caller i r.transitionVersion update rep).2
  rw [Routes.compareAndSetReading_moved stored readable moved] at after
  dsimp only at after
  have owner := (TaskRouteRecord.transition_ok moved).sameRoute.caller
  rw [get after,Function.update_self,Option.filter_some_pos (by simpa using owner)]

variable {t : Timeline σ} {routes : Routes} {allowed : Operation → Prop}

omit [FloatText] [Sha256] in
theorem isExpired_mono {r : TaskRouteRecord} (earlier : now ≤ later)
    (live : r.isExpired later = false) : r.isExpired now = false := by
  simp only [TaskRouteRecord.isExpired,decide_eq_false_iff_not] at live ⊢
  omega

theorem Consistent.begin (consistent : Consistent t routes)
    (keeps : KeepsReadable σ allowed) (record : TaskRouteRecord)
    (fits : allowed (.beginOrExisting record)) (read : record.createdAtUnixMs ≤ t.clock) :
    ∃ after, Consistent (t.call (.beginOrExisting record)) after := by
  obtain ⟨rep,stands⟩ := consistent
  obtain ⟨answer,represents⟩ := ExactTaskRouteStorage.begin record rep
  have step : Routes.Begin record routes (Routes.beginReading (unreadable σ) record routes).1
      (Routes.beginReading (unreadable σ) record routes).2 :=
    Routes.beginReading_step (wellFormed rep) record
  rw [← answer] at step
  generalize (Routes.beginReading (unreadable σ) record routes).2 = after at represents step
  refine ⟨after,represents,?_⟩
  intro r member live
  have old : r ∈ t.inserted → ∃ current, Routes.Stands (unreadable σ) after r current := by
    intro known
    obtain ⟨current,stored,route,readable⟩ := stands r known live
    refine ⟨current,step.keeps stored ?_,route,readable⟩
    rw [TaskRouteRecord.isExpired,route.expiresAtUnixMs]
    exact isExpired_mono read live
  rcases List.mem_append.mp member with new | known
  · change r ∈ insertedBy (.begun (TaskRouteStorage.beginOrExisting record t.store).1) at new
    generalize (TaskRouteStorage.beginOrExisting record t.store).1 = given at step new
    cases step with
    | existing => cases new
    | refused => cases new
    | inserted prepared stored _ _ _ =>
      cases List.mem_singleton.mp new
      have valid := (TaskRouteRecord.verifyPreparedForBegin_ok.mp prepared).1
      exact ⟨record,stored,.refl record,keeps.begin record fits valid⟩
  · exact old known

theorem Consistent.compareAndSet (consistent : Consistent t routes)
    (keeps : KeepsReadable σ allowed) (caller : TaskRouteCaller) (i : PublicTaskId)
    (version : Nat) (update : TaskRouteUpdate)
    (fits : allowed (.compareAndSetTaskRoute caller i version update)) :
    ∃ after, Consistent (t.call (.compareAndSetTaskRoute caller i version update)) after := by
  obtain ⟨rep,stands⟩ := consistent
  obtain ⟨-,represents⟩ := ExactTaskRouteStorage.compareAndSet caller i version update rep
  have step : Routes.CompareAndSet caller i version update routes
      (Routes.compareAndSetReading (unreadable σ) caller i version update routes).1
      (Routes.compareAndSetReading (unreadable σ) caller i version update routes).2 :=
    Routes.compareAndSetReading_step
  refine ⟨_,represents,?_⟩
  intro r member live
  obtain ⟨current,stored,route,readable⟩ := stands r member live
  rcases step.keeps stored with kept | ⟨next,found,moved⟩
  · exact ⟨current,kept,route,readable⟩
  · have step := TaskRouteRecord.transition_ok moved
    exact ⟨next,found,route.trans step.sameRoute,keeps.set _ _ _ _ _ _ fits readable moved⟩

theorem Consistent.purge (consistent : Consistent t routes) (now limit : Nat)
    (read : now ≤ t.clock) :
    ∃ after, Consistent (t.call (.purgeExpiredTaskRoutes now limit)) after := by
  obtain ⟨rep,stands⟩ := consistent
  obtain ⟨-,represents⟩ := ExactTaskRouteStorage.purge now limit rep
  refine ⟨_,represents,?_⟩
  intro r member live
  obtain ⟨current,stored,route,readable⟩ := stands r member live
  refine ⟨current,Routes.purge_step.keeps stored ?_,route,readable⟩
  rw [TaskRouteRecord.isExpired,route.expiresAtUnixMs]
  exact isExpired_mono read live

theorem Reached.consistent (keeps : KeepsReadable σ allowed) (reached : Reached allowed t) :
    ∃ routes, Consistent t routes := by
  induction reached with
  | start => exact ⟨_,empty,nofun⟩
  | tick before later ih =>
    obtain ⟨routes,rep,stands⟩ := ih
    exact ⟨routes,rep,fun r member live => stands r member (isExpired_mono later live)⟩
  | call before operation fits read ih =>
    obtain ⟨routes,consistent⟩ := ih
    cases operation with
    | findTaskRoute => exact ⟨routes,consistent.rep,consistent.stands⟩
    | getTaskRoute => exact ⟨routes,consistent.rep,consistent.stands⟩
    | beginOrExisting record => exact consistent.begin keeps record fits read
    | compareAndSetTaskRoute caller id version update =>
      exact consistent.compareAndSet keeps caller id version update fits
    | purgeExpiredTaskRoutes now limit => exact consistent.purge now limit read

/-- A store that changes nothing when it refuses keeps the promise. -/
theorem Consistent.idempotent (consistent : Consistent t routes)
    (refused : ∀ record error, (TaskRouteStorage.beginOrExisting record t.store).1 = .error error →
      (TaskRouteStorage.beginOrExisting record t.store).2 = t.store) : t.Idempotent := by
  obtain ⟨rep,stands⟩ := consistent
  have ok := wellFormed rep
  constructor
  case unique =>
    intro r left s right liveLeft liveRight caller keyed key
    obtain ⟨first,stored,route,-⟩ := stands r left liveLeft
    obtain ⟨second,stored',route',-⟩ := stands s right liveRight
    obtain ⟨held,known⟩ := Option.isSome_iff_exists.mp keyed
    exact ok.key _ first _ second held stored stored'
      (route.caller.trans (caller.trans route'.caller.symm))
      (route.idempotencyKey.trans known) (route'.idempotencyKey.trans (key.symm.trans known))
  case existing =>
    intro r member live keyed record prepared read caller key same
    obtain ⟨current,stand⟩ := stands r member live
    refine ⟨current,?_,stand.route.publicTaskId,?_⟩
    · rw [(ExactTaskRouteStorage.begin record rep).1,
        stand.begin ok prepared caller key keyed (isExpired_mono read live),if_pos same]
    · rw [get rep,stand.stored,Option.filter_some_pos (by simpa using stand.route.caller),
        Routes.read,Option.bind_some,stand.readable]
  case conflict =>
    intro r member live keyed record prepared read caller key other
    obtain ⟨current,stand⟩ := stands r member live
    have answer : (TaskRouteStorage.beginOrExisting record t.store).1 =
        .error .idempotencyConflict := by
      rw [(ExactTaskRouteStorage.begin record rep).1,
        stand.begin ok prepared caller key keyed (isExpired_mono read live),if_neg other]
    exact Prod.ext answer (refused record _ answer)

end

section
variable [SerdeJson] [Sha256]

/-- The memory store keeps the promise in every run, the database in every run that stores
only values that survive being written as JSON text. -/
theorem caller_scoped_idempotency :
    (∀ t : Timeline MemoryTaskRoutes, t.Reached (fun _ => True) → t.Idempotent) ∧
    ∀ t : Timeline TaskRouteTable, t.Reached Operation.RoundTrips → t.Idempotent := by
  constructor
  · intro t reached
    have keeps : KeepsReadable MemoryTaskRoutes fun _ => True :=
      ⟨fun _ _ _ => rfl,fun _ _ _ _ _ _ _ _ _ => rfl⟩
    obtain ⟨routes,consistent⟩ := reached.consistent keeps
    exact consistent.idempotent fun _ _ failed => atomically_error failed
  · intro t reached
    have keeps : KeepsReadable TaskRouteTable Operation.RoundTrips := by
      constructor
      · exact fun record fits valid => (TaskRouteTable.undecodable_readable valid).mpr fits
      · intro _ _ _ update r next fits readable moved
        have step := TaskRouteRecord.transition_ok moved
        have before := (TaskRouteTable.undecodable_readable step.before).mp readable
        exact (TaskRouteTable.undecodable_readable step.after).mpr
          ((before.transition moved).mpr fits)
    obtain ⟨routes,consistent⟩ := reached.consistent keeps
    exact consistent.idempotent fun _ _ failed => atomically_error failed

end

section Example
open Reference

theorem sealedRoute_live : sealedRoute.isExpired 1000 = false := rfl

theorem sealedRoute_on_time : (Operation.beginOrExisting sealedRoute).time ≤ 1000 := by decide

/-- Right after it was inserted, a route answers a second begin. -/
theorem caller_scoped_idempotency_example :
    ∃ current, (TaskRouteStorage.beginOrExisting sealedRoute
        (first MemoryTaskRoutes 1000 sealedRoute).store).1 = .ok (.existing current) ∧
      current.publicTaskId = sealedRoute.publicTaskId := by
  have reached : (first MemoryTaskRoutes 1000 sealedRoute).Reached fun _ => True :=
    .call (.start 1000) _ trivial sealedRoute_on_time
  obtain ⟨current,answer,same,-⟩ := (caller_scoped_idempotency.1 _ reached).existing sealedRoute
    (first_stored sealedRoute_prepared).1 sealedRoute_live rfl sealedRoute sealedRoute_prepared
    sealedRoute_on_time rfl rfl rfl
  exact ⟨current,answer,same⟩

/-- A database route whose terminal state is JSON null no longer answers a begin. -/
theorem null_state_unanswered :
    ¬∀ t : Timeline TaskRouteTable, t.Reached (fun _ => True) → t.Idempotent := by
  intro idempotent
  obtain ⟨next,moved⟩ : ∃ next, sealedRoute.transition (.terminal 2000 .null) = .ok next := by
    rw [TaskRouteRecord.transition,sealedRoute_valid]
    exact ⟨_,rfl⟩
  let last := (first TaskRouteTable 1000 sealedRoute).call
    (.compareAndSetTaskRoute sealedRoute.caller sealedRoute.publicTaskId
      sealedRoute.transitionVersion (.terminal 2000 .null))
  have reached : last.Reached fun _ => True :=
    .call (.call (.start 1000) _ trivial sealedRoute_on_time) _ trivial (Nat.zero_le _)
  have known : sealedRoute ∈ last.inserted := by
    rw [call_compareAndSet_inserted]
    exact (first_stored sealedRoute_prepared).1
  obtain ⟨current,-,-,read⟩ := (idempotent last reached).existing sealedRoute known
    sealedRoute_live rfl sealedRoute sealedRoute_prepared sealedRoute_on_time rfl rfl rfl
  have readable : TaskRouteTable.undecodable sealedRoute = none :=
    (TaskRouteTable.undecodable_readable sealedRoute_valid).mpr sealedRoute_readable
  have last_read : TaskRouteStorage.getTaskRoute last.store sealedRoute.caller
      sealedRoute.publicTaskId = Routes.read TaskRouteTable.undecodable (some next) := by
    rw [call_compareAndSet_store]
    exact read_moved (first_stored sealedRoute_prepared).2 (Function.update_self ..) readable moved
  rcases lost : TaskRouteTable.undecodable next with _ | error
  · have valid := (TaskRouteRecord.transition_ok moved).after
    have kept := (sealedRoute_readable.transition moved).mp
      ((TaskRouteTable.undecodable_readable valid).mp lost)
    exact (kept .null rfl).1 rfl
  · rw [read,Routes.read,Option.bind_some,lost] at last_read
    cases last_read

end Example
end Timeline
end GaugeMesh
