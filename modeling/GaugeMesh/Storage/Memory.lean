import GaugeMesh.Storage.Routes
import Mathlib.Data.Finmap
import Mathlib.Data.Finset.Sort
import Mathlib.Data.Set.Card

/-! `MemoryStorage`: records by id with two more indexes, one by caller and key, one
in order of expiry. All three are written by hand in each operation; together they
represent one map of routes. -/
namespace GaugeMesh
open Json

structure MemoryTaskRoutes where
  byId : Finmap fun _ : String => TaskRouteRecord
  byIdempotency : Finmap fun _ : TaskRouteCaller × TaskRouteIdempotencyKey => PublicTaskId
  byExpiry : Finset (Nat ×ₗ String)

/-- A sorted list up to the first failure of a test that smaller elements also pass. -/
theorem takeWhile_sorted [Preorder α] {items : List α} {test : α → Bool}
    (sorted : items.Pairwise (· < ·)) (down : ∀ a b, a < b → test b = true → test a = true) :
    items.takeWhile test = items.filter test := by
  induction items with
  | nil => rfl
  | cons head rest ih =>
    by_cases passes : test head = true
    · rw [List.takeWhile_cons_of_pos passes,List.filter_cons_of_pos passes,ih sorted.of_cons]
    · rw [List.takeWhile_cons_of_neg passes,List.filter_cons_of_neg passes,eq_comm,
        List.filter_eq_nil_iff]
      intro item member later
      exact passes (down head item (List.rel_of_pairwise_cons sorted member) later)

namespace MemoryTaskRoutes

def empty : MemoryTaskRoutes := ⟨∅,∅,∅⟩

def removeExpired (routes : MemoryTaskRoutes)
    (scope : TaskRouteCaller × TaskRouteIdempotencyKey) (existingId : PublicTaskId) :
    MemoryTaskRoutes :=
  let removed := match routes.byId.lookup existingId.text with
    | some expired => { routes with
        byId := routes.byId.erase existingId.text
        byExpiry := routes.byExpiry.erase
          (toLex (expired.expiresAtUnixMs,expired.publicTaskId.text)) }
    | none => routes
  { removed with byIdempotency := removed.byIdempotency.erase scope }

def insert (routes : MemoryTaskRoutes) (record : TaskRouteRecord) : MemoryTaskRoutes where
  byIdempotency := match record.idempotencyKey with
    | some key => routes.byIdempotency.insert (record.caller,key) record.publicTaskId
    | none => routes.byIdempotency
  byId := routes.byId.insert record.publicTaskId.text record
  byExpiry := Insert.insert (toLex (record.expiresAtUnixMs,record.publicTaskId.text)) routes.byExpiry

def countValues (routes : MemoryTaskRoutes) (counted : TaskRouteRecord → Bool) : Nat :=
  (routes.byId.keys.filter fun id => (routes.byId.lookup id).any counted).card

/-- One route of the sorted list of expired ones. -/
def purgeOne (routes : MemoryTaskRoutes) (entry : Nat ×ₗ String) : MemoryTaskRoutes :=
  let id := (ofLex entry).2
  let removed := match routes.byId.lookup id with
    | some record => { routes with
        byId := routes.byId.erase id
        byIdempotency := match record.idempotencyKey with
          | some key => routes.byIdempotency.erase (record.caller,key)
          | none => routes.byIdempotency }
    | none => routes
  { removed with byExpiry := removed.byExpiry.erase entry }

def purgeExpiredTaskRoutes (nowUnixMs maxRecords : Nat) (routes : MemoryTaskRoutes) :
    Except TaskRouteStorageError Nat × MemoryTaskRoutes :=
  let limit := boundedTaskRoutePurgeLimit maxRecords
  if limit = 0 then (.ok 0,routes)
  else
    let expired := ((routes.byExpiry.sort (· ≤ ·)).takeWhile
      fun entry => decide ((ofLex entry).1 ≤ nowUnixMs)).take limit
    (.ok expired.length,expired.foldl purgeOne routes)

variable [FloatText] [Sha256]

def findTaskRoute (routes : MemoryTaskRoutes) (caller : TaskRouteCaller)
    (key : TaskRouteIdempotencyKey) : Except TaskRouteStorageError (Option TaskRouteRecord) :=
  match (routes.byIdempotency.lookup (caller,key)).bind fun id => routes.byId.lookup id.text with
  | none => .ok none
  | some record => do
    taskRouteResult record.verifyIntegrity
    return some record

/-- What `begin` finds under the key of the new record: a route to return, or the
expired one to replace, or none. -/
def heldKey (routes : MemoryTaskRoutes) (record : TaskRouteRecord) :
    Except TaskRouteStorageError (TaskRouteRecord ⊕
      Option ((TaskRouteCaller × TaskRouteIdempotencyKey) × PublicTaskId)) :=
  match record.idempotencyKey with
  | none => .ok (.inr none)
  | some key =>
    match routes.byIdempotency.lookup (record.caller,key) with
    | none => .ok (.inr none)
    | some existingId => do
      let existing ← okOr (routes.byId.lookup existingId.text) .taskRouteIntegrity
      taskRouteResult existing.verifyIntegrity
      if existing.isExpired record.createdAtUnixMs then
        return .inr (some ((record.caller,key),existingId))
      else do
        reject (existing.requestDigest ≠ record.requestDigest) .idempotencyConflict
        return .inl existing

def insertChecked (record : TaskRouteRecord)
    (expired : Option ((TaskRouteCaller × TaskRouteIdempotencyKey) × PublicTaskId))
    (routes : MemoryTaskRoutes) :
    Except TaskRouteStorageError (BeginTaskRouteResult × MemoryTaskRoutes) := do
  let collides := decide (record.publicTaskId.text ∈ routes.byId)
  let collisionIsExpired := expired.any fun found => found.2 == record.publicTaskId
  reject (collides ∧ ¬collisionIsExpired) .publicTaskIdCollision
  let storedAfterReplacement := routes.byId.keys.card - (if expired.isSome then 1 else 0)
  let activeForCaller := routes.countValues fun existing =>
    existing.caller == record.caller && !existing.isExpired record.createdAtUnixMs
  reject (maxStoredTaskRoutes ≤ storedAfterReplacement ∨
    maxActiveTaskRoutesPerCaller ≤ activeForCaller) .taskRouteCapacity
  let kept := match expired with
    | some (scope,existingId) => routes.removeExpired scope existingId
    | none => routes
  return (.inserted record,kept.insert record)

def beginOrExisting (record : TaskRouteRecord) : MemoryTaskRoutes →
    Except TaskRouteStorageError BeginTaskRouteResult × MemoryTaskRoutes :=
  atomically fun routes => do
    taskRouteResult record.verifyPreparedForBegin
    match ← routes.heldKey record with
    | .inl existing => return (.existing existing,routes)
    | .inr expired => insertChecked record expired routes

def getTaskRoute (routes : MemoryTaskRoutes) (caller : TaskRouteCaller)
    (publicTaskId : PublicTaskId) : Except TaskRouteStorageError (Option TaskRouteRecord) :=
  match routes.byId.lookup publicTaskId.text with
  | none => .ok none
  | some record =>
    if record.caller ≠ caller then .ok none
    else do
      taskRouteResult record.verifyIntegrity
      return some record

def compareAndSetTaskRoute (caller : TaskRouteCaller) (publicTaskId : PublicTaskId)
    (expectedTransitionVersion : Nat) (update : TaskRouteUpdate) : MemoryTaskRoutes →
    Except TaskRouteStorageError (Option TaskRouteRecord) × MemoryTaskRoutes :=
  atomically fun routes =>
    match routes.byId.lookup publicTaskId.text with
    | none => .ok (none,routes)
    | some current =>
      if current.caller ≠ caller then .ok (none,routes)
      else do
        taskRouteResult current.verifyIntegrity
        reject (current.transitionVersion ≠ expectedTransitionVersion) .staleTransition
        let next ← taskRouteResult (current.transition update)
        return (some next,{ routes with byId := routes.byId.insert publicTaskId.text next })

instance : TaskRouteStorage MemoryTaskRoutes where
  empty := empty
  findTaskRoute := findTaskRoute
  beginOrExisting := beginOrExisting
  getTaskRoute := getTaskRoute
  compareAndSetTaskRoute := compareAndSetTaskRoute
  purgeExpiredTaskRoutes := purgeExpiredTaskRoutes

/-- All three indexes describe the same routes. -/
structure Represents (memory : MemoryTaskRoutes) (routes : Routes) : Prop where
  ok : routes.WellFormed
  byId : ∀ text, memory.byId.lookup text = routes ⟨text⟩
  byIdempotency : ∀ caller key id, memory.byIdempotency.lookup (caller,key) = some id ↔
    ∃ r, routes id = some r ∧ r.caller = caller ∧ r.idempotencyKey = some key
  byExpiry : ∀ entry, entry ∈ memory.byExpiry ↔
    ∃ r, routes r.publicTaskId = some r ∧ entry = Routes.expiryEntry r

namespace Represents

variable {memory : MemoryTaskRoutes} {routes : Routes} {record old : TaskRouteRecord}
  {caller : TaskRouteCaller} {key : TaskRouteIdempotencyKey} {i : PublicTaskId}

theorem empty : Represents empty fun _ => none := by
  refine ⟨Routes.wellFormed_empty,fun _ => Finmap.lookup_empty _,?_,?_⟩
  · intro caller key id
    simp [MemoryTaskRoutes.empty,Finmap.lookup_empty]
  · intro entry
    simp [MemoryTaskRoutes.empty]

theorem count (rep : Represents memory routes) (counted : TaskRouteRecord → Bool) :
    memory.countValues counted = routes.count fun r => counted r = true := by
  have image : {id | ∃ r, routes id = some r ∧ counted r = true} = PublicTaskId.mk ''
      ↑(memory.byId.keys.filter fun id => (memory.byId.lookup id).any counted) := by
    ext id
    simp only [Set.mem_ofPred_eq,Set.mem_image,Finset.mem_coe,Finset.mem_filter,Finmap.mem_keys]
    constructor
    · rintro ⟨r,stored,good⟩
      have found := (rep.byId id.text).trans stored
      exact ⟨id.text,⟨Finmap.mem_of_lookup_eq_some found,by rw [found]; exact good⟩,rfl⟩
    · rintro ⟨text,⟨-,good⟩,rfl⟩
      rw [rep.byId,Option.any_eq_true] at good
      exact good
  have injective : Function.Injective PublicTaskId.mk := fun _ _ same => congrArg (·.text) same
  rw [countValues,Routes.count,image,Set.ncard_image_of_injective _ injective,Set.ncard_coe_finset]

theorem card (rep : Represents memory routes) :
    memory.byId.keys.card = routes.count fun _ => True := by
  have all := rep.count fun _ => true
  rw [countValues,Finset.filter_true_of_mem] at all
  · simpa using all
  · intro id member
    obtain ⟨r,found⟩ := Finmap.mem_iff.mp (Finmap.mem_keys.mp member)
    rw [found]; rfl

/-- Taking one stored route out of all three indexes. -/
theorem remove {r : TaskRouteRecord} {less : MemoryTaskRoutes} (rep : Represents memory routes)
    (stored : routes r.publicTaskId = some r)
    (byId : less.byId = memory.byId.erase r.publicTaskId.text)
    (byIdempotency : ∀ scope, less.byIdempotency.lookup scope =
      if r.idempotencyKey.map (r.caller,·) = some scope then none
      else memory.byIdempotency.lookup scope)
    (byExpiry : less.byExpiry = memory.byExpiry.erase (Routes.expiryEntry r)) :
    Represents less (Function.update routes r.publicTaskId none) := by
  refine ⟨rep.ok.erase _,?_,?_,?_⟩
  · intro text
    by_cases same : text = r.publicTaskId.text
    · subst same
      rw [byId,Finmap.lookup_erase,Function.update_self]
    · rw [byId,Finmap.lookup_erase_ne same,Function.update_of_ne (fun equal => same (congrArg (·.text) equal))]
      exact rep.byId text
  · intro caller key id
    rw [byIdempotency]
    split
    · next scope =>
      obtain ⟨held,owner⟩ : r.idempotencyKey = some key ∧ r.caller = caller := by
        rcases held : r.idempotencyKey with _ | other
        · rw [held] at scope; cases scope
        · rw [held] at scope; cases scope; exact ⟨rfl,rfl⟩
      simp only [reduceCtorEq,false_iff]
      rintro ⟨other,found,callers,keys⟩
      by_cases same : id = r.publicTaskId
      · subst same
        rw [Function.update_self] at found; cases found
      · rw [Function.update_of_ne same] at found
        exact absurd (rep.ok.key id other _ r key found stored (callers.trans owner.symm) keys held)
          same
    · next scope =>
      rw [rep.byIdempotency]
      by_cases same : id = r.publicTaskId
      · subst same
        rw [Function.update_self,stored]
        simp only [Option.some.injEq,exists_eq_left',reduceCtorEq,false_and,exists_false,iff_false]
        rintro ⟨callers,keys⟩
        rw [keys,callers] at scope
        exact scope rfl
      · rw [Function.update_of_ne same]
  · intro entry
    rw [byExpiry,Finset.mem_erase,rep.byExpiry]
    constructor
    · rintro ⟨different,other,found,rfl⟩
      refine ⟨other,?_,rfl⟩
      by_cases same : other.publicTaskId = r.publicTaskId
      · rw [same,stored] at found; cases found
        exact absurd rfl different
      · rw [Function.update_of_ne same]; exact found
    · rintro ⟨other,found,rfl⟩
      by_cases same : other.publicTaskId = r.publicTaskId
      · rw [same,Function.update_self] at found; cases found
      · rw [Function.update_of_ne same] at found
        exact ⟨fun equal => same (congrArg (fun e => PublicTaskId.mk (ofLex e).2) equal),other,found,rfl⟩

theorem insert (rep : Represents memory routes)
    (ok : Routes.WellFormed (Function.update routes record.publicTaskId (some record)))
    (free : routes record.publicTaskId = none) :
    Represents (memory.insert record) (Function.update routes record.publicTaskId (some record)) := by
  refine ⟨ok,?_,?_,?_⟩
  · intro text
    by_cases same : text = record.publicTaskId.text
    · subst same
      exact (Finmap.lookup_insert _).trans (Function.update_self record.publicTaskId _ routes).symm
    · rw [Function.update_of_ne (fun equal => same (congrArg (·.text) equal))]
      exact (Finmap.lookup_insert_of_ne _ same).trans (rep.byId text)
  · intro caller key id
    have scope : (memory.insert record).byIdempotency.lookup (caller,key) =
        if record.caller = caller ∧ record.idempotencyKey = some key then some record.publicTaskId
        else memory.byIdempotency.lookup (caller,key) := by
      rcases held : record.idempotencyKey with _ | k
      · simp [MemoryTaskRoutes.insert,held]
      · by_cases same : (caller,key) = (record.caller,k)
        · cases same
          simp [MemoryTaskRoutes.insert,held,Finmap.lookup_insert]
        · rw [if_neg (by rintro ⟨rfl,keys⟩; cases keys; exact same rfl)]
          simp only [MemoryTaskRoutes.insert,held]
          exact Finmap.lookup_insert_of_ne _ same
    rw [scope]
    split
    · next holds =>
      constructor
      · rintro equal
        cases equal
        exact ⟨record,Function.update_self ..,holds⟩
      · rintro ⟨other,found,callers,keys⟩
        exact congrArg some (ok.key _ record id other key (Function.update_self ..) found
          (holds.1.trans callers.symm) holds.2 keys)
    · next holds =>
      rw [rep.byIdempotency]
      by_cases same : id = record.publicTaskId
      · subst same
        rw [Function.update_self,free]
        simp only [Option.some.injEq,exists_eq_left',reduceCtorEq,false_and,exists_false,holds]
      · rw [Function.update_of_ne same]
  · intro entry
    rw [MemoryTaskRoutes.insert,Finset.mem_insert,rep.byExpiry]
    constructor
    · rintro (rfl | ⟨other,found,rfl⟩)
      · exact ⟨record,Function.update_self ..,rfl⟩
      · refine ⟨other,?_,rfl⟩
        rw [Function.update_of_ne]
        · exact found
        · intro same
          rw [same,free] at found; cases found
    · rintro ⟨other,found,rfl⟩
      by_cases same : other.publicTaskId = record.publicTaskId
      · rw [same,Function.update_self] at found; cases found
        exact .inl rfl
      · rw [Function.update_of_ne same] at found
        exact .inr ⟨other,found,rfl⟩

theorem valid {r : TaskRouteRecord} (rep : Represents memory routes) (stored : routes i = some r) :
    taskRouteResult r.verifyIntegrity = .ok () :=
  taskRouteResult_ok.mpr (rep.ok.valid i r stored)

/-- Following the key index and then the id index finds the holder of the key. -/
theorem indexed (rep : Represents memory routes) {id : PublicTaskId}
    (found : memory.byIdempotency.lookup (caller,key) = some id) :
    ∃ r, memory.byId.lookup id.text = some r ∧ routes id = some r ∧ r.publicTaskId = id ∧
      routes.holder caller key = some r := by
  obtain ⟨r,stored,owner,held⟩ := (rep.byIdempotency caller key id).mp found
  have same := rep.ok.id id r stored
  exact ⟨r,(rep.byId id.text).trans stored,stored,same,
    rep.ok.holder.mpr ⟨same.symm ▸ stored,owner,held⟩⟩

theorem unindexed (rep : Represents memory routes)
    (absent : memory.byIdempotency.lookup (caller,key) = none) :
    routes.holder caller key = none := by
  rw [Option.eq_none_iff_forall_ne_some]
  intro r holds
  have indexed := (rep.byIdempotency caller key r.publicTaskId).mpr ⟨r,rep.ok.holder.mp holds⟩
  rw [absent] at indexed
  cases indexed

theorem find (rep : Represents memory routes) :
    memory.findTaskRoute caller key = routes.find caller key := by
  unfold findTaskRoute Routes.find
  rcases found : memory.byIdempotency.lookup (caller,key) with _ | id
  · rw [rep.unindexed found]; rfl
  · obtain ⟨r,lookup,stored,-,holds⟩ := rep.indexed found
    rw [Option.bind_some,lookup,holds]
    simp only [rep.valid stored,Except.ok_then,Except.pure_ok]

theorem get (rep : Represents memory routes) :
    memory.getTaskRoute caller i = routes.get caller i := by
  unfold getTaskRoute Routes.get
  rw [rep.byId]
  rcases stored : routes i with _ | r
  · rfl
  · by_cases owner : r.caller = caller
    · simp only [owner,rep.valid stored,Option.filter,ne_eq,not_true,if_false,decide_true,if_true]
      rfl
    · simp [owner,Option.filter]

theorem heldKey_free (rep : Represents memory routes)
    (free : record.idempotencyKey.bind (routes.holder record.caller) = none) :
    memory.heldKey record = .ok (.inr none) := by
  unfold heldKey
  rcases held : record.idempotencyKey with _ | key
  · rfl
  · dsimp only
    rcases found : memory.byIdempotency.lookup (record.caller,key) with _ | id
    · rfl
    · obtain ⟨r,-,-,-,holds⟩ := rep.indexed found
      rw [held,Option.bind_some,holds] at free
      cases free

theorem heldKey_taken (rep : Represents memory routes)
    (held : record.idempotencyKey = some key) (holds : routes.holder record.caller key = some old) :
    memory.heldKey record = if old.isExpired record.createdAtUnixMs then
        .ok (.inr (some ((record.caller,key),old.publicTaskId)))
      else if old.requestDigest ≠ record.requestDigest then .error .idempotencyConflict
      else .ok (.inl old) := by
  unfold heldKey
  rw [held]
  dsimp only
  rcases found : memory.byIdempotency.lookup (record.caller,key) with _ | id
  · rw [rep.unindexed found] at holds; cases holds
  · obtain ⟨r,lookup,stored,same,other⟩ := rep.indexed found
    rw [holds] at other; cases other
    simp only [lookup,okOr,Except.ok_then,rep.valid stored,same]
    by_cases expired : old.isExpired record.createdAtUnixMs = true
    · simp only [expired,if_true,Except.pure_ok]
    · by_cases request : old.requestDigest = record.requestDigest
      · simp [expired,request,reject]
      · simp [expired,request,reject]

/-- The checks before an insertion count what is kept. -/
theorem insertChecked {kept : Routes}
    {expired : Option ((TaskRouteCaller × TaskRouteIdempotencyKey) × PublicTaskId)}
    (rep : Represents memory routes) (keptRep : Represents (match expired with
      | some (scope,existingId) => memory.removeExpired scope existingId
      | none => memory) kept)
    (ok : kept record.publicTaskId = none →
      Routes.WellFormed (Function.update kept record.publicTaskId (some record)))
    (collision : (record.publicTaskId.text ∈ memory.byId ∧
      (expired.any fun found => found.2 == record.publicTaskId) = false) ↔
        (kept record.publicTaskId).isSome)
    (card : memory.byId.keys.card - (if expired.isSome then 1 else 0) = kept.count fun _ => True)
    (active : (memory.countValues fun existing =>
      existing.caller == record.caller && !existing.isExpired record.createdAtUnixMs) =
        kept.count fun r => r.caller = record.caller ∧ r.isExpired record.createdAtUnixMs = false) :
    (atomically (MemoryTaskRoutes.insertChecked record expired) memory).1 =
        (Routes.insertNew record kept routes).1 ∧
      Represents (atomically (MemoryTaskRoutes.insertChecked record expired) memory).2
        (Routes.insertNew record kept routes).2 := by
  unfold atomically MemoryTaskRoutes.insertChecked Routes.insertNew
  simp only [decide_eq_true_eq,Bool.not_eq_true,card,active]
  by_cases collides : (kept record.publicTaskId).isSome
  · rw [if_pos collides,reject,if_pos (collision.mpr collides)]
    exact ⟨rfl,rep⟩
  · rw [if_neg collides,reject,if_neg (fun taken => collides (collision.mp taken))]
    by_cases full : maxStoredTaskRoutes ≤ kept.count (fun _ => True) ∨
        maxActiveTaskRoutesPerCaller ≤ kept.count (fun r =>
          r.caller = record.caller ∧ r.isExpired record.createdAtUnixMs = false)
    · rw [if_pos full,reject,if_pos full]
      exact ⟨rfl,rep⟩
    · rw [if_neg full,reject,if_neg full]
      have free : kept record.publicTaskId = none := by simpa using collides
      exact ⟨rfl,keptRep.insert (ok free) free⟩

theorem removeExpired (rep : Represents memory routes)
    (holds : routes.holder caller key = some old) :
    Represents (memory.removeExpired (caller,key) old.publicTaskId)
      (Function.update routes old.publicTaskId none) := by
  obtain ⟨stored,owner,held⟩ := rep.ok.holder.mp holds
  have lookup := (rep.byId old.publicTaskId.text).trans stored
  refine rep.remove stored ?_ ?_ ?_
  · simp [MemoryTaskRoutes.removeExpired,lookup]
  · intro scope
    simp only [MemoryTaskRoutes.removeExpired,lookup,held,owner,Option.map_some,Option.some.injEq]
    by_cases same : scope = (caller,key)
    · subst same
      rw [Finmap.lookup_erase,if_pos rfl]
    · rw [Finmap.lookup_erase_ne same,if_neg (Ne.symm same)]
  · simp only [MemoryTaskRoutes.removeExpired,lookup]
    rfl

theorem active (rep : Represents memory routes) :
    (memory.countValues fun existing =>
      existing.caller == record.caller && !existing.isExpired record.createdAtUnixMs) =
        routes.count fun r =>
          r.caller = record.caller ∧ r.isExpired record.createdAtUnixMs = false := by
  rw [rep.count]
  simp only [Bool.and_eq_true,beq_iff_eq,Bool.not_eq_true']

theorem mem_byId (rep : Represents memory routes) (id : PublicTaskId) :
    id.text ∈ memory.byId ↔ (routes id).isSome := by
  rw [← Finmap.lookup_isSome,rep.byId]

theorem insert_new (rep : Represents memory routes)
    (prepared : record.verifyPreparedForBegin = .ok ())
    (free : record.idempotencyKey.bind (routes.holder record.caller) = none) :
    (atomically (MemoryTaskRoutes.insertChecked record none) memory).1 =
        (Routes.insertNew record routes routes).1 ∧
      Represents (atomically (MemoryTaskRoutes.insertChecked record none) memory).2
        (Routes.insertNew record routes routes).2 := by
  refine rep.insertChecked rep ?_ ?_ ?_ rep.active
  · exact fun absent => rep.ok.insert prepared absent (rep.ok.unheld free)
  · simp [rep.mem_byId]
  · simpa using rep.card

theorem insert_replacing (rep : Represents memory routes)
    (prepared : record.verifyPreparedForBegin = .ok ())
    (held : record.idempotencyKey = some key) (holds : routes.holder record.caller key = some old)
    (expired : old.isExpired record.createdAtUnixMs = true) :
    (atomically (MemoryTaskRoutes.insertChecked record
        (some ((record.caller,key),old.publicTaskId))) memory).1 =
        (Routes.insertNew record (Function.update routes old.publicTaskId none) routes).1 ∧
      Represents (atomically (MemoryTaskRoutes.insertChecked record
        (some ((record.caller,key),old.publicTaskId))) memory).2
        (Routes.insertNew record (Function.update routes old.publicTaskId none) routes).2 := by
  obtain ⟨stored,-,-⟩ := rep.ok.holder.mp holds
  have kept := rep.removeExpired holds
  refine rep.insertChecked kept ?_ ?_ ?_ ?_
  · exact fun absent => (rep.ok.erase _).insert prepared absent (rep.ok.released held holds)
  · by_cases same : record.publicTaskId = old.publicTaskId
    · simp [same]
    · rw [rep.mem_byId,Function.update_of_ne same]
      simp [Ne.symm same]
  · rw [← kept.card]
    have member := Finmap.mem_keys.mpr ((rep.mem_byId old.publicTaskId).mpr (by rw [stored]; rfl))
    simp only [MemoryTaskRoutes.removeExpired,(rep.byId old.publicTaskId.text).trans stored,
      Finmap.keys_erase,Finset.card_erase_of_mem member,Option.isSome_some,if_true]
  · rw [rep.active]
    unfold Routes.count
    congr 1
    ext id
    by_cases same : id = old.publicTaskId
    · subst same
      simp [stored,expired]
    · simp [Function.update_of_ne same]

theorem begin (rep : Represents memory routes) (record : TaskRouteRecord) :
    (beginOrExisting record memory).1 = (routes.begin record).1 ∧
      Represents (beginOrExisting record memory).2 (routes.begin record).2 := by
  unfold beginOrExisting Routes.begin
  rcases prepared : record.verifyPreparedForBegin with error | ⟨⟩
  · exact ⟨rfl,rep⟩
  · dsimp only
    rcases taken : record.idempotencyKey.bind (routes.holder record.caller) with _ | old
    · have checked := rep.insert_new prepared taken
      simp only [atomically,taskRouteResult,Except.ok_then,rep.heldKey_free taken] at checked ⊢
      exact checked
    · obtain ⟨key,held,holds⟩ := Option.bind_eq_some_iff.mp taken
      by_cases expired : old.isExpired record.createdAtUnixMs = true
      · have checked := rep.insert_replacing prepared held holds expired
        simp only [atomically,taskRouteResult,Except.ok_then,rep.heldKey_taken held holds,expired,
          if_true] at checked ⊢
        exact checked
      · by_cases request : old.requestDigest = record.requestDigest
        · simpa [atomically,taskRouteResult,rep.heldKey_taken held holds,expired,request] using rep
        · simpa [atomically,taskRouteResult,rep.heldKey_taken held holds,expired,request] using rep

/-- A transition keeps what the other two indexes are about. -/
theorem advance {current next : TaskRouteRecord} (rep : Represents memory routes)
    (stored : routes i = some current) (moved : current.transition update = .ok next) :
    Represents { memory with byId := memory.byId.insert i.text next }
      (Function.update routes i (some next)) := by
  have ok : Routes.WellFormed (Function.update routes i (some next)) :=
    (Routes.CompareAndSet.set stored rfl rfl moved).wellFormed rep.ok
  obtain ⟨upstream,digest,rfl⟩ := (TaskRouteRecord.transition_ok moved).moved
  have same := rep.ok.id i current stored
  refine ⟨ok,?_,?_,?_⟩
  · intro text
    by_cases here : text = i.text
    · subst here
      exact (Finmap.lookup_insert _).trans (Function.update_self i _ routes).symm
    · rw [Function.update_of_ne (fun equal => here (congrArg (·.text) equal))]
      exact (Finmap.lookup_insert_of_ne _ here).trans (rep.byId text)
  · intro caller key id
    refine (rep.byIdempotency caller key id).trans ?_
    by_cases here : id = i
    · subst here
      simp [stored,TaskRouteRecord.moved]
    · rw [Function.update_of_ne here]
  · intro entry
    refine (rep.byExpiry entry).trans ?_
    constructor
    · rintro ⟨r,found,rfl⟩
      by_cases here : r.publicTaskId = i
      · rw [here,stored] at found; cases found
        refine ⟨current.moved update upstream digest,?_,rfl⟩
        rw [← same]
        exact Function.update_self ..
      · exact ⟨r,by rw [Function.update_of_ne here]; exact found,rfl⟩
    · rintro ⟨r,found,rfl⟩
      by_cases here : r.publicTaskId = i
      · rw [here,Function.update_self] at found; cases found
        exact ⟨current,by rw [same]; exact stored,rfl⟩
      · rw [Function.update_of_ne here] at found
        exact ⟨r,found,rfl⟩

theorem compareAndSet (rep : Represents memory routes) (caller : TaskRouteCaller)
    (i : PublicTaskId) (version : Nat) (update : TaskRouteUpdate) :
    (compareAndSetTaskRoute caller i version update memory).1 =
        (routes.compareAndSet caller i version update).1 ∧
      Represents (compareAndSetTaskRoute caller i version update memory).2
        (routes.compareAndSet caller i version update).2 := by
  unfold compareAndSetTaskRoute Routes.compareAndSet atomically
  dsimp only
  rw [rep.byId]
  rcases stored : routes i with _ | current
  · exact ⟨rfl,rep⟩
  · dsimp only
    by_cases owner : current.caller = caller
    · simp only [owner,ne_eq,not_true,if_false,rep.valid stored,Except.ok_then]
      by_cases fresh : current.transitionVersion = version
      · rcases moved : current.transition update with error | next
        · simpa [fresh,reject,taskRouteResult] using rep
        · simpa [fresh,reject,taskRouteResult] using rep.advance stored moved
      · simpa [fresh,reject] using rep
    · simpa [owner] using rep

/-- One expired route leaves all indexes. -/
theorem purgeOne {r : TaskRouteRecord} (rep : Represents memory routes)
    (stored : routes r.publicTaskId = some r) :
    Represents (memory.purgeOne (Routes.expiryEntry r))
      (Function.update routes r.publicTaskId none) := by
  have lookup : memory.byId.lookup (ofLex (Routes.expiryEntry r)).2 = some r :=
    (rep.byId r.publicTaskId.text).trans stored
  refine rep.remove stored ?_ ?_ ?_
  · simp only [MemoryTaskRoutes.purgeOne,lookup]
    rfl
  · intro scope
    simp only [MemoryTaskRoutes.purgeOne,lookup]
    rcases r.idempotencyKey with _ | key
    · simp
    · by_cases same : scope = (r.caller,key)
      · subst same
        simp [Finmap.lookup_erase]
      · simp [Finmap.lookup_erase_ne same,Ne.symm same]
  · simp only [MemoryTaskRoutes.purgeOne,lookup]

theorem purgeAll (rep : Represents memory routes) (entries : List (Nat ×ₗ String))
    (sorted : entries.Pairwise (· < ·)) (stored : ∀ entry ∈ entries,
      ∃ r, routes r.publicTaskId = some r ∧ entry = Routes.expiryEntry r) :
    Represents (entries.foldl MemoryTaskRoutes.purgeOne memory) (routes.without entries) := by
  induction entries generalizing memory routes with
  | nil => rw [Routes.without_nil]; exact rep
  | cons entry rest ih =>
    obtain ⟨r,found,rfl⟩ := stored entry List.mem_cons_self
    have less := rep.purgeOne found
    have tail := ih less sorted.of_cons ?_
    · rw [Routes.without_cons]
      exact tail
    · intro entry member
      obtain ⟨s,other,rfl⟩ := stored entry (List.mem_cons_of_mem _ member)
      refine ⟨s,?_,rfl⟩
      rw [Function.update_of_ne]
      · exact other
      · intro same
        rw [same,found] at other; cases other
        exact absurd (List.rel_of_pairwise_cons sorted member) (lt_irrefl _)

theorem due (rep : Represents memory routes) (now : Nat) :
    Routes.Due routes now ((memory.byExpiry.sort (· ≤ ·)).takeWhile
      fun entry => decide ((ofLex entry).1 ≤ now)) := by
  have sorted := memory.byExpiry.sortedLT_sort.pairwise
  refine ⟨sorted.sublist (List.takeWhile_sublist _),?_⟩
  intro entry
  rw [takeWhile_sorted sorted,List.mem_filter,Finset.mem_sort,rep.byExpiry]
  · constructor
    · rintro ⟨⟨r,stored,rfl⟩,past⟩
      exact ⟨r,stored,past,rfl⟩
    · rintro ⟨r,stored,past,rfl⟩
      exact ⟨⟨r,stored,rfl⟩,past⟩
  · intro a b below past
    have first : (ofLex a).1 ≤ (ofLex b).1 := Prod.Lex.monotone_fst _ _ below.le
    simp only [decide_eq_true_eq] at past ⊢
    omega

theorem purge (rep : Represents memory routes) (now limit : Nat) :
    (purgeExpiredTaskRoutes now limit memory).1 = (routes.purge now limit).1 ∧
      Represents (purgeExpiredTaskRoutes now limit memory).2 (routes.purge now limit).2 := by
  unfold purgeExpiredTaskRoutes Routes.purge
  have due := rep.due now
  rw [due.due]
  by_cases none : boundedTaskRoutePurgeLimit limit = 0
  · rw [if_pos none,none]
    refine ⟨rfl,?_⟩
    change Represents memory (routes.without [])
    rw [Routes.without_nil]
    exact rep
  · rw [if_neg none]
    refine ⟨rfl,rep.purgeAll _ (due.sorted.sublist (List.take_sublist _ _)) ?_⟩
    intro entry member
    obtain ⟨r,stored,-,equal⟩ := (due.member entry).mp (List.mem_of_mem_take member)
    exact ⟨r,stored,equal⟩

end Represents

end MemoryTaskRoutes
end GaugeMesh
