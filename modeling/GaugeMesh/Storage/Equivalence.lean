import GaugeMesh.Json.Reference
import GaugeMesh.Storage.Memory
import GaugeMesh.Storage.SqliteRefinement

/-! The two stores side by side. Started empty and given the same calls they answer
the same and hold the same records, as long as the values they are given survive being
written as JSON text. -/
namespace GaugeMesh
open Json

inductive Operation where
  | findTaskRoute (caller : TaskRouteCaller) (key : TaskRouteIdempotencyKey)
  | beginOrExisting (record : TaskRouteRecord)
  | getTaskRoute (caller : TaskRouteCaller) (publicTaskId : PublicTaskId)
  | compareAndSetTaskRoute (caller : TaskRouteCaller) (publicTaskId : PublicTaskId)
    (expectedTransitionVersion : Nat) (update : TaskRouteUpdate)
  | purgeExpiredTaskRoutes (nowUnixMs maxRecords : Nat)

inductive Outcome where
  | route (result : Except TaskRouteStorageError (Option TaskRouteRecord))
  | begun (result : Except TaskRouteStorageError BeginTaskRouteResult)
  | purged (result : Except TaskRouteStorageError Nat)

namespace Operation

def perform [TaskRouteStorage σ] : Operation → σ → Outcome × σ
  | findTaskRoute caller key, s => (.route (TaskRouteStorage.findTaskRoute s caller key),s)
  | getTaskRoute caller id, s => (.route (TaskRouteStorage.getTaskRoute s caller id),s)
  | beginOrExisting record, s =>
    let (result,after) := TaskRouteStorage.beginOrExisting record s
    (.begun result,after)
  | compareAndSetTaskRoute caller id version update, s =>
    let (result,after) := TaskRouteStorage.compareAndSetTaskRoute caller id version update s
    (.route result,after)
  | purgeExpiredTaskRoutes now maxRecords, s =>
    let (result,after) := TaskRouteStorage.purgeExpiredTaskRoutes now maxRecords s
    (.purged result,after)

def performAll [TaskRouteStorage σ] : List Operation → σ → List Outcome × σ
  | [], s => ([],s)
  | operation :: rest, s =>
    let (outcome,after) := operation.perform s
    let (outcomes,last) := performAll rest after
    (outcome :: outcomes,last)

theorem performAll_cons [TaskRouteStorage σ] {operation : Operation} {rest : List Operation} {s t : σ}
    (done : operation.perform s = (outcome,t)) :
    (performAll (operation :: rest) s).1 = outcome :: (performAll rest t).1 := by
  rw [performAll,done]

/-- The values the operation stores survive a JSON text round trip. -/
def RoundTrips [SerdeJson] : Operation → Prop
  | beginOrExisting record => record.Readable
  | compareAndSetTaskRoute _ _ _ update => ∀ v, update.cachedTerminalState = some v →
      v ≠ .null ∧ v.depth < SerdeJson.recursionLimit
  | _ => True

end Operation

namespace TaskRouteRecord

/-- How deep the document of a record is nested. -/
theorem encode_depth (r : TaskRouteRecord) (limit : Nat) : r.encode.depth ≤ limit ↔
    2 ≤ limit ∧ r.submissionBinding.depth < limit ∧
      ∀ v, r.cachedTerminalState = some v → v.depth < limit := by
  have key : (toValue r.idempotencyKey).depth = 0 := by cases r.idempotencyKey <;> rfl
  have upstream : (toValue r.upstreamTaskId).depth = 0 := by cases r.upstreamTaskId <;> rfl
  have owner : (toValue r.dispatchOwnerId).depth = 0 := by cases r.dispatchOwnerId <;> rfl
  have caller : (toValue r.caller).depth = 1 := rfl
  have capability : (toValue r.capability).depth = 1 := rfl
  have leaf : ∀ n : Nat, (toValue n).depth = 0 := fun n => rfl
  have text : ∀ t : String, (toValue t).depth = 0 := fun t => rfl
  have digest : ∀ d : Sha256Digest, (toValue d).depth = 0 := fun d => rfl
  have whole : r.encode.depth =
      max 1 (max r.submissionBinding.depth (toValue r.cachedTerminalState).depth) + 1 := by
    have version : (toValue r.schemaVersion).depth = 0 := rfl
    have id : (toValue r.publicTaskId).depth = 0 := rfl
    have source : (toValue r.capabilitySource).depth = 0 := rfl
    have phase : (toValue r.phase).depth = 0 := rfl
    have binding : (toValue r.submissionBinding).depth = r.submissionBinding.depth := rfl
    simp only [encode,sealedFields,Value.depth,Value.depthEntries,List.cons_append,List.nil_append,
      key,upstream,owner,caller,capability,leaf,text,digest,version,id,source,phase,binding]
    omega
  rw [whole]
  rcases r.cachedTerminalState with _ | v
  · have absent : (toValue (none : Option Value)).depth = 0 := rfl
    simp only [absent,reduceCtorEq,false_implies,implies_true,and_true]
    omega
  · have present : (toValue (some v)).depth = v.depth := rfl
    simp only [present,Option.some.injEq,forall_eq']
    omega

/-- A transition keeps a record readable exactly when the state it caches is. -/
theorem Readable.transition [SerdeJson] [Sha256] {r next : TaskRouteRecord} (readable : r.Readable)
    (moved : r.transition update = .ok next) : next.Readable ↔
      ∀ v, update.cachedTerminalState = some v → v ≠ .null ∧ v.depth < SerdeJson.recursionLimit := by
  obtain ⟨upstream,digest,rfl⟩ := (transition_ok moved).moved
  obtain ⟨base,binding,-⟩ := (encode_depth r _).mp readable.1
  constructor
  · rintro ⟨depth,present⟩ v cached
    refine ⟨?_,((encode_depth _ _).mp depth).2.2 v cached⟩
    rintro rfl
    exact present cached
  · intro values
    refine ⟨(encode_depth _ _).mpr ⟨base,binding,fun v cached => (values v cached).2⟩,?_⟩
    intro cached
    exact (values .null cached).1 rfl

end TaskRouteRecord

/-- The records a store holds. -/
def MemoryTaskRoutes.records (memory : MemoryTaskRoutes) : Set TaskRouteRecord :=
  {r | ∃ id, memory.byId.lookup id = some r}

def TaskRouteTable.records [SerdeJson] [Sha256] (table : TaskRouteTable) : Set TaskRouteRecord :=
  {r | ∃ row ∈ table.rows, decodeTaskRoute row = .ok r}

section Coupling

variable [SerdeJson] [Sha256] {memory : MemoryTaskRoutes} {table : TaskRouteTable}

/-- Both stores represent the same routes, and every one of them can be read back. -/
structure Coupled (memory : MemoryTaskRoutes) (table : TaskRouteTable) (routes : Routes) : Prop where
  memory : memory.Represents routes
  table : table.Represents routes
  readable : ∀ id r, routes id = some r → r.Readable

namespace Coupled

variable {routes : Routes}

theorem find (coupled : Coupled memory table routes) (caller : TaskRouteCaller)
    (key : TaskRouteIdempotencyKey) :
    table.selectTaskRouteByIdempotency caller key = memory.findTaskRoute caller key := by
  rw [coupled.memory.find,TaskRouteTable.selectTaskRouteByIdempotency,coupled.table.select_key]
  refine TaskRouteTable.Represents.decodeSelected_readable coupled.table.holder_valid ?_
  intro r holds
  exact coupled.readable _ r (coupled.table.ok.holder.mp holds).1

theorem get (coupled : Coupled memory table routes) (caller : TaskRouteCaller) (i : PublicTaskId) :
    table.selectTaskRouteByPublicId caller i = memory.getTaskRoute caller i := by
  rw [coupled.memory.get,TaskRouteTable.selectTaskRouteByPublicId,coupled.table.select_id]
  refine TaskRouteTable.Represents.decodeSelected_readable coupled.table.owned_valid ?_
  intro r found
  exact coupled.readable i r (Option.filter_eq_some_iff.mp found).1

theorem begin (coupled : Coupled memory table routes) (readable : record.Readable) :
    (MemoryTaskRoutes.beginOrExisting record memory).1 =
        (TaskRouteTable.beginOrExisting record table).1 ∧
      Coupled (MemoryTaskRoutes.beginOrExisting record memory).2
        (TaskRouteTable.beginOrExisting record table).2 (routes.begin record).2 := by
  obtain ⟨result,after⟩ := coupled.memory.begin record
  have read : ∀ key, record.idempotencyKey = some key →
      table.selectTaskRouteByIdempotency record.caller key =
        .ok (routes.holder record.caller key) :=
    fun key _ => (coupled.find record.caller key).trans coupled.memory.find
  obtain ⟨other,tableAfter⟩ := coupled.table.begin_of read
  refine ⟨result.trans other.symm,after,tableAfter,fun id r found => ?_⟩
  rcases (Routes.begin_step coupled.memory.ok).stored found with old | ⟨-,rfl,-⟩
  · exact coupled.readable id r old
  · exact readable

theorem compareAndSet (coupled : Coupled memory table routes) (caller : TaskRouteCaller)
    (i : PublicTaskId) (version : Nat) (update : TaskRouteUpdate)
    (values : ∀ v, update.cachedTerminalState = some v →
      v ≠ .null ∧ v.depth < SerdeJson.recursionLimit) :
    (MemoryTaskRoutes.compareAndSetTaskRoute caller i version update memory).1 =
        (TaskRouteTable.compareAndSetTaskRoute caller i version update table).1 ∧
      Coupled (MemoryTaskRoutes.compareAndSetTaskRoute caller i version update memory).2
        (TaskRouteTable.compareAndSetTaskRoute caller i version update table).2
        (routes.compareAndSet caller i version update).2 := by
  obtain ⟨result,after⟩ := coupled.memory.compareAndSet caller i version update
  have read : table.selectTaskRouteByPublicId caller i =
      .ok ((routes i).filter fun r => r.caller = caller) :=
    (coupled.get caller i).trans coupled.memory.get
  obtain ⟨other,tableAfter⟩ := coupled.table.compareAndSet_of version update read
  refine ⟨result.trans other.symm,after,tableAfter,fun id r found => ?_⟩
  rcases Routes.compareAndSet_step.stored found with old | ⟨-,-,current,old,-,-,moved⟩
  · exact coupled.readable id r old
  · exact ((coupled.readable i current old).transition moved).mpr values

theorem purge (coupled : Coupled memory table routes) (now limit : Nat) :
    (MemoryTaskRoutes.purgeExpiredTaskRoutes now limit memory).1 =
        (TaskRouteTable.purgeExpiredTaskRoutes now limit table).1 ∧
      Coupled (MemoryTaskRoutes.purgeExpiredTaskRoutes now limit memory).2
        (TaskRouteTable.purgeExpiredTaskRoutes now limit table).2 (routes.purge now limit).2 := by
  obtain ⟨result,after⟩ := coupled.memory.purge now limit
  obtain ⟨other,tableAfter⟩ := coupled.table.purge now limit
  refine ⟨result.trans other.symm,after,tableAfter,fun id r found => ?_⟩
  exact coupled.readable id r (Routes.purge_step.stored found)

/-- One call: the same answer, and the stores stay coupled. -/
theorem perform (coupled : Coupled memory table routes) (operation : Operation)
    (values : operation.RoundTrips) :
    (operation.perform memory).1 = (operation.perform table).1 ∧
      ∃ after, Coupled (operation.perform memory).2 (operation.perform table).2 after := by
  cases operation with
  | findTaskRoute caller key =>
    exact ⟨congrArg Outcome.route (coupled.find caller key).symm,routes,coupled⟩
  | getTaskRoute caller id =>
    exact ⟨congrArg Outcome.route (coupled.get caller id).symm,routes,coupled⟩
  | beginOrExisting record =>
    obtain ⟨result,after⟩ := coupled.begin values
    exact ⟨congrArg Outcome.begun result,_,after⟩
  | compareAndSetTaskRoute caller id version update =>
    obtain ⟨result,after⟩ := coupled.compareAndSet caller id version update values
    exact ⟨congrArg Outcome.route result,_,after⟩
  | purgeExpiredTaskRoutes now limit =>
    obtain ⟨result,after⟩ := coupled.purge now limit
    exact ⟨congrArg Outcome.purged result,_,after⟩

theorem performAll (coupled : Coupled memory table routes) (operations : List Operation)
    (values : ∀ operation ∈ operations, operation.RoundTrips) :
    (Operation.performAll operations memory).1 = (Operation.performAll operations table).1 ∧
      ∃ after, Coupled (Operation.performAll operations memory).2
        (Operation.performAll operations table).2 after := by
  induction operations generalizing memory table routes with
  | nil => exact ⟨rfl,routes,coupled⟩
  | cons operation rest ih =>
    obtain ⟨answer,after,next⟩ := coupled.perform operation (values operation List.mem_cons_self)
    obtain ⟨answers,last,final⟩ :=
      ih next fun other member => values other (List.mem_cons_of_mem _ member)
    exact ⟨by simp only [Operation.performAll,answer,answers],last,final⟩

/-- Every row reads back as the record the memory store holds under its id. -/
theorem records (coupled : Coupled memory table routes) :
    memory.records = table.records ∧ memory.byId.keys.card = table.rows.length := by
  constructor
  · ext r
    constructor
    · rintro ⟨text,found⟩
      rw [coupled.memory.byId] at found
      have valid := coupled.table.ok.valid _ r found
      refine ⟨TaskRouteTable.stored r,coupled.table.member found,?_⟩
      exact (TaskRouteTable.decode_written rfl valid (TaskRouteTable.stored_matches r)).mpr
        (coupled.readable _ r found)
    · rintro ⟨row,member,decoded⟩
      obtain ⟨s,found,rfl⟩ := (coupled.table.rows row).mp member
      have same := TaskRouteTable.decode_written_ok rfl (coupled.table.ok.valid _ s found) decoded
      exact ⟨s.publicTaskId.text,by rw [coupled.memory.byId,same]; exact found⟩
  · have rows := coupled.table.count fun _ => true
    rw [TaskRouteTable.count,List.filter_true] at rows
    rw [coupled.memory.card,rows]
    simp only

end Coupled

/-- Both stores, started empty, answer every sequence of calls alike and end with the
same records. -/
theorem stores_agree (operations : List Operation)
    (values : ∀ operation ∈ operations, operation.RoundTrips) :
    let memory := Operation.performAll operations MemoryTaskRoutes.empty
    let table := Operation.performAll operations TaskRouteTable.empty
    memory.1 = table.1 ∧ memory.2.records = table.2.records ∧
      memory.2.byId.keys.card = table.2.rows.length := by
  have start : Coupled MemoryTaskRoutes.empty TaskRouteTable.empty fun _ => none :=
    ⟨.empty,.empty,fun _ _ found => by cases found⟩
  obtain ⟨answers,after,coupled⟩ := start.performAll operations values
  exact ⟨answers,coupled.records⟩

end Coupling

namespace MemoryTaskRoutes.Represents

variable [FloatText] [Sha256] {memory : MemoryTaskRoutes} {routes after : Routes}

theorem perform_begin (rep : Represents memory routes)
    (begun : routes.begin record = (answer,after)) :
    ∃ s, (Operation.beginOrExisting record).perform memory = (.begun answer,s) ∧
      Represents s after := by
  obtain ⟨answered,next⟩ := rep.begin record
  rw [begun] at answered next
  exact ⟨_,Prod.ext (congrArg Outcome.begun answered) rfl,next⟩

theorem perform_compareAndSet {i : PublicTaskId} (rep : Represents memory routes)
    (set : routes.compareAndSet caller i version update = (answer,after)) :
    ∃ s, (Operation.compareAndSetTaskRoute caller i version update).perform memory =
      (.route answer,s) ∧ Represents s after := by
  obtain ⟨answered,next⟩ := rep.compareAndSet caller i version update
  rw [set] at answered next
  exact ⟨_,Prod.ext (congrArg Outcome.route answered) rfl,next⟩

theorem perform_purge (rep : Represents memory routes)
    (purged : routes.purge now limit = (answer,after)) :
    ∃ s, (Operation.purgeExpiredTaskRoutes now limit).perform memory = (.purged answer,s) := by
  have answered := (rep.purge now limit).1
  rw [purged] at answered
  exact ⟨_,Prod.ext (congrArg Outcome.purged answered) rfl⟩

end MemoryTaskRoutes.Represents

section Example
open Reference

def exampleCapability : CapabilityId :=
  ⟨⟨"worker-a"⟩,.tool,.default,.default,⟨"v1"⟩,.default⟩

noncomputable def exampleRoute : TaskRouteRecord :=
  .prepared ⟨"gmt_1"⟩ ⟨⟨"alice"⟩,⟨"tenant-a"⟩⟩ (some ⟨"key"⟩) (.ofJson .null) .null
    exampleCapability "session-1" 1000 10000 .default

noncomputable def sealedRoute : TaskRouteRecord :=
  { exampleRoute with integrityDigest := exampleRoute.expectedIntegrityDigest }

theorem sealedRoute_readable : sealedRoute.Readable :=
  ⟨(TaskRouteRecord.encode_depth _ _).mpr ⟨by decide,by decide,nofun⟩,nofun⟩

theorem sealedRoute_valid : sealedRoute.verifyIntegrity = .ok () :=
  TaskRouteRecord.verifyIntegrity_ok.mpr
    ⟨rfl,(TaskRouteRecord.expectedIntegrityDigest_with exampleRoute _).symm⟩

theorem sealedRoute_prepared : sealedRoute.verifyPreparedForBegin = .ok () :=
  TaskRouteRecord.verifyPreparedForBegin_ok.mpr ⟨sealedRoute_valid,rfl,rfl,rfl,rfl,rfl⟩

/-- A route that is begun, claimed, read and, once it has expired, purged. -/
noncomputable def exampleRun : List Operation := [
  .beginOrExisting sealedRoute,
  .compareAndSetTaskRoute sealedRoute.caller sealedRoute.publicTaskId sealedRoute.transitionVersion
    (.dispatching "proxy-a" 2000),
  .getTaskRoute sealedRoute.caller sealedRoute.publicTaskId,
  .purgeExpiredTaskRoutes 20000 1]

theorem sealedRoute_claimed : ∃ next : TaskRouteRecord,
    sealedRoute.transition (.dispatching "proxy-a" 2000) = .ok next ∧
      next.publicTaskId = sealedRoute.publicTaskId ∧ next.caller = sealedRoute.caller ∧
      next.isExpired 20000 = true := by
  rw [TaskRouteRecord.transition,sealedRoute_valid]
  exact ⟨_,rfl,rfl,rfl,rfl⟩

/-- The memory store begins the route, moves it, reads it and drops it. -/
theorem exampleRun_memory (moved : sealedRoute.transition (.dispatching "proxy-a" 2000) = .ok next)
    (same : next.publicTaskId = sealedRoute.publicTaskId) (owner : next.caller = sealedRoute.caller)
    (expired : next.isExpired 20000 = true) :
    (Operation.performAll exampleRun MemoryTaskRoutes.empty).1 = [
      .begun (.ok (.inserted sealedRoute)),.route (.ok (some next)),.route (.ok (some next)),
      .purged (.ok 1)] := by
  have moves := Routes.compareAndSet_moved
    (Function.update_self sealedRoute.publicTaskId (some sealedRoute) fun _ => none) moved
  rw [Function.update_idem] at moves
  have room : 0 < boundedTaskRoutePurgeLimit 1 := by decide
  have purges := Routes.purge_only expired room
  rw [same] at purges
  obtain ⟨s1,begun,first⟩ := MemoryTaskRoutes.Represents.empty.perform_begin
    (Routes.begin_empty sealedRoute_prepared)
  obtain ⟨s2,set,second⟩ := first.perform_compareAndSet moves
  have read : s2.getTaskRoute sealedRoute.caller sealedRoute.publicTaskId = _ := second.get
  rw [Routes.get,Function.update_self,Option.filter_some_pos (by simpa using owner)] at read
  obtain ⟨s3,gone⟩ := second.perform_purge purges
  have found : (Operation.getTaskRoute sealedRoute.caller sealedRoute.publicTaskId).perform s2 =
      (.route (.ok (some next)),s2) := Prod.ext (congrArg Outcome.route read) rfl
  rw [exampleRun,Operation.performAll_cons begun,Operation.performAll_cons set,
    Operation.performAll_cons found,Operation.performAll_cons gone]
  rfl

theorem stores_agree_example : ∃ next,
    let answers := [.begun (.ok (.inserted sealedRoute)),.route (.ok (some next)),
      .route (.ok (some next)),.purged (.ok 1)]
    let memory := Operation.performAll exampleRun MemoryTaskRoutes.empty
    let table := Operation.performAll exampleRun TaskRouteTable.empty
    memory.1 = answers ∧ table.1 = answers ∧ memory.2.records = table.2.records ∧
      memory.2.byId.keys.card = table.2.rows.length := by
  obtain ⟨next,moved,same,owner,expired⟩ := sealedRoute_claimed
  have answered := exampleRun_memory moved same owner expired
  have values : ∀ operation ∈ exampleRun, operation.RoundTrips := by
    have begins : (Operation.beginOrExisting sealedRoute).RoundTrips := sealedRoute_readable
    have moves : (Operation.compareAndSetTaskRoute sealedRoute.caller sealedRoute.publicTaskId
      sealedRoute.transitionVersion (.dispatching "proxy-a" 2000)).RoundTrips := by
      intro v written
      cases written
    simp only [exampleRun,List.forall_mem_cons,List.not_mem_nil,false_implies,implies_true,and_true]
    exact ⟨begins,moves,trivial,trivial⟩
  obtain ⟨agree,kept⟩ := stores_agree exampleRun values
  exact ⟨next,answered,agree.symm.trans answered,kept⟩

end Example
end GaugeMesh
