import GaugeMesh.Run.Runs
import GaugeMesh.Storage.Equivalence

/-! What is committed and what is read back. The write side accepts values of every
depth and a cached JSON null; the read side refuses text nested deeper than the parser
goes, and takes the cached null as absent. Everything else reads back as it was. -/
namespace GaugeMesh
open Json

section

variable [SerdeJson] [Sha256]

namespace TaskRouteTable

/-- Both ways to look the record up give it back. -/
def Reloads (table : TaskRouteTable) (r : TaskRouteRecord) : Prop :=
  table.selectTaskRouteByPublicId r.caller r.publicTaskId = .ok (some r) ∧
    ∀ key, r.idempotencyKey = some key →
      table.selectTaskRouteByIdempotency r.caller key = .ok (some r)

variable {table : TaskRouteTable} {routes : Routes} {r record : TaskRouteRecord}

theorem decodeSelected_written (valid : r.Valid) :
    decodeSelected (some (stored r)) = .ok (some r) ↔ r.Readable := by
  rw [← decode_written rfl valid (stored_matches r),decodeSelected]
  rcases decodeTaskRoute (stored r) with error | x <;> simp

theorem Represents.reloads (rep : Represents table routes) (found : routes r.publicTaskId = some r) :
    table.Reloads r ↔ r.Readable := by
  have valid := rep.ok.valid _ r found
  have byId : table.selectTaskRouteByPublicId r.caller r.publicTaskId =
      decodeSelected (some (stored r)) := by
    rw [selectTaskRouteByPublicId,rep.select_id,found,Option.filter_some_pos (by simp),
      Option.map_some]
  have byKey : ∀ key, r.idempotencyKey = some key →
      table.selectTaskRouteByIdempotency r.caller key = decodeSelected (some (stored r)) := by
    intro key held
    rw [selectTaskRouteByIdempotency,rep.select_key,rep.ok.holder.mpr ⟨found,rfl,held⟩,
      Option.map_some]
  constructor
  · rintro ⟨read,-⟩
    exact (decodeSelected_written valid).mp (byId ▸ read)
  · intro readable
    have read := (decodeSelected_written valid).mpr readable
    exact ⟨byId.trans read,fun key held => (byKey key held).trans read⟩

/-- An empty table takes every prepared record. -/
theorem begin_empty (prepared : record.verifyPreparedForBegin = .ok ()) :
    (beginOrExisting record empty).1 = .ok (.inserted record) := by
  have valid := (TaskRouteRecord.verifyPreparedForBegin_ok.mp prepared).1
  obtain ⟨after,inserted⟩ : ∃ after, insertChecked record empty = .ok (.inserted record,after) := by
    have fits : (stored record).admissible = true ∧
        ∀ other ∈ empty.rows, (stored record).Distinct other :=
      ⟨stored_admissible valid,by simp [empty]⟩
    simp [insertChecked,toSqliteInteger_ok valid.shaped.numbers.1,rowOf_valid valid,
      insert,fits,reject,select,count,empty,maxStoredTaskRoutes,maxActiveTaskRoutesPerCaller]
  rw [beginOrExisting,atomically,prepared]
  rcases held : record.idempotencyKey with _ | key
  · simp only [taskRouteResult,Except.ok_then,inserted]
  · have absent : empty.selectTaskRouteByIdempotency record.caller key = .ok none := by
      simp [selectTaskRouteByIdempotency,select,empty,decodeSelected]
    simp only [taskRouteResult,Except.ok_then,absent,inserted]

/-- An existing record is answered because it was read. -/
theorem existing_read (begun : beginOrExisting record table = (.ok (.existing r),after)) :
    ∃ key, record.idempotencyKey = some key ∧
      table.selectTaskRouteByIdempotency record.caller key = .ok (some r) := by
  have insertion : ∀ (table' : TaskRouteTable) x,
      insertChecked record table' = .ok x → x.1 = .inserted record := by
    intro table' x done
    simp only [insertChecked,Except.then_ok] at done
    obtain ⟨-,done⟩ := done
    obtain ⟨created,-,done⟩ := Except.bind_ok.mp done
    obtain ⟨row,-,done⟩ := Except.bind_ok.mp (Except.then_ok.mp done).2
    obtain ⟨inserted,-,done⟩ := Except.bind_ok.mp done
    cases done; rfl
  unfold beginOrExisting atomically at begun
  split at begun
  · next result after' ran =>
    cases begun
    rw [Except.then_ok] at ran
    obtain ⟨-,ran⟩ := ran
    split at ran
    · cases insertion _ _ ran
    · next key held =>
      obtain ⟨found,read,rest⟩ := Except.bind_ok.mp ran
      rcases found with _ | existing
      · cases insertion _ _ rest
      · by_cases expired : existing.isExpired record.createdAtUnixMs = true
        · simp only [expired,if_true] at rest
          obtain ⟨-,rest⟩ := Except.then_ok.mp rest
          cases insertion _ _ rest
        · simp only [expired] at rest
          obtain ⟨-,rest⟩ := Except.then_ok.mp rest
          cases rest
          exact ⟨key,held,read⟩
  · cases begun

theorem Represents.begin_inserted (rep : Represents table routes)
    (begun : beginOrExisting record table = (.ok (.inserted r),after)) :
    after.Reloads r ↔ record.Readable := by
  obtain ⟨routes',represents,step⟩ := rep.begin_step record
  rw [begun] at represents step
  cases step with
  | inserted _ stored _ _ _ => exact represents.reloads stored

theorem Represents.begin_existing (rep : Represents table routes)
    (begun : beginOrExisting record table = (.ok (.existing r),after)) : after.Reloads r := by
  obtain ⟨key,-,read⟩ := existing_read begun
  obtain ⟨routes',represents,step⟩ := rep.begin_step record
  rw [begun] at represents step
  cases step with
  | existing stored _ _ _ =>
    have holds : routes.holder record.caller key = some r := by
      rcases rep.find record.caller key with same | ⟨error,unread⟩
      · exact Except.ok.inj (same.symm.trans read)
      · cases unread.symm.trans read
    rw [selectTaskRouteByIdempotency,rep.select_key,holds] at read
    exact (represents.reloads stored).mpr
      ((decodeSelected_written (rep.ok.valid _ r stored)).mp read)

theorem Represents.compareAndSet_reloads {i : PublicTaskId} (rep : Represents table routes)
    (set : compareAndSetTaskRoute caller i version change table = (.ok (some r),after)) :
    after.Reloads r ↔ ∀ v, change.cachedTerminalState = some v →
      v ≠ .null ∧ v.depth < SerdeJson.recursionLimit := by
  obtain ⟨routes',represents,step⟩ := rep.compareAndSet_step caller i version change
  rw [set] at represents step
  cases step with
  | @set current _ here owner _ moved =>
    have read : table.selectTaskRouteByPublicId caller i = .ok (some current) := by
      rcases rep.get caller i with same | ⟨error,unread⟩
      · rw [same,Routes.get,here,Option.filter_some_pos (by simpa using owner)]
      · rw [compareAndSetTaskRoute,atomically,unread] at set
        cases set
    have readable : current.Readable := by
      rw [selectTaskRouteByPublicId,rep.select_id,here,
        Option.filter_some_pos (by simpa using owner)] at read
      exact (decodeSelected_written (rep.ok.valid i current here)).mp read
    have there : Function.update routes i (some r) r.publicTaskId = some r := by
      obtain ⟨upstream,digest,rfl⟩ := (TaskRouteRecord.transition_ok moved).moved
      change Function.update routes i _ current.publicTaskId = _
      rw [rep.ok.id i current here,Function.update_self]
    rw [represents.reloads there]
    exact readable.transition moved

end TaskRouteTable

namespace RunTable

/-- Both ways to look the run up give it back. -/
def Reloads (table : RunTable) (r : RunRecord) : Prop :=
  table.getRun r.caller r.runId = .ok (some r) ∧ table.findRun r.caller r.runKey = .ok (some r)

variable {table : RunTable} {runs : Runs} {r old : RunRecord}

theorem Represents.find_key (rep : Represents table runs) (found : runs r.runId = some r) :
    table.runs.find? (heldBy r.caller r.runKey) = some (stored r) := by
  rcases selected : table.runs.find? (heldBy r.caller r.runKey) with _ | row
  · have missed := List.find?_eq_none.mp selected _ (rep.member found)
    exact absurd (heldBy_stored.mpr ⟨rfl,rfl⟩) missed
  · obtain ⟨s,here,rfl,owner,key⟩ := rep.find_held selected
    by_contra different
    have distinct := table.uniqueRuns.forall (rep.member here) (rep.member found)
      fun same => different (congrArg some same)
    exact distinct.2 (by simp [stored,owner,key])

theorem Represents.reloads (rep : Represents table runs) (found : runs r.runId = some r) :
    table.Reloads r ↔ r.data.depth ≤ SerdeJson.recursionLimit := by
  have byKey : table.findRun r.caller r.runKey = table.load r.caller r.runId := by
    simp only [findRun,rep.find_key found]
    rfl
  unfold Reloads
  rw [byKey,getRun,and_self,rep.load found]
  by_cases shallow : r.data.depth ≤ SerdeJson.recursionLimit <;> simp [shallow]

/-- An existing run is answered because it was read. -/
theorem Represents.existing_read (rep : Represents table runs) (found : runs r.runId = some r)
    (begun : beginRun fresh r.caller r.runKey data table = (.ok r,after)) :
    table.load r.caller r.runId = .ok (some r) := by
  rw [rep.load found]
  split
  · rfl
  · next deep =>
    have unread := rep.load found
    rw [if_neg deep] at unread
    unfold beginRun atomically at begun
    split at begun
    · next ran =>
      rw [Except.then_ok,rep.find_key found] at ran
      obtain ⟨x,read,-⟩ := Except.bind_ok.mp ran.2
      cases unread.symm.trans read
    · cases begun

theorem Represents.begin_reloads (rep : Represents table runs)
    (begun : beginRun fresh caller key data table = (.ok r,after)) :
    after.Reloads r ↔ table.findRun caller key ≠ .ok none ∨
      data.depth ≤ SerdeJson.recursionLimit := by
  obtain ⟨runs',represents,step⟩ := rep.begin fresh caller key data
  rw [begun] at represents step
  cases step with
  | accepted new free made =>
    obtain ⟨shape,-⟩ := RunRecord.append_ok.mp made
    have absent : table.findRun caller key = .ok none := by
      unfold findRun
      rcases selected : table.runs.find? (heldBy caller key) with _ | row
      · rfl
      · obtain ⟨s,here,-,held⟩ := rep.find_held selected
        exact absurd held (new _ s here)
    have id : r.runId = fresh := by rw [shape]
    have kept : r.data = data := by rw [shape]
    rw [represents.reloads (by rw [id,Function.update_self]),kept,absent]
    simp
  | existing stored owner held plan =>
    subst owner; subst held
    have read := rep.existing_read stored begun
    have found : table.findRun r.caller r.runKey = .ok (some r) := by
      simp only [findRun,rep.find_key stored]
      exact read
    refine ⟨fun _ => .inl (by rw [found]; simp),fun _ => (represents.reloads stored).mpr ?_⟩
    rw [rep.load stored] at read
    split at read
    · assumption
    · cases read

theorem Represents.advance_reloads (rep : Represents table runs)
    (advanced : advanceRun old data kind table = (.ok r,after)) :
    after.Reloads r ↔ data.depth ≤ SerdeJson.recursionLimit := by
  obtain ⟨runs',represents,step⟩ := rep.advance old data kind
  rw [advanced] at represents step
  cases step with
  | @advanced current _ stored owner _ _ made =>
    obtain ⟨shape,-⟩ := RunRecord.append_ok.mp made
    have id : r.runId = old.runId := by
      rw [shape]
      exact rep.id _ current stored
    have kept : r.data = data := by rw [shape]
    rw [represents.reloads (by rw [id,Function.update_self]),kept]

end RunTable
/-- The two halves of one database file. -/
structure SqliteStorage where
  taskRoutes : TaskRouteTable
  runs : RunTable

namespace SqliteStorage

/-- The stores that operations lead to from an empty one. -/
inductive Reached : SqliteStorage → Prop
  | empty : Reached ⟨.empty,.empty⟩
  | routes (before : Reached s) (operation : Operation) :
      Reached { s with taskRoutes := (operation.perform s.taskRoutes).2 }
  | beginRun (before : Reached s) (fresh : String) (caller : TaskRouteCaller) (key : String)
      (data : Value) :
      Reached { s with runs := (RunTable.beginRun fresh caller key data s.runs).2 }
  | advanceRun (before : Reached s) (old : RunRecord) (data : Value) (kind : String) :
      Reached { s with runs := (RunTable.advanceRun old data kind s.runs).2 }

/-- The store right after its first record. -/
theorem Reached.first {record : TaskRouteRecord}
    (begun : (TaskRouteTable.beginOrExisting record .empty).1 = .ok (.inserted record)) :
    ∃ s : SqliteStorage, s.Reached ∧ ∃ routes, s.taskRoutes.Represents routes ∧
      routes record.publicTaskId = some record := by
  have reached := Reached.empty.routes (.beginOrExisting record)
  obtain ⟨routes,rep,step⟩ := TaskRouteTable.Represents.empty.begin_step record
  rw [begun] at step
  obtain ⟨-,stored,-,-,-⟩ := step
  exact ⟨_,reached,routes,rep,stored⟩

theorem Reached.represents {s : SqliteStorage} (reached : s.Reached) :
    (∃ routes, s.taskRoutes.Represents routes) ∧ ∃ runs, s.runs.Represents runs := by
  induction reached with
  | empty => exact ⟨⟨_,.empty⟩,_,.empty⟩
  | @routes s before operation ih =>
    obtain ⟨⟨routes,rep⟩,runs⟩ := ih
    refine ⟨?_,runs⟩
    cases operation with
    | findTaskRoute => exact ⟨routes,rep⟩
    | getTaskRoute => exact ⟨routes,rep⟩
    | beginOrExisting record =>
      obtain ⟨routes',after,-⟩ := rep.begin_step record
      exact ⟨routes',after⟩
    | compareAndSetTaskRoute caller id version update =>
      obtain ⟨routes',after,-⟩ := rep.compareAndSet_step caller id version update
      exact ⟨routes',after⟩
    | purgeExpiredTaskRoutes now limit =>
      exact ⟨_,(rep.purge now limit).2⟩
  | beginRun before fresh caller key data ih =>
    obtain ⟨routes,runs,rep⟩ := ih
    obtain ⟨runs',after,-⟩ := rep.begin fresh caller key data
    exact ⟨routes,runs',after⟩
  | advanceRun before old data kind ih =>
    obtain ⟨routes,runs,rep⟩ := ih
    obtain ⟨runs',after,-⟩ := rep.advance old data kind
    exact ⟨routes,runs',after⟩

/-- What a reached store accepts reads back exactly when the values fit the reader. -/
theorem commit_reloads {s : SqliteStorage} (reached : s.Reached) :
    (∀ record r after,
      TaskRouteTable.beginOrExisting record s.taskRoutes = (.ok (.inserted r),after) →
        (after.Reloads r ↔ record.Readable)) ∧
    (∀ record r after,
      TaskRouteTable.beginOrExisting record s.taskRoutes = (.ok (.existing r),after) →
        after.Reloads r) ∧
    (∀ caller id version update r after,
      TaskRouteTable.compareAndSetTaskRoute caller id version update s.taskRoutes =
          (.ok (some r),after) →
        (after.Reloads r ↔ ∀ v, update.cachedTerminalState = some v →
          v ≠ .null ∧ v.depth < SerdeJson.recursionLimit)) ∧
    (∀ fresh caller key data r after,
      RunTable.beginRun fresh caller key data s.runs = (.ok r,after) →
        (after.Reloads r ↔ s.runs.findRun caller key ≠ .ok none ∨
          data.depth ≤ SerdeJson.recursionLimit)) ∧
    (∀ old data kind r after,
      RunTable.advanceRun old data kind s.runs = (.ok r,after) →
        (after.Reloads r ↔ data.depth ≤ SerdeJson.recursionLimit)) := by
  obtain ⟨⟨routes,routesRep⟩,runs,runsRep⟩ := reached.represents
  refine ⟨?_,?_,?_,?_,?_⟩
  · exact fun _ _ _ begun => routesRep.begin_inserted begun
  · exact fun _ _ _ begun => routesRep.begin_existing begun
  · exact fun _ _ _ _ _ _ set => routesRep.compareAndSet_reloads set
  · exact fun _ _ _ _ _ _ begun => runsRep.begin_reloads begun
  · exact fun _ _ _ _ _ advanced => runsRep.advance_reloads advanced

end SqliteStorage

end

section Example
open Reference

/-- The answer of an operation next to the store it leaves. -/
theorem answered_with {run : α × β} (answer : run.1 = a) : run = (a,run.2) := by
  rw [← answer]

theorem sealedRoute_begun : (TaskRouteTable.beginOrExisting sealedRoute .empty).1 =
    .ok (.inserted sealedRoute) := TaskRouteTable.begin_empty sealedRoute_prepared

theorem SqliteStorage.commit_reloads_example :
    (TaskRouteTable.beginOrExisting sealedRoute .empty).2.Reloads sealedRoute := by
  exact ((SqliteStorage.commit_reloads .empty).1 _ _ _
    (answered_with sealedRoute_begun)).mpr sealedRoute_readable

/-- A terminal state that is JSON null is accepted and cannot be read back. -/
theorem SqliteStorage.null_state_lost :
    ¬∀ s : SqliteStorage, s.Reached → ∀ caller id version update r after,
      TaskRouteTable.compareAndSetTaskRoute caller id version update s.taskRoutes =
        (.ok (some r),after) → after.Reloads r := by
  intro reloads
  obtain ⟨s,reached,routes,rep,stored⟩ := SqliteStorage.Reached.first sealedRoute_begun
  obtain ⟨next,moved⟩ : ∃ next, sealedRoute.transition (.terminal 2000 .null) = .ok next := by
    rw [TaskRouteRecord.transition,sealedRoute_valid]
    exact ⟨_,rfl⟩
  have read := ((rep.reloads stored).mpr sealedRoute_readable).1
  have found : s.taskRoutes.selectTaskRouteByPublicId sealedRoute.caller
        sealedRoute.publicTaskId =
      .ok ((routes sealedRoute.publicTaskId).filter fun r => r.caller = sealedRoute.caller) := by
    rw [read,stored,Option.filter_some_pos (by simp)]
  have set := (rep.compareAndSet_of 0 (.terminal 2000 .null) found).1
  have accepted : (routes.compareAndSet sealedRoute.caller sealedRoute.publicTaskId 0
      (.terminal 2000 .null)).1 = .ok (some next) := by
    have fresh : sealedRoute.transitionVersion = 0 := rfl
    simp [Routes.compareAndSet,stored,fresh,moved]
  have whole := answered_with (set.trans accepted)
  have lost := (rep.compareAndSet_reloads whole).mp (reloads s reached _ _ _ _ _ _ whole)
  exact (lost .null rfl).1 rfl

end Example
end GaugeMesh
